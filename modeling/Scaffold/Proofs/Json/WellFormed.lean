import Mathlib
import Scaffold.Proofs.Json.Numeral
import Scaffold.Json.Members

/-!
# Well-formed values

A value is well-formed if the members of all its objects are in order, each name once, and none
of its numbers is undefined. Whatever is read from a JSON text is so.
-/

namespace Scaffold

/-! ## Defined numbers -/

namespace Double

theorem toNat_bits_ofSignAndBits {negative : Bool} {body : Nat} (h : body < 2 ^ 63) :
    (ofSignAndBits negative body).bits.toNat = if negative then 2 ^ 63 + body else body := by
  unfold ofSignAndBits
  rw [UInt64.toNat_ofNat']
  split_ifs <;> omega

theorem isNaN_eq_false_iff {x : Double} :
    x.isNaN = false ↔ (x.exponentField = 2047 → x.fractionField = 0) := by
  simp [isNaN]

theorem isNaN_ofSignAndBits {negative : Bool} {body : Nat} (h : body ≤ 2047 * 2 ^ 52) :
    (ofSignAndBits negative body).isNaN = false := by
  rw [isNaN_eq_false_iff, exponentField, fractionField, toNat_bits_ofSignAndBits (by omega)]
  split_ifs <;> omega

theorem isNaN_zero (negative : Bool) : (zero negative).isNaN = false :=
  isNaN_ofSignAndBits (Nat.zero_le _)

/-- What is too large is infinite, and not undefined. -/
theorem isNaN_capped (negative : Bool) (body : Nat) :
    (if 2047 * 2 ^ 52 ≤ body then infinity negative
      else ofSignAndBits negative body).isNaN = false := by
  split
  · exact isNaN_ofSignAndBits (Nat.le_refl _)
  · rename_i hbody
    exact isNaN_ofSignAndBits (Nat.le_of_not_le hbody)

theorem isNaN_ofRatio (negative : Bool) (num den : Nat) :
    (ofRatio negative num den).isNaN = false := by
  unfold ofRatio
  split
  · exact isNaN_zero negative
  · exact isNaN_capped negative _

theorem isNaN_timesFinite (x y : Double) : (x.timesFinite y).isNaN = false := by
  unfold timesFinite
  dsimp only
  split_ifs <;> exact isNaN_ofRatio _ _ _

theorem isNaN_dividedByFinite (x y : Double) : (x.dividedByFinite y).isNaN = false := by
  unfold dividedByFinite
  dsimp only
  split_ifs <;> exact isNaN_ofRatio _ _ _

/-- Only the sign changes. -/
theorem bits_negate (x : Double) : x.negate.bits.toNat % 2 ^ 63 = x.bits.toNat % 2 ^ 63 := by
  have hsign : UInt64.toNat 0x8000000000000000 % 2 ^ 63 = 0 := by decide
  rw [negate, UInt64.toNat_xor, Nat.xor_mod_two_pow, hsign, Nat.xor_zero]

theorem isNaN_negate (x : Double) : x.negate.isNaN = x.isNaN := by
  have hbits := bits_negate x
  have hexponent : x.negate.exponentField = x.exponentField := by
    unfold exponentField
    omega
  have hfraction : x.negate.fractionField = x.fractionField := by
    unfold fractionField
    omega
  rw [isNaN, hexponent, hfraction, isNaN]

end Double

namespace Number

def IsDefined : Number → Prop
  | int _ => True
  | float x => x.isNaN = false

end Number

/-! ## Values -/

namespace Json

mutual

def WellFormed : Json → Prop
  | null => True
  | bool _ => True
  | num n => n.IsDefined
  | str _ => True
  | arr xs => WellFormedItems xs
  | obj ms => Members.Sorted ms ∧ WellFormedMembers ms

def WellFormedItems : List Json → Prop
  | [] => True
  | x :: xs => WellFormed x ∧ WellFormedItems xs

def WellFormedMembers : List (String × Json) → Prop
  | [] => True
  | (_, x) :: ms => WellFormed x ∧ WellFormedMembers ms

end

theorem wellFormedItems_iff {xs : List Json} : WellFormedItems xs ↔ ∀ x ∈ xs, x.WellFormed := by
  induction xs with
  | nil => simp [WellFormedItems]
  | cons x xs ih => simp [WellFormedItems, ih]

theorem wellFormedMembers_iff {ms : Members} :
    WellFormedMembers ms ↔ ∀ m ∈ ms, m.2.WellFormed := by
  induction ms with
  | nil => simp [WellFormedMembers]
  | cons m ms ih => simp [WellFormedMembers, ih]

theorem wellFormed_arr_iff {xs : List Json} : (arr xs).WellFormed ↔ ∀ x ∈ xs, x.WellFormed := by
  rw [WellFormed, wellFormedItems_iff]

theorem wellFormed_obj_iff {ms : Members} :
    (obj ms).WellFormed ↔ ms.Sorted ∧ ∀ m ∈ ms, m.2.WellFormed := by
  rw [WellFormed, wellFormedMembers_iff]

end Json

theorem Members.mem_insert {key : String} {v : Json} {ms : Members} {m : String × Json}
    (h : m ∈ insert key v ms) : m = (key, v) ∨ m ∈ ms := by
  induction ms with
  | nil => simpa [insert] using h
  | cons n ms ih =>
    unfold insert at h
    split_ifs at h with hless heq
    · simpa using h
    · rcases List.mem_cons.1 h with rfl | hm
      · exact .inl rfl
      · exact .inr (List.mem_cons_of_mem n hm)
    · rcases List.mem_cons.1 h with rfl | hm
      · exact .inr (by simp)
      · exact (ih hm).imp_right (List.mem_cons_of_mem n)

/-! ## What is read -/

namespace Json

open Number (IsDefined)

theorem isNaN_of_scaleByTen {fuel : Nat} {x y : Double} {e : Int} (hx : x.isNaN = false)
    (h : scaleByTen fuel x e = some y) : y.isNaN = false := by
  induction fuel generalizing x e with
  | zero => simp [scaleByTen] at h
  | succ fuel ih =>
    unfold scaleByTen at h
    dsimp only at h
    split_ifs at h
    · obtain rfl := Option.some.inj h
      exact Double.isNaN_timesFinite _ _
    · obtain rfl := Option.some.inj h
      exact Double.isNaN_dividedByFinite _ _
    · obtain rfl := Option.some.inj h
      exact hx
    · exact ih (Double.isNaN_dividedByFinite _ _) h

theorem isDefined_of_floatOf {negative : Bool} {significand : Nat} {exponent : Int} {n : Number}
    (h : floatOf negative significand exponent = some n) : n.IsDefined := by
  obtain ⟨x, hx, rfl⟩ := Option.map_eq_some_iff.1 h
  have hdefined := isNaN_of_scaleByTen (Double.isNaN_ofRatio _ _ _) hx
  cases negative with
  | false => exact hdefined
  | true => exact (Double.isNaN_negate x).trans hdefined

theorem isDefined_integerOf (negative : Bool) (n : Nat) : (integerOf negative n).IsDefined := by
  unfold integerOf
  split_ifs
  · trivial
  · exact Double.isNaN_ofRatio _ _ _
  · trivial

theorem isDefined_of_withExponent {negative : Bool} {s : Significand} {cs rest : List Char}
    {n : Number} (h : withExponent negative s cs = some (n, rest)) : n.IsDefined := by
  unfold withExponent at h
  dsimp only at h
  split_ifs at h
  · cases h
    exact Double.isNaN_zero negative
  all_goals
    obtain ⟨m, hm, heq⟩ := Option.map_eq_some_iff.1 h
    cases heq
    exact isDefined_of_floatOf hm

theorem isDefined_of_powerPart {negative : Bool} {s : Significand} {ended : Option Number}
    (hended : ∀ n ∈ ended, n.IsDefined) {n : Number} {rest : List Char}
    (h : powerPart negative s ended = some (n, rest)) : n.IsDefined := by
  have hmap {rest' : List Char} (h : (ended.map fun x => (x, rest')) = some (n, rest)) :
      n.IsDefined := by
    obtain ⟨m, hm, heq⟩ := Option.map_eq_some_iff.1 h
    cases heq
    exact hended _ hm
  unfold powerPart at h
  split at h
  · split_ifs at h
    · exact isDefined_of_withExponent h
    · exact hmap h
  · exact hmap h

theorem isDefined_of_readNumber {negative : Bool} {cs rest : List Char} {n : Number}
    (h : readNumber negative cs = some (n, rest)) : n.IsDefined := by
  rw [readNumber_eq] at h
  obtain ⟨s, -, h⟩ := Option.bind_eq_some_iff.1 h
  unfold fractionPart at h
  split at h
  · split at h
    · simp at h
    · split_ifs at h
      exact isDefined_of_powerPart (fun m hm => isDefined_of_floatOf hm) h
  · refine isDefined_of_powerPart (fun m hm => ?_) h
    split_ifs at hm
    · obtain rfl := Option.some.inj hm
      exact isDefined_integerOf _ _
    · exact isDefined_of_floatOf hm

theorem eq_of_expect {word cs rest : List Char} {v w : Json}
    (h : expect word v cs = some (w, rest)) : w = v := by
  unfold expect at h
  split_ifs at h
  cases h
  rfl

/-- What the readers give is well-formed, if what they are given is. -/
structure ReadsWellFormed (fuel : Nat) : Prop where
  value : ∀ {depth cs v rest}, readValue fuel depth cs = some (v, rest) → v.WellFormed
  items : ∀ {depth acc cs v rest}, (∀ x ∈ acc, x.WellFormed) →
    readItems fuel depth acc cs = some (v, rest) → v.WellFormed
  member : ∀ {depth cs k v rest}, readMember fuel depth cs = some (k, v, rest) → v.WellFormed
  members : ∀ {depth acc cs v rest}, acc.Sorted → (∀ m ∈ acc, m.2.WellFormed) →
    readMembers fuel depth acc cs = some (v, rest) → v.WellFormed

theorem readsWellFormed_zero : ReadsWellFormed 0 where
  value h := by simp [readValue] at h
  items _ h := by simp [readItems] at h
  member h := by simp [readMember] at h
  members _ _ h := by simp [readMembers] at h

section Succ

variable {fuel depth : Nat} {cs rest : List Char} {v : Json}

theorem wellFormed_of_readValue_succ (ih : ReadsWellFormed fuel)
    (h : readValue (fuel + 1) depth cs = some (v, rest)) : v.WellFormed := by
  have hnumber {negative : Bool} {ds : List Char}
      (h : ((readNumber negative ds).map fun r => (num r.1, r.2)) = some (v, rest)) :
      v.WellFormed := by
    obtain ⟨r, hr, heq⟩ := Option.map_eq_some_iff.1 h
    cases heq
    exact isDefined_of_readNumber hr
  unfold readValue at h
  split at h
  · simp at h
  · split_ifs at h
    · rw [eq_of_expect h]
      trivial
    · rw [eq_of_expect h]
      trivial
    · rw [eq_of_expect h]
      trivial
    · exact hnumber h
    · obtain ⟨r, -, heq⟩ := Option.map_eq_some_iff.1 h
      cases heq
      trivial
    · split at h
      · simp at h
      · split at h
        · cases h
          trivial
        · split at h
          · rename_i x after hvalue
            exact ih.items (by simpa using ih.value hvalue) h
          · simp at h
    · split at h
      · simp at h
      · split at h
        · cases h
          exact ⟨Members.sorted_nil, trivial⟩
        · split at h
          · rename_i k x after hmember
            have hfirst : ∀ m ∈ [(k, x)], m.2.WellFormed := fun m hm => by
              rw [List.mem_singleton.1 hm]
              exact ih.member hmember
            have hsorted : Members.Sorted [(k, x)] := trivial
            exact ih.members hsorted hfirst h
          · simp at h
    · exact hnumber h

theorem wellFormed_of_readItems_succ (ih : ReadsWellFormed fuel) {acc : List Json}
    (hacc : ∀ x ∈ acc, x.WellFormed) (h : readItems (fuel + 1) depth acc cs = some (v, rest)) :
    v.WellFormed := by
  unfold readItems at h
  split at h
  · cases h
    exact wellFormed_arr_iff.2 fun x hx => hacc x (List.mem_reverse.1 hx)
  · split at h
    · rename_i x after hvalue
      refine ih.items (fun y hy => ?_) h
      rcases List.mem_cons.1 hy with rfl | hy
      · exact ih.value hvalue
      · exact hacc y hy
    · simp at h
  · simp at h

theorem wellFormed_of_readMember_succ (ih : ReadsWellFormed fuel) {k : String}
    (h : readMember (fuel + 1) depth cs = some (k, v, rest)) : v.WellFormed := by
  unfold readMember at h
  split at h
  · split at h
    · split at h
      · split at h
        · rename_i x after hvalue
          cases h
          exact ih.value hvalue
        · simp at h
      · simp at h
    · simp at h
  · simp at h

theorem wellFormed_of_readMembers_succ (ih : ReadsWellFormed fuel) {acc : Members}
    (hsorted : acc.Sorted) (hacc : ∀ m ∈ acc, m.2.WellFormed)
    (h : readMembers (fuel + 1) depth acc cs = some (v, rest)) : v.WellFormed := by
  unfold readMembers at h
  split at h
  · cases h
    exact wellFormed_obj_iff.2 ⟨hsorted, hacc⟩
  · split at h
    · rename_i k x after hmember
      refine ih.members hsorted.insert (fun m hm => ?_) h
      rcases Members.mem_insert hm with rfl | hm
      · exact ih.member hmember
      · exact hacc m hm
    · simp at h
  · simp at h

end Succ

theorem readsWellFormed (fuel : Nat) : ReadsWellFormed fuel := by
  induction fuel with
  | zero => exact readsWellFormed_zero
  | succ fuel ih =>
    exact ⟨wellFormed_of_readValue_succ ih, wellFormed_of_readItems_succ ih,
      wellFormed_of_readMember_succ ih, wellFormed_of_readMembers_succ ih⟩

theorem wellFormed_of_parse? {text : String} {v : Json} (h : parse? text = some v) :
    v.WellFormed := by
  unfold parse? parseChars at h
  split at h
  · rename_i w rest hread
    split_ifs at h
    obtain rfl := Option.some.inj h
    exact (readsWellFormed _).value hread
  · simp at h

end Json

end Scaffold

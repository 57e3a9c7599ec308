import Mathlib
import Scaffold.Proofs.Json.Numeral
import Scaffold.Text.Blank

/-!
# Digits of whole numbers

Whole numbers are printed with the usual decimal digits. Read from the left, each digit takes ten
times what has been read before it, so all of them together give the number again. Blanks around
them are cut off first; none of the digits is one.
-/

namespace Scaffold

namespace Number

theorem digitChar_eq {d : Nat} (h : d < 10) : digitChar d = Nat.digitChar d := by
  have hall : ∀ d < 10, digitChar d = Nat.digitChar d := by decide
  exact hall d h

theorem digitValue?_digitChar {d : Nat} (h : d < 10) : digitValue? (Nat.digitChar d) = some d := by
  have hall : ∀ d < 10, digitValue? (Nat.digitChar d) = some d := by decide
  exact hall d h

theorem digitChar_mod (n : Nat) : digitChar n = Nat.digitChar (n % 10) := by
  rw [← digitChar_eq (Nat.mod_lt n (by decide)), digitChar, digitChar, Nat.mod_mod]

theorem natDigitsAux_eq (fuel n : Nat) (acc : List Char) (h : n < 2 ^ (fuel + 1)) :
    natDigitsAux (fuel + 1) n acc = Nat.toDigits 10 n ++ acc := by
  induction fuel generalizing n acc with
  | zero =>
    have hsmall : n < 10 := by omega
    rw [natDigitsAux, if_pos hsmall, Nat.toDigits_eq_if (by decide), if_pos hsmall,
      digitChar_eq hsmall, List.singleton_append]
  | succ fuel ih =>
    rw [natDigitsAux, Nat.toDigits_eq_if (by decide)]
    by_cases hsmall : n < 10
    · rw [if_pos hsmall, if_pos hsmall, digitChar_eq hsmall, List.singleton_append]
    · have hless : n / 10 < 2 ^ (fuel + 1) := by
        rw [pow_succ] at h
        omega
      rw [if_neg hsmall, if_neg hsmall, ih _ _ hless, digitChar_mod, List.append_assoc,
        List.singleton_append]

theorem natDigits_eq (n : Nat) : natDigits n = Nat.toDigits 10 n := by
  rw [natDigits, natDigitsAux_eq _ _ _ Nat.lt_log2_self, List.append_nil]

theorem intDigits_eq (n : Int) : intDigits n = (toString n).toList := by
  unfold intDigits
  rw [Int.toString_eq_repr]
  cases n with
  | ofNat n =>
    rw [if_neg (by simp), natDigits_eq]
    simp [Int.repr, Nat.repr]
  | negSucc n =>
    rw [if_pos (Int.negSucc_lt_zero n), natDigits_eq]
    simp [Int.repr, Nat.repr]

/-- Behind the digits read before, those of a number give the number in their place. -/
theorem takeDigits_toDigits (n : Nat) (k : Nat) (rest : List Char) :
    ∃ count, count ≠ 0 ∧
      takeDigits (Nat.toDigits 10 n ++ rest) 0 k = takeDigits rest n (k + count) := by
  induction n using Nat.strongRecOn generalizing rest with
  | ind n ih =>
    rw [Nat.toDigits_eq_if (by decide)]
    by_cases hsmall : n < 10
    · refine ⟨1, Nat.one_ne_zero, ?_⟩
      rw [if_pos hsmall, List.singleton_append]
      simp [takeDigits, digitValue?_digitChar hsmall]
    · obtain ⟨count, -, hread⟩ := ih (n / 10) (by omega) (Nat.digitChar (n % 10) :: rest)
      refine ⟨count + 1, Nat.succ_ne_zero count, ?_⟩
      have hvalue : 10 * (n / 10) + n % 10 = n := Nat.div_add_mod n 10
      rw [if_neg hsmall, List.append_assoc, List.singleton_append, hread]
      simp only [takeDigits, digitValue?_digitChar (Nat.mod_lt n (by decide)), hvalue, add_assoc]

theorem decimal?_natDigits (n : Nat) : decimal? (natDigits n) = some ⟨n, 0⟩ := by
  obtain ⟨count, hcount, hread⟩ := takeDigits_toDigits n 0 []
  rw [List.append_nil, takeDigits, Nat.zero_add] at hread
  rw [natDigits_eq, decimal?, hread]
  simp [hcount]

/-! ## Signs -/

theorem splitSign_intDigits (n : Int) :
    splitSign (intDigits n) = (decide (n < 0), natDigits n.natAbs) := by
  unfold intDigits
  by_cases hneg : n < 0
  · rw [if_pos hneg, decide_eq_true hneg]
    rfl
  · rw [if_neg hneg, decide_eq_false hneg]
    obtain ⟨c, ds, hds⟩ := List.exists_cons_of_ne_nil (natDigits_ne_nil n.natAbs)
    have hc : (digitValue? c).isSome = true :=
      isDigits_natDigits n.natAbs c (by rw [hds]; exact List.mem_cons_self)
    have hplus : c ≠ '+' := ne_of_digit hc (by decide)
    have hminus : c ≠ '-' := ne_of_digit hc (by decide)
    rw [hds]
    simp [splitSign, hplus, hminus]

theorem range_of_digit {c : Char} (h : (digitValue? c).isSome = true) : '0' ≤ c ∧ c ≤ '9' := by
  by_contra hout
  simp [digitValue?, hout] at h

theorem not_isBlank_of_digit {c : Char} (h : (digitValue? c).isSome = true) :
    Text.isBlank c = false := by
  have hlow : 48 ≤ c.toNat := (range_of_digit h).1
  have hhigh : c.toNat ≤ 57 := (range_of_digit h).2
  simp only [Text.isBlank, Bool.or_eq_false_iff, Bool.and_eq_false_iff, decide_eq_false_iff_not,
    beq_eq_false_iff_ne]
  omega

theorem not_isBlank_of_mem_intDigits {n : Int} : ∀ c ∈ intDigits n, Text.isBlank c = false := by
  intro c hc
  unfold intDigits at hc
  have hdigit : ∀ c ∈ natDigits n.natAbs, Text.isBlank c = false := fun c hc =>
    not_isBlank_of_digit (isDigits_natDigits n.natAbs c hc)
  split at hc
  · rcases List.mem_cons.1 hc with rfl | hc
    · decide
    · exact hdigit c hc
  · exact hdigit c hc

theorem intDigits_ne_nil (n : Int) : intDigits n ≠ [] := by
  unfold intDigits
  split
  · exact List.cons_ne_nil _ _
  · exact natDigits_ne_nil _

end Number

/-! ## Digits between blanks -/

namespace Text

variable {front cs back : List Char}

theorem trim_between_blanks (hfront : ∀ c ∈ front, isBlank c = true)
    (hback : ∀ c ∈ back, isBlank c = true) (hne : cs ≠ [])
    (hsolid : ∀ c ∈ cs, isBlank c = false) : trim (front ++ cs ++ back) = cs := by
  obtain ⟨c, rest, rfl⟩ := List.exists_cons_of_ne_nil hne
  obtain ⟨d, init, hlast⟩ :=
    List.exists_cons_of_ne_nil (List.reverse_ne_nil_iff.2 (List.cons_ne_nil c rest))
  have hc : isBlank c = false := hsolid c List.mem_cons_self
  have hd : isBlank d = false := hsolid d (List.mem_reverse.1 (by simp [hlast]))
  have hback' : ∀ e ∈ back.reverse, isBlank e = true := fun e he =>
    hback e (List.mem_reverse.1 he)
  rw [trim, trimStart, List.append_assoc, List.dropWhile_append_of_pos hfront, List.cons_append,
    List.dropWhile_cons_of_neg (by simp [hc]), trimEnd, ← List.cons_append, List.reverse_append,
    List.dropWhile_append_of_pos hback', hlast, List.dropWhile_cons_of_neg (by simp [hd]), ← hlast,
    List.reverse_reverse]

end Text

/-! ## Floating point values -/

namespace Double

open Number

theorem lowerAscii_of_digit {c : Char} (h : (digitValue? c).isSome = true) : lowerAscii c = c := by
  have hupper : ¬ ('A' ≤ c ∧ c ≤ 'Z') := by
    rintro ⟨hlow, -⟩
    exact absurd (hlow.trans (range_of_digit h).2) (by decide)
  rw [lowerAscii, if_neg hupper]

/-- Digits are no word. -/
theorem ofText?_of_digits {negative : Bool} {cs ds : List Char}
    (hsign : splitSign cs = (negative, ds)) (hds : IsDigits ds) :
    ofText? cs = (decimal? ds).map (·.toDouble negative) := by
  have hlower : ds.map lowerAscii = ds := by
    apply (List.map_congr_left _).trans (List.map_id ds)
    intro c hc
    exact lowerAscii_of_digit (hds c hc)
  have hword : ∀ c cs, (digitValue? c).isSome = false → ds ≠ c :: cs := by
    rintro c cs hc rfl
    have hdigit := hds c List.mem_cons_self
    simp [hc] at hdigit
  rw [ofText?, hsign]
  dsimp only
  rw [hlower, if_neg, if_neg]
  · exact hword _ _ (by decide)
  · rintro (hinf | hinf)
    · exact hword _ _ (by decide) hinf
    · exact hword _ _ (by decide) hinf

theorem toDouble_whole {n : Nat} (negative : Bool) (h : Nat.log2 n ≤ 900) :
    (⟨n, 0⟩ : Decimal).toDouble negative = ofRatio negative n 1 := by
  unfold Decimal.toDouble
  dsimp only
  by_cases hn : n = 0
  · rw [if_pos hn, ofRatio, if_pos (.inl hn)]
  · rw [if_neg hn, if_neg (by omega), if_neg (by omega), if_pos le_rfl]
    congr 1
    exact Nat.mul_one n

theorem ofText?_intDigits {n : Int} (h : Nat.log2 n.natAbs ≤ 900) :
    ofText? (intDigits n) = some (ofInt n) := by
  rw [ofText?_of_digits (splitSign_intDigits n) (isDigits_natDigits n.natAbs), decimal?_natDigits,
    Option.map_some, toDouble_whole _ h, ofInt]

end Double

end Scaffold

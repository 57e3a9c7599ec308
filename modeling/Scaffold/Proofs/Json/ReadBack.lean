import Mathlib
import Scaffold.Proofs.Json.Printed
import Scaffold.Proofs.Number.Digits

/-!
# Values that read back as themselves

Whole numbers that fit a word of the reader, with or without a sign, are read back from their
digits. So are values with no other numbers in them, as far as their members are in order and they
do not nest too deep.
-/

namespace Scaffold

/-! ## Whole numbers -/

namespace Json

open Number (digitValue? digitValue?_digitChar)

variable {n v : Nat}

/-- One more digit that still fits. -/
theorem wholeDigits_digitChar {d : Nat} (hd : d < 10) (hfits : 10 * v + d ≤ wordLimit)
    (rest : List Char) :
    wholeDigits (Nat.digitChar d :: rest) v = wholeDigits rest (10 * v + d) := by
  rw [wholeDigits, digitValue?_digitChar hd]
  exact if_neg (Nat.not_lt.2 hfits)

theorem wholeDigits_toDigits (hfits : n ≤ wordLimit) (rest : List Char) :
    wholeDigits (Nat.toDigits 10 n ++ rest) 0 = wholeDigits rest n := by
  induction n using Nat.strongRecOn generalizing rest with
  | ind n ih =>
    rw [Nat.toDigits_eq_if (by decide)]
    by_cases hsmall : n < 10
    · rw [if_pos hsmall, List.singleton_append,
        wholeDigits_digitChar hsmall (by omega), Nat.mul_zero, Nat.zero_add]
    · have hvalue : 10 * (n / 10) + n % 10 = n := Nat.div_add_mod n 10
      rw [if_neg hsmall, List.append_assoc, List.singleton_append,
        ih (n / 10) (by omega) (by omega), wholeDigits_digitChar (Nat.mod_lt n (by decide))]
      · rw [hvalue]
      · rwa [hvalue]

/-- Only zero begins with a zero. -/
theorem exists_head_toDigits (hn : n ≠ 0) :
    ∃ d rest, Nat.toDigits 10 n = Nat.digitChar d :: rest ∧ d < 10 ∧ d ≠ 0 := by
  induction n using Nat.strongRecOn with
  | ind n ih =>
    rw [Nat.toDigits_eq_if (by decide)]
    by_cases hsmall : n < 10
    · exact ⟨n, [], if_pos hsmall, hsmall, hn⟩
    · obtain ⟨d, rest, hdigits, hd, hne⟩ := ih (n / 10) (by omega) (by omega)
      refine ⟨d, rest ++ [Nat.digitChar (n % 10)], ?_, hd, hne⟩
      rw [if_neg hsmall, hdigits]
      rfl

theorem digitChar_ne_zero {d : Nat} (hd : d < 10) (hne : d ≠ 0) : Nat.digitChar d ≠ '0' := by
  have hall : ∀ d < 10, d ≠ 0 → Nat.digitChar d ≠ '0' := by decide
  exact hall d hd hne

theorem wholePart?_toDigits (hfits : n ≤ wordLimit) :
    wholePart? (Nat.toDigits 10 n) = some ⟨n, 0, []⟩ := by
  by_cases hn : n = 0
  · subst hn
    rfl
  · obtain ⟨d, rest, hdigits, hd, hne⟩ := exists_head_toDigits hn
    -- the first digit counts like one behind nothing
    have hfirst : wholeDigits (Nat.digitChar d :: rest) 0 = wholeDigits rest d := by
      rw [wholeDigits_digitChar hd, Nat.mul_zero, Nat.zero_add]
      unfold wordLimit
      omega
    have hwhole := wholeDigits_toDigits hfits []
    rw [List.append_nil, hdigits, hfirst, wholeDigits] at hwhole
    simp only [hdigits, wholePart?, if_neg (digitChar_ne_zero hd hne), digitValue?_digitChar hd,
      hwhole]

theorem readNumber_natDigits (negative : Bool) (hfits : n ≤ wordLimit) :
    readNumber negative (Number.natDigits n) = some (integerOf negative n, []) := by
  rw [readNumber_eq, Number.natDigits_eq, wholePart?_toDigits hfits]
  rfl

theorem readSigned_natDigits (hfits : n ≤ wordLimit) :
    readSigned (Number.natDigits n) = some (.int n, []) := by
  rw [readSigned, readNumber_natDigits false hfits]
  · rfl
  · intro cs hcs
    have hdigit := Number.isDigits_natDigits n '-' (by simp [hcs])
    simp [Number.digitValue?] at hdigit

end Json

namespace Number

/-- A whole number fits a word of sixty-four bits, with or without sign. -/
def FitsWord (n : Int) : Prop := -2 ^ 63 ≤ n ∧ n < 2 ^ 64

theorem reread?_int {n : Int} (h : FitsWord n) : (int n).reread? = some (int n) := by
  obtain ⟨hlow, hhigh⟩ := h
  have hfits : n.natAbs ≤ Json.wordLimit := by
    unfold Json.wordLimit
    omega
  rw [reread?, toChars, intDigits]
  by_cases hneg : n < 0
  · have hsmall : ¬ (n.natAbs = 0 ∨ 2 ^ 63 < n.natAbs) := by omega
    rw [if_pos hneg, Json.readSigned, Json.readNumber_natDigits true hfits, Json.integerOf,
      if_neg (by simp), if_neg hsmall, Option.map_some, ← Int.eq_neg_natAbs_of_nonpos hneg.le]
  · rw [if_neg hneg, Json.readSigned_natDigits hfits, Option.map_some,
      Int.natAbs_of_nonneg (not_lt.1 hneg)]

end Number

/-! ## Values -/

namespace Json

mutual

/-- Members are in order, each name once, and all numbers are whole and fit a word. -/
def ReadsBack : Json → Prop
  | num (.int n) => Number.FitsWord n
  | num (.float _) => False
  | arr xs => ItemsReadBack xs
  | obj ms => Members.Sorted ms ∧ MembersReadBack ms
  | _ => True

def ItemsReadBack : List Json → Prop
  | [] => True
  | x :: xs => x.ReadsBack ∧ ItemsReadBack xs

def MembersReadBack : List (String × Json) → Prop
  | [] => True
  | (_, x) :: ms => x.ReadsBack ∧ MembersReadBack ms

end

theorem itemsReadBack_iff {xs : List Json} : ItemsReadBack xs ↔ ∀ x ∈ xs, x.ReadsBack := by
  induction xs with
  | nil => simp [ItemsReadBack]
  | cons x xs ih => simp [ItemsReadBack, ih]

mutual

theorem rereadAt?_of_readsBack (v : Json) {depth : Nat} (h : v.ReadsBack)
    (hdepth : v.height ≤ depth) : rereadAt? v depth = some v := by
  match v with
  | null | bool _ | str _ => rfl
  | num (.int n) =>
    rw [ReadsBack] at h
    rw [rereadAt?, Number.reread?_int h, Option.map_some]
  | num (.float _) => exact absurd h id
  | arr xs =>
    rw [height] at hdepth
    obtain ⟨depth, rfl⟩ : ∃ n, depth = n + 1 := Nat.exists_eq_succ_of_ne_zero (by omega)
    rw [ReadsBack] at h
    rw [rereadAt?, rereadItems?_of_readsBack xs h (by omega), Option.map_some]
  | obj ms =>
    rw [height] at hdepth
    obtain ⟨depth, rfl⟩ : ∃ n, depth = n + 1 := Nat.exists_eq_succ_of_ne_zero (by omega)
    rw [ReadsBack] at h
    rw [rereadAt?_obj h.1, rereadMembers?_of_readsBack ms h.2 (by omega), Option.map_some]

theorem rereadItems?_of_readsBack (xs : List Json) {depth : Nat} (h : ItemsReadBack xs)
    (hdepth : heightItems xs ≤ depth) : rereadItems? xs depth = some xs := by
  match xs with
  | [] => rfl
  | x :: xs =>
    rw [heightItems] at hdepth
    rw [rereadItems?, rereadAt?_of_readsBack x h.1 (le_trans (le_max_left _ _) hdepth),
      rereadItems?_of_readsBack xs h.2 (le_trans (le_max_right _ _) hdepth)]
    rfl

theorem rereadMembers?_of_readsBack (ms : List (String × Json)) {depth : Nat}
    (h : MembersReadBack ms) (hdepth : heightMembers ms ≤ depth) :
    rereadMembers? ms depth = some ms := by
  match ms with
  | [] => rfl
  | (k, x) :: ms =>
    rw [heightMembers] at hdepth
    rw [rereadMembers?, rereadAt?_of_readsBack x h.1 (le_trans (le_max_left _ _) hdepth),
      rereadMembers?_of_readsBack ms h.2 (le_trans (le_max_right _ _) hdepth)]
    rfl

end

theorem parse?_compact_of_readsBack {v : Json} (h : v.ReadsBack) (hdepth : v.height ≤ depthLimit) :
    parse? v.compact = some v := by
  rw [parse?_compact, rereadAt?_of_readsBack v h hdepth]

theorem parse?_pretty_of_readsBack {v : Json} {indent tail : String}
    (hindent : Blank indent.toList) (htail : Blank tail.toList) (h : v.ReadsBack)
    (hdepth : v.height ≤ depthLimit) : parse? (v.pretty indent ++ tail) = some v := by
  rw [parse?_pretty_append hindent htail, rereadAt?_of_readsBack v h hdepth]

end Json

end Scaffold

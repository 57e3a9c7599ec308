import Mathlib
import Scaffold.Proofs.Text.Segment
import Scaffold.Template.Helper

/-!
# Words put together again

A name with capitals is taken apart into words with hyphens between them, and the words are put
together again by raising their first letters. Only ASCII capitals start a word, so it is enough
that raising gives these back; what it makes of any other letter at the front, it makes of the name
itself.
-/

namespace Scaffold.Text

variable {raise : Char → List Char} {c : Char} {cs : List Char}

/-- Letters of ASCII are raised as usual; all else may become anything. -/
def RaisesLetters (raise : Char → List Char) : Prop :=
  ∀ c, isAsciiUpper c = true ∨ isAsciiLower c = true → raise c = [asciiUpper c]

def raiseFirst (raise : Char → List Char) : List Char → List Char
  | [] => []
  | c :: cs => raise c ++ cs

/-- The words between hyphens, put together with their first letters raised. -/
def joinRaised (raise : Char → List Char) (cs : List Char) : List Char :=
  (splitBy (· == '-') cs).flatMap (raiseFirst raise)

theorem raiseFirst_upperChar : raiseFirst upperChar = upperFirst := by
  funext cs
  cases cs <;> rfl

theorem joinRaised_upperChar (cs : List Char) : joinRaised upperChar cs = hyphenToCamel cs := by
  rw [joinRaised, raiseFirst_upperChar, hyphenToCamel]

/-! ## Letters -/

theorem isAsciiUpper_iff : isAsciiUpper c = true ↔ 65 ≤ c.toNat ∧ c.toNat ≤ 90 := by
  simp only [isAsciiUpper, Bool.and_eq_true, decide_eq_true_eq, Char.le_def, UInt32.le_iff_toNat_le]
  rfl

theorem isAsciiLower_iff : isAsciiLower c = true ↔ 97 ≤ c.toNat ∧ c.toNat ≤ 122 := by
  simp only [isAsciiLower, Bool.and_eq_true, decide_eq_true_eq, Char.le_def, UInt32.le_iff_toNat_le]
  rfl

/-- A capital is lowered to a letter that is raised to it again. -/
theorem lower_capital (h : isAsciiUpper c = true) :
    isAsciiLower (asciiLower c) = true ∧ asciiUpper (asciiLower c) = c ∧ asciiUpper c = c := by
  have hall : ∀ n ≤ 90, 65 ≤ n →
      isAsciiLower (asciiLower (Char.ofNat n)) = true ∧
        asciiUpper (asciiLower (Char.ofNat n)) = Char.ofNat n ∧
          asciiUpper (Char.ofNat n) = Char.ofNat n := by
    decide
  obtain ⟨hlow, hhigh⟩ := isAsciiUpper_iff.1 h
  rw [← Char.ofNat_toNat c]
  exact hall c.toNat hhigh hlow

theorem asciiLower_of_not_upper (h : isAsciiUpper c = false) : asciiLower c = c := by
  simp [asciiLower, h]

theorem asciiLower_ne_hyphen (h : c ≠ '-') : asciiLower c ≠ '-' := by
  cases hc : isAsciiUpper c with
  | true =>
    obtain ⟨hlower, -⟩ := lower_capital hc
    intro heq
    rw [heq] at hlower
    exact absurd hlower (by decide)
  | false => rwa [asciiLower_of_not_upper hc]

/-- A letter that is lowered joins the first word. -/
theorem splitBy_asciiLower_cons {piece : List Char} {pieces : List (List Char)} (hc : c ≠ '-')
    (h : splitBy (· == '-') cs = piece :: pieces) :
    splitBy (· == '-') (asciiLower c :: cs) = (asciiLower c :: piece) :: pieces :=
  splitBy_cons_of_not_sep (by simpa using asciiLower_ne_hyphen hc) h

theorem raisesLetters_upperChar : RaisesLetters upperChar := by
  intro c hc
  have hascii : c.toNat < 128 := by
    rw [isAsciiUpper_iff, isAsciiLower_iff] at hc
    omega
  rw [upperChar, if_pos hascii]

namespace RaisesLetters

theorem asciiLower_of_upper (h : RaisesLetters raise) (hc : isAsciiUpper c = true) :
    raise (asciiLower c) = [c] := by
  obtain ⟨hlower, hback, -⟩ := lower_capital hc
  rw [h _ (.inr hlower), hback]

theorem asciiLower_eq (h : RaisesLetters raise) (c : Char) : raise (asciiLower c) = raise c := by
  cases hc : isAsciiUpper c with
  | true =>
    obtain ⟨-, -, hraised⟩ := lower_capital hc
    rw [h.asciiLower_of_upper hc, h c (.inl hc), hraised]
  | false => rw [asciiLower_of_not_upper hc]

/-! ## Words -/

/-- Behind its first word, a text is put together again from the words between its hyphens. -/
theorem exists_pieces (h : RaisesLetters raise) (hcs : '-' ∉ cs) :
    ∃ piece pieces, splitBy (· == '-') (hyphenated cs) = piece :: pieces ∧
      piece ++ pieces.flatMap (raiseFirst raise) = cs := by
  induction cs with
  | nil => exact ⟨[], [], rfl, rfl⟩
  | cons c cs ih =>
    rw [List.mem_cons, not_or] at hcs
    obtain ⟨piece, pieces, hsplit, hrest⟩ := ih hcs.2
    have hword := splitBy_asciiLower_cons (Ne.symm hcs.1) hsplit
    rw [hyphenated]
    cases hc : isAsciiUpper c with
    | true =>
      refine ⟨[], (asciiLower c :: piece) :: pieces, ?_, ?_⟩
      · rw [if_pos rfl, splitBy_cons_of_sep (by rfl), hword]
      · rw [List.nil_append, List.flatMap_cons, raiseFirst, h.asciiLower_of_upper hc,
          List.append_assoc, hrest, List.singleton_append]
    | false =>
      refine ⟨asciiLower c :: piece, pieces, ?_, ?_⟩
      · rw [if_neg Bool.false_ne_true, hword]
      · rw [asciiLower_of_not_upper hc, List.cons_append, hrest]

theorem joinRaised_camelToHyphen (h : RaisesLetters raise) (hcs : '-' ∉ cs) :
    joinRaised raise (camelToHyphen cs) = raiseFirst raise cs := by
  cases cs with
  | nil => rfl
  | cons c cs =>
    rw [List.mem_cons, not_or] at hcs
    obtain ⟨piece, pieces, hsplit, hrest⟩ := h.exists_pieces hcs.2
    have hword := splitBy_asciiLower_cons (Ne.symm hcs.1) hsplit
    rw [joinRaised, camelToHyphen, hword, List.flatMap_cons, raiseFirst, h.asciiLower_eq,
      List.append_assoc, hrest, raiseFirst]

end RaisesLetters

/-- What templates get from the helper of a name for one text. -/
def ofHelper (data : Json) (name : String) (text : String) : Template.HelperValue :=
  (Template.valueHelper? data name).bind fun helper => helper { args := [.str text] }

/-- A text without hyphens, taken apart at its capitals and put together again, is the text with
its first letter raised, whatever raising makes of letters beyond ASCII. So it is with the helpers
that templates have. -/
theorem hyphenToCamel_undoes_camelToHyphen {text : String} (h : '-' ∉ text.toList) :
    (∀ raise, RaisesLetters raise →
        joinRaised raise (camelToHyphen text.toList) = raiseFirst raise text.toList) ∧
      hyphenToCamel (camelToHyphen text.toList) = upperFirst text.toList ∧
      ∀ data, ∃ hyphens camel,
        ofHelper data "camelToHyphen" text = Template.valueOf (.str hyphens) ∧
          ofHelper data "hyphenToCamel" hyphens = Template.valueOf (.str camel) ∧
          ofHelper data "upperFirst" text = Template.valueOf (.str camel) := by
  have hraised (raise) (hraise : RaisesLetters raise) :
      joinRaised raise (camelToHyphen text.toList) = raiseFirst raise text.toList :=
    hraise.joinRaised_camelToHyphen h
  have htables : hyphenToCamel (camelToHyphen text.toList) = upperFirst text.toList := by
    rw [← joinRaised_upperChar, ← raiseFirst_upperChar]
    exact hraised upperChar raisesLetters_upperChar
  refine ⟨hraised, htables, fun data => ?_⟩
  refine ⟨String.ofList (camelToHyphen text.toList), String.ofList (upperFirst text.toList),
    rfl, ?_, rfl⟩
  rw [← htables]
  exact congrArg (fun cs => Template.valueOf (.str (String.ofList (hyphenToCamel cs))))
    String.toList_ofList

/-- Capitals side by side, and letters beyond ASCII; the first one is raised to two letters, or is
unknown. -/
theorem camel_of_sharp_s :
    let text := "ßÄBCd"
    let raise := fun c : Char => if c.toNat < 128 then [asciiUpper c] else ['?']
    '-' ∉ text.toList ∧ camelToHyphen text.toList = "ßÄ-b-cd".toList ∧
      hyphenToCamel "ßÄ-b-cd".toList = "SSÄBCd".toList ∧ RaisesLetters raise ∧
      joinRaised raise "ßÄ-b-cd".toList = "?ÄBCd".toList := by
  intro text raise
  have hnone : '-' ∉ text.toList := by decide +kernel
  have hhyphens : camelToHyphen text.toList = "ßÄ-b-cd".toList := by decide +kernel
  have hraise : RaisesLetters raise := by
    intro c hc
    rw [isAsciiUpper_iff, isAsciiLower_iff] at hc
    exact if_pos (by omega)
  obtain ⟨hany, hcamel, -⟩ := hyphenToCamel_undoes_camelToHyphen hnone
  refine ⟨hnone, hhyphens, ?_, hraise, ?_⟩
  · rw [← hhyphens, hcamel]
    decide +kernel
  · rw [← hhyphens, hany raise hraise]
    decide +kernel

end Scaffold.Text

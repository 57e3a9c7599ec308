import Mathlib
import Scaffold.Text.Segment

/-!
# Pieces of a text

Splitting at separators goes through a text from left to right, so it can be cut short at any
separator and goes on behind it. Pieces hold no separator, and joining pieces that hold none is
undone by splitting.
-/

namespace Scaffold.Text

variable {sep : Char → Bool}

theorem splitBy_ne_nil (sep : Char → Bool) (cs : List Char) : splitBy sep cs ≠ [] := by
  cases cs with
  | nil => simp [splitBy]
  | cons c cs =>
    rw [splitBy]
    split
    · simp
    · split <;> simp

theorem splitBy_cons_of_sep {c : Char} (h : sep c = true) (cs : List Char) :
    splitBy sep (c :: cs) = [] :: splitBy sep cs := by
  simp [splitBy, h]

/-- A character that is no separator joins the first piece. -/
theorem splitBy_cons_of_not_sep {c : Char} (h : sep c = false) {cs piece : List Char}
    {pieces : List (List Char)} (hcs : splitBy sep cs = piece :: pieces) :
    splitBy sep (c :: cs) = (c :: piece) :: pieces := by
  simp [splitBy, h, hcs]

theorem splitBy_append_cons {c : Char} (h : sep c = true) (as bs : List Char) :
    splitBy sep (as ++ c :: bs) = splitBy sep as ++ splitBy sep bs := by
  induction as with
  | nil => simp [splitBy_cons_of_sep h, splitBy]
  | cons a as ih =>
    cases ha : sep a with
    | true => simp [splitBy_cons_of_sep ha, ih]
    | false =>
      obtain ⟨piece, pieces, hpieces⟩ := List.exists_cons_of_ne_nil (splitBy_ne_nil sep as)
      rw [hpieces, List.cons_append] at ih
      rw [List.cons_append, splitBy_cons_of_not_sep ha ih, splitBy_cons_of_not_sep ha hpieces,
        List.cons_append]

theorem splitBy_of_forall_not {cs : List Char} (h : ∀ c ∈ cs, sep c = false) :
    splitBy sep cs = [cs] := by
  induction cs with
  | nil => rfl
  | cons c cs ih =>
    exact splitBy_cons_of_not_sep (h c (by simp)) (ih fun d hd => h d (List.mem_cons_of_mem c hd))

theorem not_sep_of_mem_splitBy {cs piece : List Char} (hpiece : piece ∈ splitBy sep cs) :
    ∀ c ∈ piece, sep c = false := by
  induction cs generalizing piece with
  | nil => simp_all [splitBy]
  | cons c cs ih =>
    cases hc : sep c with
    | true =>
      rw [splitBy_cons_of_sep hc, List.mem_cons] at hpiece
      rcases hpiece with rfl | hpiece
      · simp
      · exact ih hpiece
    | false =>
      obtain ⟨first, pieces, hpieces⟩ :=
        List.exists_cons_of_ne_nil (splitBy_ne_nil sep cs)
      rw [hpieces] at ih
      rw [splitBy_cons_of_not_sep hc hpieces, List.mem_cons] at hpiece
      rcases hpiece with rfl | hpiece
      · intro d hd
        rcases List.mem_cons.1 hd with rfl | hd
        · exact hc
        · exact ih (by simp) d hd
      · exact ih (List.mem_cons_of_mem first hpiece)

theorem joinWith_cons (s piece : List Char) {pieces : List (List Char)} (h : pieces ≠ []) :
    joinWith s (piece :: pieces) = piece ++ s ++ joinWith s pieces := by
  cases pieces with
  | nil => exact absurd rfl h
  | cons next pieces => rfl

theorem joinWith_concat (s piece : List Char) {pieces : List (List Char)} (h : pieces ≠ []) :
    joinWith s (pieces ++ [piece]) = joinWith s pieces ++ s ++ piece := by
  induction pieces with
  | nil => exact absurd rfl h
  | cons first pieces ih =>
    cases pieces with
    | nil => rfl
    | cons next pieces =>
      rw [List.cons_append, joinWith_cons s first (by simp), ih (by simp),
        joinWith_cons s first (by simp)]
      simp only [List.append_assoc]

theorem splitBy_joinWith {c : Char} (hc : sep c = true) {pieces : List (List Char)}
    (hne : pieces ≠ []) (h : ∀ piece ∈ pieces, ∀ d ∈ piece, sep d = false) :
    splitBy sep (joinWith [c] pieces) = pieces := by
  induction pieces with
  | nil => exact absurd rfl hne
  | cons piece pieces ih =>
    have hpiece := splitBy_of_forall_not (h piece (by simp))
    cases pieces with
    | nil => exact hpiece
    | cons next pieces =>
      rw [joinWith_cons _ _ (by simp), List.append_assoc, List.singleton_append,
        splitBy_append_cons hc, hpiece,
        ih (by simp) fun p hp => h p (List.mem_cons_of_mem piece hp), List.singleton_append]

theorem joinWith_splitBy {c : Char} (hsep : ∀ d, sep d = true ↔ d = c) (cs : List Char) :
    joinWith [c] (splitBy sep cs) = cs := by
  induction cs with
  | nil => rfl
  | cons d cs ih =>
    obtain ⟨piece, pieces, hpieces⟩ := List.exists_cons_of_ne_nil (splitBy_ne_nil sep cs)
    cases hd : sep d with
    | true =>
      rw [splitBy_cons_of_sep hd, joinWith_cons _ _ (splitBy_ne_nil sep cs), ih, (hsep d).1 hd]
      rfl
    | false =>
      rw [hpieces] at ih
      rw [splitBy_cons_of_not_sep hd hpieces]
      cases pieces with
      | nil => exact congrArg (d :: ·) ih
      | cons next pieces =>
        rw [joinWith_cons _ _ (List.cons_ne_nil next pieces)] at ih ⊢
        rw [List.append_assoc] at ih ⊢
        exact congrArg (d :: ·) ih

/-- Splitting loses nothing but separators. -/
theorem count_flatten_splitBy {c : Char} (hc : sep c = false) (cs : List Char) :
    (splitBy sep cs).flatten.count c = cs.count c := by
  induction cs with
  | nil => rfl
  | cons d cs ih =>
    cases hd : sep d with
    | true =>
      have hne : d ≠ c := by
        rintro rfl
        simp [hc] at hd
      rw [splitBy_cons_of_sep hd, List.flatten_cons, List.nil_append, ih,
        List.count_cons_of_ne hne]
    | false =>
      obtain ⟨piece, pieces, hpieces⟩ := List.exists_cons_of_ne_nil (splitBy_ne_nil sep cs)
      rw [hpieces, List.flatten_cons] at ih
      rw [splitBy_cons_of_not_sep hd hpieces, List.flatten_cons, List.cons_append,
        List.count_cons, List.count_cons, ih]

theorem count_joinWith {c d : Char} (h : c ≠ d) (pieces : List (List Char)) :
    (joinWith [d] pieces).count c = pieces.flatten.count c := by
  induction pieces with
  | nil => rfl
  | cons piece pieces ih =>
    cases pieces with
    | nil => simp [joinWith]
    | cons next pieces =>
      rw [joinWith_cons _ _ (List.cons_ne_nil next pieces), List.count_append,
        List.count_append, ih, List.flatten_cons (l := piece), List.count_append,
        List.count_singleton, if_neg (by simpa using h.symm), Nat.add_zero]

/-- Separators that do not occur do not split. -/
theorem splitBy_congr {sep' : Char → Bool} {cs : List Char} (h : ∀ c ∈ cs, sep c = sep' c) :
    splitBy sep cs = splitBy sep' cs := by
  induction cs with
  | nil => rfl
  | cons c cs ih =>
    rw [splitBy, splitBy, h c (by simp), ih fun d hd => h d (List.mem_cons_of_mem c hd)]

end Scaffold.Text

import Mathlib
import Scaffold.Proofs.Path.Rendered

/-!
# Names on a stack

The segments of a rendered name go one after the other through a stack that is empty at first,
whatever directory the name is put in. So nothing of the directory is ever taken away, and the
names that are left go further down. Put between slashes, they are rendered as themselves.
-/

namespace Scaffold.Path

/-- What a segment makes of the names on the stack, the last one being on top. -/
inductive StackStep : List Char → List (List Char) → List (List Char) → Prop
  | skip {segment : List Char} (names : List (List Char)) (h : segment = [] ∨ segment = ['.']) :
      StackStep segment names names
  | pop (names : List (List Char)) (name : List Char) :
      StackStep ['.', '.'] (names ++ [name]) names
  | stay : StackStep ['.', '.'] [] []
  | push {segment : List Char} (names : List (List Char))
      (h : segment ∉ [[], ['.'], ['.', '.']]) : StackStep segment names (names ++ [segment])

/-- What segments make of the names on the stack, one after the other. -/
inductive StackRun : List (List Char) → List (List Char) → List (List Char) → Prop
  | done (names : List (List Char)) : StackRun [] names names
  | step {segment : List Char} {segments names names' left : List (List Char)}
      (h : StackStep segment names names') (hrest : StackRun segments names' left) :
      StackRun (segment :: segments) names left

variable {segment : List Char} {segments names names' left : List (List Char)}

theorem stackStep_iff :
    StackStep segment names names' ↔
      names' =
        if segment = [] ∨ segment = ['.'] then names
        else if segment = ['.', '.'] then names.dropLast
        else names ++ [segment] := by
  constructor
  · intro h
    cases h with
    | skip _ hskip => rw [if_pos hskip]
    | pop _ name => simp
    | stay => rfl
    | push _ hpush =>
      simp only [List.mem_cons, List.not_mem_nil, or_false, not_or] at hpush
      rw [if_neg (by simp [hpush.1, hpush.2.1]), if_neg hpush.2.2]
  · rintro rfl
    split_ifs with hskip hdots
    · exact .skip names hskip
    · subst hdots
      rcases List.eq_nil_or_concat names with rfl | ⟨front, name, rfl⟩
      · exact .stay
      · rw [List.concat_eq_append, List.dropLast_concat]
        exact .pop front name
    · rw [not_or] at hskip
      exact .push names (by simp [hskip.1, hskip.2, hdots])

theorem stackRun_cons_iff :
    StackRun (segment :: segments) names left ↔
      ∃ names', StackStep segment names names' ∧ StackRun segments names' left := by
  constructor
  · intro h
    cases h with
    | step h hrest => exact ⟨_, h, hrest⟩
  · rintro ⟨names', h, hrest⟩
    exact .step h hrest

/-- Segments lead to one stack, whose names are kept the other way round. -/
theorem stackRun_iff :
    StackRun segments names left ↔ left = (stackSegments names.reverse segments).reverse := by
  induction segments generalizing names with
  | nil =>
    rw [stackSegments, List.reverse_reverse]
    constructor
    · intro h
      cases h
      rfl
    · rintro rfl
      exact .done left
  | cons s segments ih =>
    simp only [stackRun_cons_iff, stackStep_iff, exists_eq_left, ih]
    rw [stackSegments]
    split_ifs
    · rfl
    · rw [List.tail_reverse]
    · rw [List.reverse_append, List.reverse_singleton, List.singleton_append]

/-- A rendered name leads from a directory to the names that the stack ends with, and these are
proper names: nothing of the directory is lost. The same names between slashes lead to the same
path. -/
theorem joinRendered_never_climbs (dir : Path) (rendered : String) :
    let segments := Text.splitBy isDivider (Text.trim rendered.toList)
    let path := dir.joinRendered rendered
    ∃ names : List (List Char),
      (∀ left, StackRun segments [] left ↔ left = names) ∧
      (∀ n ∈ names, n ≠ [] ∧ n ≠ ['.'] ∧ n ≠ ['.', '.'] ∧ '/' ∉ n ∧ '\\' ∉ n) ∧
      path = dir.joinAll names ∧ path.components = dir.components ++ names.map .name ∧
      dir.joinRendered (String.ofList ('/' :: (Text.joinWith ['/'] names ++ ['/']))) = path := by
  intro segments path
  have hsegments : ∀ n ∈ renderedNames rendered.toList, IsSegment n :=
    fun n hn => isSegment_of_mem_renderedNames hn
  refine ⟨renderedNames rendered.toList, fun left => stackRun_iff, fun n hn => ?_, rfl,
    components_joinRendered dir rendered, ?_⟩
  · obtain ⟨⟨hempty, hhere, hup, -⟩, hsolid⟩ := hsegments n hn
    refine ⟨hempty, hhere, hup, fun hmem => ?_, fun hmem => ?_⟩
    · exact absurd (hsolid _ hmem) (by decide)
    · exact absurd (hsolid _ hmem) (by decide)
  · rw [joinRendered, String.toList_ofList, renderedNames_between hsegments]
    rfl

end Scaffold.Path

import Mathlib
import Scaffold.Proofs.Mock.Value

/-!
# Payloads under different depth limits

A smaller depth limit cuts off more of a payload and changes nothing else. What is cut off are
arrays and objects, and with them the problems that would be met inside. Two runs go the same way
up to the level where the first of them stops, so it is enough to compare them type by type.
-/

namespace Scaffold

namespace Json

mutual

/-- `null` stands in the first value where the second may have an array or an object. -/
inductive Pruned : Json → Json → Prop
  | same (v : Json) : Pruned v v
  | cutItems (xs : List Json) : Pruned .null (.arr xs)
  | cutMembers (ms : Members) : Pruned .null (.obj ms)
  | items {xs ys : List Json} : PrunedItems xs ys → Pruned (.arr xs) (.arr ys)
  | members {ms ns : Members} : PrunedMembers ms ns → Pruned (.obj ms) (.obj ns)

inductive PrunedItems : List Json → List Json → Prop
  | nil : PrunedItems [] []
  | cons {v w : Json} {xs ys : List Json} :
      Pruned v w → PrunedItems xs ys → PrunedItems (v :: xs) (w :: ys)

inductive PrunedMembers : Members → Members → Prop
  | nil : PrunedMembers [] []
  | cons {key : String} {v w : Json} {ms ns : Members} :
      Pruned v w → PrunedMembers ms ns → PrunedMembers ((key, v) :: ms) ((key, w) :: ns)

end

theorem Pruned.singleton {v w : Json} (h : Pruned v w) : Pruned (.arr [v]) (.arr [w]) :=
  .items (.cons h .nil)

theorem PrunedMembers.insert (key : String) {v w : Json} {ms ns : Members}
    (h : PrunedMembers ms ns) (hvalue : Pruned v w) :
    PrunedMembers (ms.insert key v) (ns.insert key w) := by
  induction ms generalizing ns with
  | nil =>
    cases h
    exact .cons hvalue .nil
  | cons m ms ih =>
    cases h with
    | @cons k v' w' _ ns hfirst hrest =>
      -- the names are the same on both sides, so both are inserted at one place
      unfold Members.insert
      by_cases hless : key < k
      · rw [if_pos hless, if_pos hless]
        exact .cons hvalue (.cons hfirst hrest)
      · rw [if_neg hless, if_neg hless]
        by_cases hsame : k = key
        · rw [if_pos hsame, if_pos hsame]
          exact .cons hvalue hrest
        · rw [if_neg hsame, if_neg hsame]
          exact .cons hfirst (ih hrest)

end Json

namespace Mock

open Json (Pruned PrunedMembers)

/-- A value that is cut down, with no more problems than the other one has. -/
structure CutFrom (cut whole : Sample) : Prop where
  pruned : Pruned cut.1 whole.1
  errors : cut.2.Sublist whole.2

variable {catalog : List DataType} {value value' : DataType → Sample}

theorem CutFrom.refl (s : Sample) : CutFrom s s :=
  ⟨.same s.1, .refl s.2⟩

theorem CutFrom.singleton {s t : Sample} (h : CutFrom s t) :
    CutFrom (.arr [s.1], s.2) (.arr [t.1], t.2) :=
  ⟨h.pruned.singleton, h.errors⟩

/-! ## Values -/

section Values

variable (catalog)

theorem cutFrom_singleValue (h : ∀ d, CutFrom (value d) (value' d)) (p : Param) :
    CutFrom (singleValue value catalog p) (singleValue value' catalog p) := by
  cases hdefault : usableDefault? p with
  | some v =>
    rw [singleValue_of_default hdefault, singleValue_of_default hdefault]
    exact .refl _
  | none =>
    cases htype : p.type? catalog with
    | some d =>
      rw [singleValue_of_type hdefault htype, singleValue_of_type hdefault htype]
      exact h d
    | none =>
      rw [singleValue_of_untyped hdefault htype, singleValue_of_untyped hdefault htype]
      exact .refl _

theorem cutFrom_paramValue (h : ∀ d, CutFrom (value d) (value' d)) (p : Param) :
    CutFrom (paramValue value catalog p) (paramValue value' catalog p) := by
  have hsingle := cutFrom_singleValue catalog h p
  rw [paramValue_eq, paramValue_eq]
  cases p.isArray with
  | false => exact hsingle
  | true => exact hsingle.singleton

/-- Members that come again are put in the same places on both sides. -/
theorem cutFrom_paramMembers (h : ∀ d, CutFrom (value d) (value' d)) {ms ns : Members}
    (hms : PrunedMembers ms ns) (ps : List Param) :
    PrunedMembers (paramMembers value catalog ms ps).1 (paramMembers value' catalog ns ps).1 ∧
      (paramMembers value catalog ms ps).2.Sublist (paramMembers value' catalog ns ps).2 := by
  induction ps generalizing ms ns with
  | nil => exact ⟨hms, .refl []⟩
  | cons p ps ih =>
    have hfirst := cutFrom_paramValue catalog h p
    have hinsert := hms.insert p.name hfirst.pruned
    obtain ⟨hmembers, herrors⟩ := ih hinsert
    rw [paramMembers_cons, paramMembers_cons]
    exact ⟨hmembers, hfirst.errors.append herrors⟩

theorem cutFrom_objectValue (h : ∀ d, CutFrom (value d) (value' d)) (ps : List Param) :
    CutFrom (objectValue value catalog ps) (objectValue value' catalog ps) := by
  obtain ⟨hmembers, herrors⟩ := cutFrom_paramMembers catalog h .nil ps
  exact ⟨.members hmembers, herrors⟩

end Values

theorem pruned_null_typeValue {levels : Nat} {d : DataType} (h : isNested d = true) :
    Pruned .null (typeValue catalog levels d).1 := by
  cases levels with
  | zero =>
    rw [typeValue_zero_of_nested h]
    exact .same _
  | succ levels =>
    rcases isNested_cases d with hhash | harray | hplain
    · rw [typeValue_of_hash hhash]
      exact .cutMembers _
    · rw [typeValue_of_array harray]
      cases d.params with
      | nil => exact .cutItems _
      | cons p ps => exact .cutItems _
    · simp [h] at hplain

theorem cutFrom_typeValue {levels deeper : Nat} (h : levels ≤ deeper) (d : DataType) :
    CutFrom (typeValue catalog levels d) (typeValue catalog deeper d) := by
  induction levels generalizing deeper d with
  | zero =>
    -- here the first run stops
    cases hnested : isNested d with
    | true =>
      rw [typeValue_zero_of_nested hnested]
      exact ⟨pruned_null_typeValue hnested, List.nil_sublist _⟩
    | false =>
      rw [typeValue_of_plain hnested, typeValue_of_plain hnested]
      exact .refl _
  | succ levels ih =>
    obtain ⟨deeper, rfl⟩ := Nat.exists_eq_succ_of_ne_zero (Nat.ne_zero_of_lt h)
    have hvalue : ∀ d, CutFrom (typeValue catalog levels d) (typeValue catalog deeper d) :=
      fun d => ih (Nat.le_of_succ_le_succ h) d
    rcases isNested_cases d with hhash | harray | hplain
    · rw [typeValue_of_hash hhash, typeValue_of_hash hhash]
      exact cutFrom_objectValue catalog hvalue d.params
    · rw [typeValue_of_array harray, typeValue_of_array harray]
      cases d.params with
      | nil => exact .refl _
      | cons p ps => exact (cutFrom_paramValue catalog hvalue p).singleton
    · rw [typeValue_of_plain hplain, typeValue_of_plain hplain]
      exact .refl _

/-! ## Payloads -/

theorem cutFrom_payload {depth deeper : Nat} (h : depth ≤ deeper) (resFormat : Int)
    (params : List Param) (catalog : List DataType) :
    CutFrom (payload depth resFormat params catalog) (payload deeper resFormat params catalog) := by
  have hvalue : ∀ d, CutFrom (typeValue catalog depth d) (typeValue catalog deeper d) :=
    cutFrom_typeValue h
  have hobject := cutFrom_objectValue catalog hvalue params
  unfold payload
  by_cases harray : resFormat = Format.array
  · rw [if_pos harray, if_pos harray]
    exact hobject.singleton
  · rw [if_neg harray, if_neg harray]
    by_cases hhash : resFormat = Format.hash
    · rw [if_pos hhash, if_pos hhash]
      exact hobject
    · rw [if_neg hhash, if_neg hhash]
      cases params with
      | nil => exact .refl _
      | cons p ps => exact cutFrom_paramValue catalog hvalue p

/-- Under a smaller limit there is the same payload with some arrays and objects cut down to
`null`, and some of the same problems in the same order. -/
theorem synthesize_cut_from_deeper {depth deeper : Nat} (h : depth ≤ deeper) (resFormat : Int)
    (params : List Param) (catalog : List DataType) :
    Pruned (synthesize depth resFormat params catalog).json
        (synthesize deeper resFormat params catalog).json ∧
      (synthesize depth resFormat params catalog).errors.Sublist
        (synthesize deeper resFormat params catalog).errors := by
  have hcut := cutFrom_payload h resFormat params catalog
  exact ⟨hcut.pruned, hcut.errors⟩

/-- One level less of a list leaves out its inner part and the problem met there. -/
theorem synthesize_cut_from_deeper_list :
    let node : DataType :=
      { id := 1, format := Format.hash
        params := [{ name := "next", typeId := some 1 }, { name := "rest" }] }
    let head : Param := { name := "head", typeId := some 1 }
    let cut := synthesize 1 Format.hash [head] [node]
    let whole := synthesize 2 Format.hash [head] [node]
    let ending := "param 'rest' has no data type"
    cut.json = .obj [("head", .obj [("next", .null), ("rest", .null)])] ∧
      whole.json =
        .obj [("head", .obj [("next", .obj [("next", .null), ("rest", .null)]),
          ("rest", .null)])] ∧
      cut.errors = [ending] ∧ whole.errors = [ending, ending] ∧ 1 ≤ 2 ∧
      Pruned cut.json whole.json ∧ cut.errors.Sublist whole.errors := by
  intro node head cut whole ending
  have hle : 1 ≤ 2 := by decide
  exact ⟨rfl, rfl, rfl, rfl, hle, synthesize_cut_from_deeper hle Format.hash [head] [node]⟩

end Mock

end Scaffold

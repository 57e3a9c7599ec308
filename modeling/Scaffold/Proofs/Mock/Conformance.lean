import Mathlib
import Scaffold.Proofs.Mock.Value

/-!
# Payloads that conform

A parameter that has neither a default to use nor a type in the catalog is complained about, once
for each visit and in the order of the visits. A payload without complaints conforms to its
parameters: every value in it is a default or has the shape that its type asks for, and `null`
stands only where the depth limit is reached or where a type has nothing to show.
-/

namespace Scaffold

/-- The formats that mean something. -/
def Format.codes : List Int :=
  [hash, enumeration, array, string, number, boolean, file]

namespace Mock

/-! ## Shapes -/

/-- The value of a type is `null` at the depth limit, for an enumeration without members, and for
a format that means nothing. -/
def MayBeNull (levels : Nat) (d : DataType) : Prop :=
  (levels = 0 ∧ isNested d = true) ∨ (d.format = Format.enumeration ∧ d.params = []) ∨
    d.format ∉ Format.codes

mutual

/-- A repeated parameter has an array of one value. -/
inductive ParamConforms (catalog : List DataType) : Nat → Param → Json → Prop
  | single {levels p v} :
      p.isArray = false → ValueConforms catalog levels p v → ParamConforms catalog levels p v
  | repeated {levels p v} :
      p.isArray = true → ValueConforms catalog levels p v →
        ParamConforms catalog levels p (.arr [v])

/-- A default to use comes before what the type asks for. -/
inductive ValueConforms (catalog : List DataType) : Nat → Param → Json → Prop
  | default {levels p v} :
      usableDefault? p = some v →
        ValueConforms catalog levels p (coerceDefault v ((p.type? catalog).map (·.format)))
  | typed {levels p d v} :
      usableDefault? p = none → p.RefersTo catalog d → TypeConforms catalog levels d v →
        ValueConforms catalog levels p v

/-- What a type asks for with so many levels left. -/
inductive TypeConforms (catalog : List DataType) : Nat → DataType → Json → Prop
  | text {levels d} (s : String) :
      d.format = Format.string ∨ d.format = Format.file → TypeConforms catalog levels d (.str s)
  | number {levels d} (n : Number) :
      d.format = Format.number → TypeConforms catalog levels d (.num n)
  | boolean {levels d} (b : Bool) :
      d.format = Format.boolean → TypeConforms catalog levels d (.bool b)
  | memberDefault {levels d p ps v} :
      d.format = Format.enumeration → d.params = p :: ps → p.defaultValue = some v → v ≠ .null →
        TypeConforms catalog levels d v
  | memberName {levels d p ps} :
      d.format = Format.enumeration → d.params = p :: ps →
        p.defaultValue = none ∨ p.defaultValue = some .null →
          TypeConforms catalog levels d (.str p.name)
  | object {levels d ms} {v : Param → Json} :
      d.format = Format.hash → Gathers d.params v ms →
        (∀ p, IsLast d.params p → ParamConforms catalog levels p (v p)) →
          TypeConforms catalog (levels + 1) d (.obj ms)
  | array {levels d p ps v} :
      d.format = Format.array → d.params = p :: ps → ParamConforms catalog levels p v →
        TypeConforms catalog (levels + 1) d (.arr [v])
  | emptyArray {levels d} :
      d.format = Format.array → d.params = [] → TypeConforms catalog (levels + 1) d (.arr [.null])
  | null {levels d} : MayBeNull levels d → TypeConforms catalog levels d .null

end

variable {catalog : List DataType} {levels : Nat} {p : Param} {d : DataType}

/-! ## Visits -/

/-- The members that the value of a data type is made of: all those of a hash type, and the first
one of an array type. -/
def parts (d : DataType) : List Param :=
  if d.format = Format.hash then d.params
  else if d.format = Format.array then d.params.take 1
  else []

/-- The type that a parameter takes its value from, unless it has a default to use. -/
def usedType? (catalog : List DataType) (p : Param) : Option DataType :=
  if (usableDefault? p).isSome then none else p.type? catalog

/-- A parameter and, as far down as there are levels left, those that are visited for it. -/
def visits (catalog : List DataType) : Nat → Param → List Param
  | 0, p => [p]
  | levels + 1, p =>
    p :: match usedType? catalog p with
      | some d => (parts d).flatMap (visits catalog levels)
      | none => []

def LacksValue (catalog : List DataType) (p : Param) : Prop :=
  (p.defaultValue = none ∨ p.defaultValue = some .null ∨ p.defaultValue = some (.str "")) ∧
    ∀ d ∈ catalog, p.typeId ≠ some d.id

theorem lacksValue_iff :
    LacksValue catalog p ↔ usableDefault? p = none ∧ p.type? catalog = none := by
  rw [LacksValue, usableDefault?_eq_none_iff, Param.type?_eq_none_iff]

instance (catalog : List DataType) (p : Param) : Decidable (LacksValue catalog p) :=
  decidable_of_iff ((usableDefault? p).isNone = true ∧ (p.type? catalog).isNone = true) <| by
    rw [lacksValue_iff, Option.isNone_iff_eq_none, Option.isNone_iff_eq_none]

/-- The problems with those of the visited parameters that have no value. -/
def complaints (catalog : List DataType) (ps : List Param) : List String :=
  (ps.filter fun p => LacksValue catalog p).map untyped

theorem complaints_cons (p : Param) (ps : List Param) :
    complaints catalog (p :: ps) = complaints catalog [p] ++ complaints catalog ps := by
  rw [complaints, ← List.singleton_append, List.filter_append, List.map_append]
  rfl

theorem complaints_flatMap (f : Param → List Param) (ps : List Param) :
    complaints catalog (ps.flatMap f) = ps.flatMap fun p => complaints catalog (f p) := by
  rw [complaints, List.filter_flatMap, List.map_flatMap]
  rfl

theorem errors_paramValue_eq (value : DataType → Sample) : (paramValue value catalog p).2 =
    complaints catalog [p] ++ ((usedType? catalog p).map fun d => (value d).2).getD [] := by
  rw [paramValue_eq]
  cases hdefault : usableDefault? p with
  | some v =>
    have hlacks : ¬ LacksValue catalog p := by simp [lacksValue_iff, hdefault]
    rw [singleValue_of_default hdefault]
    simp [complaints, usedType?, hlacks, hdefault]
  | none =>
    cases htype : p.type? catalog with
    | some d =>
      have hlacks : ¬ LacksValue catalog p := by simp [lacksValue_iff, htype]
      rw [singleValue_of_type hdefault htype]
      simp [complaints, usedType?, hlacks, hdefault, htype]
    | none =>
      have hlacks : LacksValue catalog p := lacksValue_iff.2 ⟨hdefault, htype⟩
      rw [singleValue_of_untyped hdefault htype]
      simp [complaints, usedType?, hlacks, hdefault, htype]

theorem errors_typeValue_succ : (typeValue catalog (levels + 1) d).2 =
    (parts d).flatMap fun q => (paramValue (typeValue catalog levels) catalog q).2 := by
  rcases isNested_cases d with hhash | harray | hplain
  · rw [typeValue_of_hash hhash, objectValue_eq, parts, if_pos hhash]
  · rw [typeValue_of_array harray, parts, if_neg (not_hash_of_array harray), if_pos harray]
    cases d.params with
    | nil => rfl
    | cons q qs => simp
  · obtain ⟨hhash, harray⟩ := isNested_eq_false_iff.1 hplain
    rw [typeValue_of_plain hplain, parts, if_neg hhash, if_neg harray, List.flatMap_nil]

theorem errors_paramValue (levels : Nat) (p : Param) :
    (paramValue (typeValue catalog levels) catalog p).2 =
      complaints catalog (visits catalog levels p) := by
  induction levels generalizing p with
  | zero =>
    rw [errors_paramValue_eq, visits]
    cases usedType? catalog p <;> simp [typeValue_zero_errors]
  | succ levels ih =>
    rw [visits, complaints_cons, errors_paramValue_eq]
    cases usedType? catalog p with
    | none => rfl
    | some d =>
      have hparts : (typeValue catalog (levels + 1) d).2 = _ := errors_typeValue_succ
      simp only [ih] at hparts
      rw [complaints_flatMap, ← hparts]
      rfl

theorem errors_objectValue (levels : Nat) (ps : List Param) :
    (objectValue (typeValue catalog levels) catalog ps).2 =
      complaints catalog (ps.flatMap (visits catalog levels)) := by
  rw [objectValue_eq, complaints_flatMap]
  simp only [errors_paramValue]

/-! ## What conforms -/

theorem typeConforms_dummyValue (hnested : isNested d = false)
    (henum : d.format ≠ Format.enumeration) :
    TypeConforms catalog levels d (dummyValue d.format) := by
  unfold dummyValue
  split_ifs with htext hnumber hboolean
  · exact .text "example" htext
  · exact .number _ hnumber
  · exact .boolean true hboolean
  · apply TypeConforms.null
    right
    right
    obtain ⟨hhash, harray⟩ := isNested_eq_false_iff.1 hnested
    obtain ⟨hstring, hfile⟩ := not_or.1 htext
    simp [Format.codes, hhash, henum, harray, hstring, hnumber, hboolean, hfile]

theorem typeConforms_plainValue (hnested : isNested d = false) :
    TypeConforms catalog levels d (plainValue d) := by
  unfold plainValue
  split_ifs with henum
  · unfold enumValue
    split
    · rename_i hparams
      exact .null (.inr (.inl ⟨henum, hparams⟩))
    · rename_i p ps hparams
      split
      · rename_i hnone
        exact .memberName henum hparams (.inl hnone)
      · rename_i hnull
        exact .memberName henum hparams (.inr hnull)
      · rename_i v hne hv
        exact .memberDefault henum hparams hv hne
  · exact typeConforms_dummyValue hnested henum

section Value

variable {value : DataType → Sample}

theorem paramConforms_paramValue
    (hvalue : ∀ d, (value d).2 = [] → TypeConforms catalog levels d (value d).1)
    (h : (paramValue value catalog p).2 = []) :
    ParamConforms catalog levels p (paramValue value catalog p).1 := by
  rw [paramValue_eq] at h ⊢
  have hsingle : ValueConforms catalog levels p (singleValue value catalog p).1 := by
    cases hdefault : usableDefault? p with
    | some v =>
      rw [singleValue_of_default hdefault]
      exact .default hdefault
    | none =>
      cases htype : p.type? catalog with
      | some d =>
        rw [singleValue_of_type hdefault htype] at h ⊢
        exact .typed hdefault (Param.type?_eq_some_iff.1 htype) (hvalue d h)
      | none =>
        rw [singleValue_of_untyped hdefault htype] at h
        simp at h
  cases harray : p.isArray with
  | false => exact .single harray hsingle
  | true => exact .repeated harray hsingle

theorem paramConforms_of_objectValue {ps : List Param}
    (hvalue : ∀ d, (value d).2 = [] → TypeConforms catalog levels d (value d).1)
    (h : (objectValue value catalog ps).2 = []) :
    ∀ p ∈ ps, ParamConforms catalog levels p (paramValue value catalog p).1 := by
  rw [objectValue_eq] at h
  intro p hp
  exact paramConforms_paramValue hvalue (List.flatMap_eq_nil_iff.1 h p hp)

end Value

theorem typeConforms_typeValue (levels : Nat) (d : DataType)
    (h : (typeValue catalog levels d).2 = []) :
    TypeConforms catalog levels d (typeValue catalog levels d).1 := by
  induction levels generalizing d with
  | zero =>
    cases hnested : isNested d with
    | true =>
      rw [typeValue_zero_of_nested hnested]
      exact .null (.inl ⟨rfl, hnested⟩)
    | false =>
      rw [typeValue_of_plain hnested]
      exact typeConforms_plainValue hnested
  | succ levels ih =>
    rcases isNested_cases d with hhash | harray | hplain
    · rw [typeValue_of_hash hhash] at h ⊢
      -- a type without complaints has members without complaints
      have hmembers := paramConforms_of_objectValue ih h
      rw [objectValue_eq]
      exact .object hhash (gathers_ofList _ _) fun p hp => hmembers p hp.mem
    · rw [typeValue_of_array harray] at h ⊢
      cases hparams : d.params with
      | nil => exact .emptyArray harray hparams
      | cons p ps =>
        rw [hparams] at h
        exact .array harray hparams (paramConforms_paramValue ih h)
    · rw [typeValue_of_plain hplain]
      exact typeConforms_plainValue hplain

/-! ## Payloads -/

/-- An object payload holds what its last parameter of each name gives, every visited parameter
without a value is complained about in turn, and without complaints all members conform. -/
theorem synthesize_conforms (depth : Nat) (params : List Param) (catalog : List DataType) :
    let payload := synthesize depth Format.hash params catalog
    let valueOf := fun p => (paramValue (typeValue catalog depth) catalog p).1
    (∃ ms, payload.json = .obj ms ∧ Gathers params valueOf ms) ∧
      payload.errors = complaints catalog (params.flatMap (visits catalog depth)) ∧
      (payload.errors = [] → ∀ p, IsLast params p →
        ParamConforms catalog depth p (valueOf p)) := by
  intro payload valueOf
  have hpayload : payload =
      { json := (objectValue (typeValue catalog depth) catalog params).1
        errors := (objectValue (typeValue catalog depth) catalog params).2 } := by
    have hformat : Format.hash ≠ Format.array := by decide
    simp only [payload, synthesize, Mock.payload, if_neg hformat, if_pos]
  rw [hpayload]
  refine ⟨⟨_, ?_, gathers_ofList params valueOf⟩, ?_, ?_⟩
  · dsimp only
    rw [objectValue_eq]
  · exact errors_objectValue depth params
  · intro h p hp
    exact paramConforms_of_objectValue (typeConforms_typeValue depth) h p hp.mem

/-- The second of two parameters of one name wins, and a type that refers to itself ends with
`null` at the limit. -/
theorem synthesize_conforms_repeated_name :
    let text : DataType := { id := 1, format := Format.string }
    let node : DataType :=
      { id := 2, format := Format.hash, params := [{ name := "next", typeId := some 2 }] }
    let first : Param := { name := "head", typeId := some 1 }
    let second : Param := { name := "head", typeId := some 2, isArray := true }
    let payload := synthesize 1 Format.hash [first, second] [text, node]
    let head : Json := .arr [.obj [("next", .null)]]
    payload.errors = [] ∧ payload.json.get? "head" = some head ∧
      ParamConforms [text, node] 1 second head := by
  intro text node first second payload head
  have hlast : IsLast [first, second] second := ⟨[first], [], rfl, by simp⟩
  obtain ⟨⟨ms, hms, hgathers⟩, -, hconforms⟩ := synthesize_conforms 1 [first, second] [text, node]
  refine ⟨rfl, ?_, hconforms rfl second hlast⟩
  change (synthesize 1 Format.hash [first, second] [text, node]).json.get? "head" = some head
  rw [hms]
  exact hgathers.find?_name second hlast

end Mock

end Scaffold

import Mathlib
import Scaffold.Proofs.Json.WellFormed
import Scaffold.Proofs.Mock.Value

/-!
# Nesting of payloads

A data type that is gone into makes a payload two levels higher at most: one for its object or its
array, and one where a parameter in it is repeated. So the depth limit bounds how high payloads
are, however the types of a catalog refer to each other. Defaults are taken as they are and add
their own height, also where the limit has been reached.
-/

namespace Scaffold

/-! ## Heights -/

namespace Json

variable {n : Nat}

@[simp] theorem height_arr_singleton (v : Json) : (arr [v]).height = v.height + 1 := by
  simp [height, heightItems]

theorem heightItems_le_iff {xs : List Json} : heightItems xs ≤ n ↔ ∀ x ∈ xs, x.height ≤ n := by
  induction xs with
  | nil => simp [heightItems]
  | cons x xs ih => simp [heightItems, ih]

theorem heightMembers_le_iff {ms : Members} :
    heightMembers ms ≤ n ↔ ∀ m ∈ ms, m.2.height ≤ n := by
  induction ms with
  | nil => simp [heightMembers]
  | cons m ms ih => simp [heightMembers, ih]

theorem height_obj_ofList_le {entries : List (String × Json)}
    (h : ∀ e ∈ entries, e.2.height ≤ n) : (obj (Members.ofList entries)).height ≤ n + 1 := by
  have hall (ms : Members) (hms : ∀ m ∈ ms, m.2.height ≤ n) :
      ∀ m ∈ ms.insertAll entries, m.2.height ≤ n := by
    induction entries generalizing ms with
    | nil => exact hms
    | cons e entries ih =>
      apply ih (fun e' he' => h e' (List.mem_cons_of_mem e he'))
      intro m hm
      rcases Members.mem_insert hm with rfl | hm
      · exact h e (by simp)
      · exact hms m hm
  rw [height, Nat.add_le_add_iff_right, heightMembers_le_iff]
  exact hall [] (by simp)

end Json

namespace Mock

/-! ## Defaults -/

theorem height_of_numberOfText? {cs : List Char} {v : Json} (h : numberOfText? cs = some v) :
    v.height = 0 := by
  unfold numberOfText? at h
  split at h
  · simp at h
  · split at h
    · obtain rfl := Option.some.inj h
      split <;> rfl
    · split_ifs at h
      obtain rfl := Option.some.inj h
      rfl

theorem height_coerceText (s : String) (format : Option Int) :
    (coerceText s format).height = 0 := by
  unfold coerceText
  split
  · cases hnumber : numberOfText? s.toList with
    | none => rfl
    | some v => exact height_of_numberOfText? hnumber
  · split
    · dsimp only
      split_ifs <;> rfl
    · rfl

theorem height_coerceDefault (v : Json) (format : Option Int) :
    (coerceDefault v format).height = v.height := by
  cases v with
  | str s => exact height_coerceText s format
  | _ => rfl

/-- No default is higher than `n`. -/
def DefaultsWithin (n : Nat) (ps : List Param) : Prop :=
  ∀ p ∈ ps, ∀ v ∈ p.defaultValue, v.height ≤ n

theorem DefaultsWithin.mono {m n : Nat} {ps : List Param} (h : DefaultsWithin m ps) (hle : m ≤ n) :
    DefaultsWithin n ps :=
  fun p hp v hv => (h p hp v hv).trans hle

/-- The height of the highest default in parameters and in the members of a catalog. -/
def defaultHeight (params : List Param) (catalog : List DataType) : Nat :=
  Json.heightItems ((params ++ catalog.flatMap (·.params)).filterMap (·.defaultValue))

theorem defaultsWithin_of_subset {params ps : List Param} {catalog : List DataType}
    (h : ps ⊆ params ++ catalog.flatMap (·.params)) :
    DefaultsWithin (defaultHeight params catalog) ps := by
  intro p hp v hv
  apply Json.heightItems_le_iff.1 le_rfl
  exact List.mem_filterMap.2 ⟨p, h hp, hv⟩

/-! ## Values -/

section Values

variable {catalog : List DataType} {value : DataType → Sample} {n : Nat}

theorem height_singleValue_le {p : Param} (hdefault : ∀ v ∈ p.defaultValue, v.height ≤ n)
    (hvalue : ∀ d ∈ catalog, (value d).1.height ≤ n) :
    (singleValue value catalog p).1.height ≤ n := by
  cases hp : usableDefault? p with
  | some v =>
    rw [singleValue_of_default hp, height_coerceDefault]
    exact hdefault v (usableDefault?_eq_some hp)
  | none =>
    cases htype : p.type? catalog with
    | some d =>
      rw [singleValue_of_type hp htype]
      exact hvalue d (Param.mem_of_type? htype)
    | none =>
      rw [singleValue_of_untyped hp htype]
      exact Nat.zero_le n

theorem height_paramValue_le {p : Param} (hdefault : ∀ v ∈ p.defaultValue, v.height ≤ n)
    (hvalue : ∀ d ∈ catalog, (value d).1.height ≤ n) :
    (paramValue value catalog p).1.height ≤ n + 1 := by
  have hsingle := height_singleValue_le hdefault hvalue
  rw [paramValue_eq]
  dsimp only
  split_ifs
  · rw [Json.height_arr_singleton]
    omega
  · omega

theorem height_objectValue_le {ps : List Param} (hps : DefaultsWithin n ps)
    (hvalue : ∀ d ∈ catalog, (value d).1.height ≤ n) :
    (objectValue value catalog ps).1.height ≤ n + 2 := by
  rw [objectValue_eq]
  apply Json.height_obj_ofList_le
  intro e he
  obtain ⟨p, hp, rfl⟩ := List.mem_map.1 he
  exact height_paramValue_le (hps p hp) hvalue

theorem height_dummyValue (format : Int) : (dummyValue format).height = 0 := by
  unfold dummyValue
  split_ifs <;> rfl

theorem height_plainValue_le {d : DataType} (hd : DefaultsWithin n d.params) :
    (plainValue d).height ≤ n := by
  unfold plainValue enumValue
  split
  · split
    · exact Nat.zero_le n
    · rename_i p ps hparams
      split
      · exact Nat.zero_le n
      · exact Nat.zero_le n
      · rename_i v _ hv
        exact hd p (by simp [hparams]) v hv
  · rw [height_dummyValue]
    exact Nat.zero_le n

theorem height_typeValue_le (hcatalog : ∀ d ∈ catalog, DefaultsWithin n d.params) (levels : Nat) :
    ∀ d ∈ catalog, (typeValue catalog levels d).1.height ≤ 2 * levels + n := by
  induction levels with
  | zero =>
    -- the limit cuts off objects and arrays, but no defaults
    intro d hd
    cases hnested : isNested d with
    | true =>
      rw [typeValue_zero_of_nested hnested]
      exact Nat.zero_le _
    | false =>
      rw [typeValue_of_plain hnested]
      exact (height_plainValue_le (hcatalog d hd)).trans (Nat.le_add_left n _)
  | succ levels ih =>
    intro d hd
    have hdefaults : DefaultsWithin (2 * levels + n) d.params :=
      (hcatalog d hd).mono (Nat.le_add_left n _)
    rcases isNested_cases d with hhash | harray | hplain
    · have hobject := height_objectValue_le hdefaults ih
      rw [typeValue_of_hash hhash]
      omega
    · rw [typeValue_of_array harray]
      cases hparams : d.params with
      | nil =>
        rw [Json.height_arr_singleton]
        change 0 + 1 ≤ _
        omega
      | cons p ps =>
        have hitem := height_paramValue_le (hdefaults p (by simp [hparams])) ih
        rw [Json.height_arr_singleton]
        omega
    · rw [typeValue_of_plain hplain]
      exact (height_plainValue_le (hcatalog d hd)).trans (Nat.le_add_left n _)

end Values

/-! ## Payloads -/

/-- Beside the two levels for each one that is gone into there are those of the parameters
themselves, and one where a response is a list. -/
theorem height_synthesize_le (depth : Nat) (resFormat : Int) (params : List Param)
    (catalog : List DataType) :
    (synthesize depth resFormat params catalog).json.height ≤
      2 * depth + 3 + defaultHeight params catalog := by
  set n := defaultHeight params catalog with hn
  have hparams : DefaultsWithin (2 * depth + n) params :=
    (defaultsWithin_of_subset (by simp)).mono (Nat.le_add_left n _)
  have hcatalog : ∀ d ∈ catalog, DefaultsWithin n d.params := by
    intro d hd
    apply defaultsWithin_of_subset
    intro p hp
    exact List.mem_append_right params (List.mem_flatMap.2 ⟨d, hd, hp⟩)
  have hvalue := height_typeValue_le hcatalog depth
  have hobject := height_objectValue_le hparams hvalue
  unfold synthesize payload
  dsimp only
  split_ifs
  · rw [Json.height_arr_singleton]
    omega
  · omega
  · cases params with
    | nil =>
      rw [height_dummyValue]
      exact Nat.zero_le _
    | cons p ps =>
      have hfirst := height_paramValue_le (hparams p (by simp)) hvalue
      dsimp only
      omega

/-- A parameter that is repeated, of the type that has it as its own item. -/
def nestedItem : Param := { typeId := some 1, isArray := true }

/-- Lists of lists of itself. -/
def nestedList : DataType := { id := 1, format := Format.array, params := [nestedItem] }

theorem paramValue_nestedItem (value : DataType → Sample) :
    (paramValue value [nestedList] nestedItem).1 = .arr [(value nestedList).1] := by
  have htype : nestedItem.type? [nestedList] = some nestedList := rfl
  rw [paramValue_eq, singleValue_of_type rfl htype]
  rfl

theorem height_nestedList (levels : Nat) :
    (typeValue [nestedList] levels nestedList).1.height = 2 * levels := by
  induction levels with
  | zero => rfl
  | succ levels ih =>
    rw [typeValue_of_array rfl]
    change (Json.arr [(paramValue _ _ nestedItem).1]).height = _
    rw [paramValue_nestedItem, Json.height_arr_singleton, Json.height_arr_singleton, ih]
    omega

/-- The bound is reached at every depth. -/
theorem height_synthesize_nestedItem (depth : Nat) :
    (synthesize depth Format.array [nestedItem] [nestedList]).json.height =
      2 * depth + 3 + defaultHeight [nestedItem] [nestedList] := by
  have hdefaults : defaultHeight [nestedItem] [nestedList] = 0 := by
    simp [defaultHeight, nestedItem, nestedList, Json.heightItems]
  have hobject (v : Json) : (Json.obj [("", v)]).height = v.height + 1 := by
    simp [Json.height, Json.heightMembers]
  have hpayload : (synthesize depth Format.array [nestedItem] [nestedList]).json =
      .arr [.obj [("", (paramValue (typeValue [nestedList] depth) [nestedList] nestedItem).1)]] :=
    rfl
  rw [hdefaults, hpayload, Json.height_arr_singleton, hobject, paramValue_nestedItem,
    Json.height_arr_singleton, height_nestedList]

end Mock

end Scaffold

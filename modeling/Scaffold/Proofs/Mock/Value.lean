import Mathlib
import Scaffold.Proofs.Json.Lookup
import Scaffold.Proofs.Spec.Resolution

/-!
# Values of parameters

How the value of a parameter, of a list of parameters and of a data type is put together. An
object is filled parameter by parameter: each name of the list is in it once, with the value of
the last parameter of that name, and the problems of all of them are told one after the other.
-/

namespace Scaffold

/-! ## Members inserted in turn -/

namespace Members

variable {key : String} {ms : Members}

theorem insertAll_append (ms : Members) (as bs : List (String × Json)) :
    insertAll ms (as ++ bs) = insertAll (insertAll ms as) bs := by
  induction as generalizing ms with
  | nil => rfl
  | cons a as ih => exact ih (ms.insert a.1 a.2)

theorem find?_insertAll_of_not_mem {entries : List (String × Json)}
    (h : key ∉ entries.map (·.1)) : find? key (insertAll ms entries) = find? key ms := by
  induction entries generalizing ms with
  | nil => rfl
  | cons e entries ih =>
    obtain ⟨hfirst, hrest⟩ : key ≠ e.1 ∧ key ∉ entries.map (·.1) := by simpa using h
    rw [insertAll, ih hrest, find?_insert, if_neg (Ne.symm hfirst)]

theorem find?_insertAll_of_last {before after : List (String × Json)} {v : Json}
    (h : key ∉ after.map (·.1)) :
    find? key (insertAll ms (before ++ (key, v) :: after)) = some v := by
  rw [insertAll_append, insertAll, find?_insertAll_of_not_mem h, find?_insert, if_pos rfl]

theorem isSome_find?_iff : (find? key ms).isSome = true ↔ key ∈ keys ms := by
  induction ms with
  | nil => simp [find?, keys]
  | cons m ms ih =>
    obtain ⟨k, v⟩ := m
    by_cases hk : k = key
    · simp [find?, keys, hk]
    · rw [find?_cons_of_ne hk, ih]
      simp [keys, Ne.symm hk]

theorem mem_keys_insert {k : String} {v : Json} :
    key ∈ keys (insert k v ms) ↔ k = key ∨ key ∈ keys ms := by
  rw [← isSome_find?_iff, ← isSome_find?_iff, find?_insert]
  by_cases hk : k = key
  · simp [hk]
  · simp [hk]

theorem mem_keys_insertAll {entries : List (String × Json)} :
    key ∈ keys (insertAll ms entries) ↔ key ∈ entries.map (·.1) ∨ key ∈ keys ms := by
  induction entries generalizing ms with
  | nil => simp [insertAll]
  | cons e entries ih =>
    rw [insertAll, ih, mem_keys_insert, List.map_cons, List.mem_cons, eq_comm (a := key)]
    tauto

end Members

namespace Mock

variable {catalog : List DataType} {value : DataType → Sample} {p : Param}

/-! ## Parameters -/

theorem usableDefault?_eq_some {v : Json} (h : usableDefault? p = some v) :
    p.defaultValue = some v := by
  unfold usableDefault? at h
  split at h
  · simp at h
  · simp at h
  · rename_i s hs
    split_ifs at h
    exact hs.trans h
  · rename_i hw
    exact hw.trans h

theorem usableDefault?_eq_none_iff : usableDefault? p = none ↔
    p.defaultValue = none ∨ p.defaultValue = some .null ∨ p.defaultValue = some (.str "") := by
  unfold usableDefault?
  cases p.defaultValue with
  | none => simp
  | some v =>
    cases v with
    | str s => simp
    | _ => simp

theorem singleValue_of_default {v : Json} (h : usableDefault? p = some v) :
    singleValue value catalog p = (coerceDefault v ((p.type? catalog).map (·.format)), []) := by
  unfold singleValue
  rw [h]
  rfl

theorem singleValue_of_type {d : DataType} (hdefault : usableDefault? p = none)
    (htype : p.type? catalog = some d) : singleValue value catalog p = value d := by
  rw [singleValue_of_no_default hdefault, htype]

theorem singleValue_of_untyped (hdefault : usableDefault? p = none)
    (htype : p.type? catalog = none) : singleValue value catalog p = (.null, [untyped p]) := by
  rw [singleValue_of_no_default hdefault, htype]

theorem paramValue_eq : paramValue value catalog p =
    (if p.isArray then .arr [(singleValue value catalog p).1] else (singleValue value catalog p).1,
      (singleValue value catalog p).2) := rfl

theorem Param.mem_of_type? {d : DataType} (h : p.type? catalog = some d) : d ∈ catalog := by
  obtain ⟨before, after, rfl, -⟩ := Param.type?_eq_some_iff.1 h
  simp

/-! ## Lists of parameters -/

/-- Of the parameters with its name this one is the last. -/
def IsLast (ps : List Param) (p : Param) : Prop :=
  ∃ before after, ps = before ++ p :: after ∧ ∀ q ∈ after, q.name ≠ p.name

theorem IsLast.mem {ps : List Param} (h : IsLast ps p) : p ∈ ps := by
  obtain ⟨before, after, rfl, -⟩ := h
  simp

/-- An object that holds for each name the value of the last parameter with it. -/
structure Gathers (ps : List Param) (v : Param → Json) (ms : Members) : Prop where
  sorted : ms.Sorted
  mem_keys_iff : ∀ key, key ∈ ms.keys ↔ ∃ p ∈ ps, p.name = key
  find?_name : ∀ p, IsLast ps p → ms.find? p.name = some (v p)

theorem gathers_ofList (ps : List Param) (v : Param → Json) :
    Gathers ps v (Members.ofList (ps.map fun p => (p.name, v p))) where
  sorted := Members.sorted_ofList _
  mem_keys_iff key := by
    rw [Members.ofList, Members.mem_keys_insertAll]
    simp [Members.keys]
  find?_name p hp := by
    obtain ⟨before, after, rfl, hafter⟩ := hp
    rw [List.map_append, List.map_cons]
    apply Members.find?_insertAll_of_last
    simpa using hafter

theorem paramMembers_cons (ms : Members) (p : Param) (ps : List Param) :
    paramMembers value catalog ms (p :: ps) =
      let rest := paramMembers value catalog (ms.insert p.name (paramValue value catalog p).1) ps
      (rest.1, (paramValue value catalog p).2 ++ rest.2) := rfl

theorem paramMembers_eq (ms : Members) (ps : List Param) : paramMembers value catalog ms ps =
    (ms.insertAll (ps.map fun p => (p.name, (paramValue value catalog p).1)),
      ps.flatMap fun p => (paramValue value catalog p).2) := by
  induction ps generalizing ms with
  | nil => rfl
  | cons p ps ih =>
    rw [paramMembers_cons, ih]
    rfl

theorem objectValue_eq (ps : List Param) : objectValue value catalog ps =
    (.obj (Members.ofList (ps.map fun p => (p.name, (paramValue value catalog p).1))),
      ps.flatMap fun p => (paramValue value catalog p).2) := by
  rw [objectValue, paramMembers_eq]
  rfl

/-! ## Data types -/

variable {d : DataType} {levels : Nat}

theorem isNested_eq_false_iff :
    isNested d = false ↔ d.format ≠ Format.hash ∧ d.format ≠ Format.array := by
  simp [isNested]

theorem isNested_cases (d : DataType) :
    d.format = Format.hash ∨ d.format = Format.array ∨ isNested d = false := by
  by_cases hhash : d.format = Format.hash
  · exact .inl hhash
  · by_cases harray : d.format = Format.array
    · exact .inr (.inl harray)
    · exact .inr (.inr (isNested_eq_false_iff.2 ⟨hhash, harray⟩))

theorem not_hash_of_array (h : d.format = Format.array) : d.format ≠ Format.hash := by
  rw [h]
  decide

theorem typeValue_of_plain (h : isNested d = false) :
    typeValue catalog levels d = (plainValue d, []) := by
  obtain ⟨hhash, harray⟩ := isNested_eq_false_iff.1 h
  cases levels with
  | zero => simp [typeValue, h]
  | succ levels => rw [typeValue, if_neg hhash, if_neg harray]

theorem typeValue_zero_of_nested (h : isNested d = true) : typeValue catalog 0 d = (.null, []) := by
  simp [typeValue, h]

theorem typeValue_of_hash (h : d.format = Format.hash) :
    typeValue catalog (levels + 1) d = objectValue (typeValue catalog levels) catalog d.params := by
  rw [typeValue, if_pos h]

theorem typeValue_of_array (h : d.format = Format.array) :
    typeValue catalog (levels + 1) d =
      match d.params with
      | [] => (.arr [.null], [])
      | p :: _ =>
        (.arr [(paramValue (typeValue catalog levels) catalog p).1],
          (paramValue (typeValue catalog levels) catalog p).2) := by
  rw [typeValue, if_neg (not_hash_of_array h)]
  refine (if_pos h).trans ?_
  cases d.params <;> rfl

end Mock

end Scaffold

import Scaffold.Json.Basic

/-!
# Members in order

The members of an object stay in order under every operation on them, and what is put under a
name or taken from it can be undone.
-/

namespace Scaffold

theorem lt_of_not_lt_of_ne {a b : String} (h : ¬ a < b) (hne : b ≠ a) : b < a :=
  Classical.byContradiction fun h' =>
    hne (String.le_antisymm (String.not_lt.1 h) (String.not_lt.1 h'))

namespace Members

theorem sorted_cons_iff {k : String} {v : Json} {ms : Members} :
    Sorted ((k, v) :: ms) ↔ (∀ m ∈ ms.head?, k < m.1) ∧ Sorted ms := by
  cases ms with
  | nil => simp [Sorted]
  | cons m ms => simp [Sorted]

theorem Sorted.tail {m : String × Json} {ms : Members} (h : Sorted (m :: ms)) : Sorted ms :=
  (sorted_cons_iff.1 h).2

theorem head?_insert {key k : String} {v : Json} {ms : Members} (hk : k < key)
    (h : ∀ m ∈ ms.head?, k < m.1) : ∀ m ∈ (insert key v ms).head?, k < m.1 := by
  cases ms with
  | nil => simpa [insert] using hk
  | cons m ms =>
    unfold insert
    split
    · simpa using hk
    · split
      · simpa using hk
      · simpa using h

theorem Sorted.insert {key : String} {v : Json} {ms : Members} (h : Sorted ms) :
    Sorted (insert key v ms) := by
  induction ms with
  | nil => simp [Members.insert, Sorted]
  | cons m ms ih =>
    unfold Members.insert
    have hm := sorted_cons_iff.1 h
    split
    · rename_i hlt
      exact sorted_cons_iff.2 ⟨by simpa using hlt, h⟩
    · rename_i hnlt
      split
      · rename_i heq
        exact sorted_cons_iff.2 ⟨by simpa [heq] using hm.1, hm.2⟩
      · rename_i hne
        exact sorted_cons_iff.2
          ⟨head?_insert (lt_of_not_lt_of_ne hnlt hne) hm.1, ih hm.2⟩

theorem lt_of_mem {k : String} {v : Json} {ms : Members} (h : Sorted ((k, v) :: ms)) :
    ∀ m ∈ ms, k < m.1 := by
  induction ms generalizing k v with
  | nil => simp
  | cons m ms ih =>
    intro n hn
    have hk := (sorted_cons_iff.1 h).1 m (by simp)
    rcases List.mem_cons.1 hn with rfl | hn
    · exact hk
    · exact String.lt_trans hk (ih h.tail n hn)

theorem head?_erase {key k : String} {ms : Members} (h : ∀ m ∈ ms, k < m.1) :
    ∀ m ∈ (erase key ms).head?, k < m.1 := by
  cases ms with
  | nil => simp [erase]
  | cons m ms =>
    unfold erase
    split
    · intro n hn
      exact h n (List.mem_cons_of_mem _ (List.mem_of_mem_head? hn))
    · intro n hn
      obtain rfl : m = n := by simpa using hn
      exact h m (by simp)

theorem Sorted.erase {key : String} {ms : Members} (h : Sorted ms) : Sorted (erase key ms) := by
  induction ms with
  | nil => exact h
  | cons m ms ih =>
    unfold Members.erase
    split
    · exact h.tail
    · exact sorted_cons_iff.2 ⟨head?_erase (lt_of_mem h), ih h.tail⟩

theorem Sorted.insertAll {ms : Members} (h : Sorted ms) (entries : List (String × Json)) :
    Sorted (insertAll ms entries) := by
  induction entries generalizing ms with
  | nil => exact h
  | cons e es ih => exact ih h.insert

theorem sorted_nil : Sorted [] := by
  simp [Sorted]

theorem sorted_ofList (entries : List (String × Json)) : Sorted (ofList entries) :=
  sorted_nil.insertAll entries

end Members

end Scaffold

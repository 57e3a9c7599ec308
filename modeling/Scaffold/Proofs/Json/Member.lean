import Mathlib
import Scaffold.Json.Members
import Scaffold.Spec.Entity

/-!
# Finding members

What is put under a name is found under it, and nothing else changes. Members that are in order
already are put together as they are.
-/

namespace Scaffold.Members

variable {key : String} {v : Json} {ms ns : Members}

theorem find?_insert (f key : String) (v : Json) (ms : Members) :
    find? f (insert key v ms) = if key = f then some v else find? f ms := by
  induction ms with
  | nil => simp [insert, find?]
  | cons m ms ih =>
    obtain ⟨k, w⟩ := m
    unfold insert
    split
    · simp [find?]
    · split
      · rename_i hk
        subst hk
        by_cases hf : k = f
        · simp [find?, hf]
        · simp [find?, hf]
      · rename_i hk
        by_cases hf : k = f
        · have hkey : key ≠ f := fun heq => hk (hf.trans heq.symm)
          simp [find?, hf, hkey]
        · simp [find?, hf, ih]

theorem find?_insertSome (f key : String) (value : Option Json) (ms : Members) :
    find? f (insertSome key value ms) = if key = f then value.or (find? f ms) else find? f ms := by
  cases value with
  | none => simp [insertSome]
  | some v => simp [insertSome, find?_insert]

/-! ## Members in order -/

theorem insert_of_forall_lt (h : ∀ m ∈ ms, m.1 < key) : insert key v ms = ms ++ [(key, v)] := by
  induction ms with
  | nil => rfl
  | cons m ms ih =>
    have hm := h m (by simp)
    have hless : ¬ key < m.1 := fun hlt => String.lt_irrefl _ (String.lt_trans hm hlt)
    have hne : m.1 ≠ key := fun heq => String.lt_irrefl _ (heq ▸ hm)
    rw [insert, if_neg hless, if_neg hne, ih fun n hn => h n (List.mem_cons_of_mem m hn),
      List.cons_append]

theorem Sorted.lt_of_mem_left {m : String × Json} (h : Sorted (ms ++ m :: ns)) :
    ∀ n ∈ ms, n.1 < m.1 := by
  induction ms with
  | nil => simp
  | cons n ms ih =>
    intro n' hn'
    rcases List.mem_cons.1 hn' with rfl | hn'
    · exact lt_of_mem h m (by simp)
    · exact ih h.tail n' hn'

theorem insertAll_of_sorted (h : Sorted (ms ++ ns)) : insertAll ms ns = ms ++ ns := by
  induction ns generalizing ms with
  | nil => simp [insertAll]
  | cons n ns ih =>
    rw [insertAll, insert_of_forall_lt h.lt_of_mem_left]
    rw [ih]
    · simp
    · simpa using h

theorem ofList_of_sorted (h : Sorted ms) : ofList ms = ms := by
  have hall := insertAll_of_sorted (show Sorted ([] ++ ms) from h)
  rwa [List.nil_append] at hall

theorem sorted_iff_isChain (ms : Members) : Sorted ms ↔ (keys ms).IsChain (· < ·) := by
  induction ms using Sorted.induct with
  | case1 => simp [Sorted, keys]
  | case2 => simp [Sorted, keys]
  | case3 k v k' v' rest ih =>
    rw [Sorted, ih]
    simp [keys]

theorem Sorted.of_keys (h : Sorted ms) (hkeys : keys ns = keys ms) : Sorted ns := by
  rw [sorted_iff_isChain] at h ⊢
  rwa [hkeys]

end Scaffold.Members

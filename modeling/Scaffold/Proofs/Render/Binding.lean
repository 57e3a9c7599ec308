import Mathlib
import Scaffold.Proofs.Json.Member
import Scaffold.Render.Context

/-!
# Bindings are undone

What a name held before a binding is put back when the binding is undone, and a name that held
nothing is taken away again: the context is then the one from before. While the binding lasts, the
entities that sources expand over are the same.
-/

namespace Scaffold

namespace Members

theorem find?_eq_none_of_lt {key : String} {ms : Members} (h : ∀ m ∈ ms, key < m.1) :
    find? key ms = none := by
  induction ms with
  | nil => rfl
  | cons m ms ih =>
    have hne : m.1 ≠ key := fun heq => String.lt_irrefl _ (heq ▸ h m (by simp))
    rw [find?, if_neg hne]
    exact ih fun n hn => h n (List.mem_cons_of_mem m hn)

theorem insert_insert {key : String} {v e : Json} {ms : Members} (hs : Sorted ms)
    (h : find? key ms = some v) : insert key v (insert key e ms) = ms := by
  induction ms with
  | nil => simp [find?] at h
  | cons m ms ih =>
    obtain ⟨k, w⟩ := m
    by_cases hlt : key < k
    · have hall : ∀ n ∈ (k, w) :: ms, key < n.1 := by
        intro n hn
        rcases List.mem_cons.1 hn with rfl | hn
        · exact hlt
        · exact String.lt_trans hlt (lt_of_mem hs n hn)
      rw [find?_eq_none_of_lt hall] at h
      simp at h
    · by_cases hk : k = key
      · subst hk
        obtain rfl : w = v := by simpa [find?] using h
        simp [insert]
      · have hrest : find? key ms = some v := by simpa [find?, hk] using h
        simp [insert, hlt, hk, ih hs.tail hrest]

theorem erase_insert {key : String} {e : Json} {ms : Members} (h : find? key ms = none) :
    erase key (insert key e ms) = ms := by
  induction ms with
  | nil => simp [insert, erase]
  | cons m ms ih =>
    obtain ⟨k, w⟩ := m
    by_cases hk : k = key
    · simp [find?, hk] at h
    · have hrest : find? key ms = none := by simpa [find?, hk] using h
      by_cases hlt : key < k
      · simp [insert, erase, hlt]
      · simp [insert, erase, hlt, hk, ih hrest]

end Members

namespace RenderContext

@[simp] theorem bind_fst (key : String) (e : Json) (c : RenderContext) :
    (c.bind key e).1 = c.get? key := rfl

@[simp] theorem bind_snd (key : String) (e : Json) (c : RenderContext) :
    (c.bind key e).2 = c.insert key e := rfl

theorem unbind_insert (key : String) (e : Json) (c : RenderContext) :
    (c.insert key e).unbind key (c.get? key) = c := by
  obtain ⟨ms, hs⟩ := c
  cases hprevious : Members.find? key ms with
  | none => simp [unbind, get?, insert, erase, hprevious, Members.erase_insert hprevious]
  | some v => simp [unbind, get?, insert, hprevious, Members.insert_insert hs hprevious]

theorem get?_insert_of_ne {key other : String} (h : other ≠ key) (v : Json) (c : RenderContext) :
    (c.insert key v).get? other = c.get? other := by
  rw [get?, insert, Members.find?_insert, if_neg h.symm, get?]

theorem entities_insert {key : String} (hds : "ds" ≠ key) (henums : "datatypeEnums" ≠ key)
    (v : Json) (c : RenderContext) (source : DataSource) (enumsOnly : Bool) :
    (c.insert key v).entities source enumsOnly = c.entities source enumsOnly := by
  simp only [entities_eq, get?_insert_of_ne hds, get?_insert_of_ne henums]

end RenderContext

end Scaffold

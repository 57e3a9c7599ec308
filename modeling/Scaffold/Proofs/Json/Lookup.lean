import Mathlib
import Scaffold.Proofs.Json.Member
import Scaffold.Proofs.Render.Binding
import Scaffold.Spec.Shape

/-!
# Members by what is found

Members in order are determined by what is found in them under each name: to compare two of
them, whole or up to a relation of their values, it is enough to look up every name in both.
-/

namespace Scaffold.Members

variable {key : String} {v : Json} {ms ns : Members}

theorem find?_cons_of_ne {k : String} (h : k ≠ key) : find? key ((k, v) :: ms) = find? key ms := by
  rw [find?, if_neg h]

@[simp] theorem find?_cons_self : find? key ((key, v) :: ms) = some v := by
  simp [find?]

theorem mem_of_find? (h : find? key ms = some v) : (key, v) ∈ ms := by
  induction ms with
  | nil => simp [find?] at h
  | cons m ms ih =>
    obtain ⟨k, w⟩ := m
    by_cases hk : k = key
    · obtain rfl := hk
      rw [find?_cons_self] at h
      obtain rfl := Option.some.inj h
      simp
    · rw [find?_cons_of_ne hk] at h
      exact List.mem_cons_of_mem _ (ih h)

theorem find?_cons_eq_none_of_lt {m : String × Json} (hs : Sorted (m :: ms)) (h : key < m.1) :
    find? key (m :: ms) = none :=
  find?_eq_none_of_lt fun n hn => by
    rcases List.mem_cons.1 hn with rfl | hn
    · exact h
    · exact h.trans (lt_of_mem hs n hn)

/-! ## Two objects -/

theorem rel_find?_of_forall₂ {R : Json → Json → Prop}
    (h : List.Forall₂ (fun a b => a.1 = b.1 ∧ R a.2 b.2) ms ns) (key : String) :
    Option.Rel R (find? key ms) (find? key ns) := by
  induction h with
  | nil => exact .none
  | @cons a b ms ns hab _ ih =>
    obtain ⟨k, v⟩ := a
    obtain ⟨l, w⟩ := b
    obtain ⟨rfl, hR⟩ : k = l ∧ R v w := hab
    by_cases hk : k = key
    · obtain rfl := hk
      rw [find?_cons_self, find?_cons_self]
      exact .some hR
    · rwa [find?_cons_of_ne hk, find?_cons_of_ne hk]

/-- The first names agree, since the lesser one would be missing on the other side. -/
theorem forall₂_of_rel_find? {R : Json → Json → Prop} (hm : Sorted ms) (hn : Sorted ns)
    (h : ∀ key, Option.Rel R (find? key ms) (find? key ns)) :
    List.Forall₂ (fun a b => a.1 = b.1 ∧ R a.2 b.2) ms ns := by
  induction ms generalizing ns with
  | nil =>
    cases ns with
    | nil => exact .nil
    | cons n ns => simpa [find?] using h n.1
  | cons m ms ih =>
    obtain ⟨k, v⟩ := m
    cases ns with
    | nil => simpa [find?] using h k
    | cons n ns =>
      obtain ⟨l, w⟩ := n
      have hfirst : k = l := by
        rcases lt_trichotomy k l with hkl | hkl | hkl
        · simpa [find?_cons_eq_none_of_lt hn hkl] using h k
        · exact hkl
        · simpa [find?_cons_eq_none_of_lt hm hkl] using h l
      obtain rfl := hfirst
      have hv : R v w := by simpa using h k
      refine .cons ⟨rfl, hv⟩ (ih hm.tail hn.tail fun key => ?_)
      by_cases hkey : k = key
      · obtain rfl := hkey
        rw [find?_eq_none_of_lt (lt_of_mem hm), find?_eq_none_of_lt (lt_of_mem hn)]
        exact .none
      · have hrest := h key
        rwa [find?_cons_of_ne hkey, find?_cons_of_ne hkey] at hrest

theorem ext_of_sorted (hm : Sorted ms) (hn : Sorted ns) (h : ∀ key, find? key ms = find? key ns) :
    ms = ns := by
  have hall := forall₂_of_rel_find? (R := Eq) hm hn fun key => by
    rw [h key]
    cases find? key ns with
    | none => exact .none
    | some w => exact .some rfl
  exact List.forall₂_eq_eq_eq ▸ hall.imp fun a b hab => Prod.ext hab.1 hab.2

/-! ## Members put together -/

theorem find?_insertAll (hn : Sorted ns) :
    find? key (insertAll ms ns) = (find? key ns).or (find? key ms) := by
  induction ns generalizing ms with
  | nil => simp [insertAll, find?]
  | cons n ns ih =>
    obtain ⟨k, w⟩ := n
    rw [insertAll, ih hn.tail, find?_insert]
    by_cases hk : k = key
    · obtain rfl := hk
      simp [find?_eq_none_of_lt (lt_of_mem hn)]
    · simp [hk, find?_cons_of_ne]

/-- The members that are present, put together. -/
def ofSome (known : List (String × Option Json)) : Members :=
  known.foldl (fun ms m => ms.insertSome m.1 m.2) []

section OfSome

variable {known : List (String × Option Json)}

theorem Sorted.insertSome (h : Sorted ms) (value : Option Json) :
    Sorted (ms.insertSome key value) := by
  cases value with
  | none => exact h
  | some v => exact h.insert

theorem ofList_eq_ofSome (entries : List (String × Json)) :
    ofList entries = ofSome (entries.map fun e => (e.1, some e.2)) := by
  have hfold (ms : Members) : insertAll ms entries =
      (entries.map fun e => (e.1, some e.2)).foldl (fun ms m => ms.insertSome m.1 m.2) ms := by
    induction entries generalizing ms with
    | nil => rfl
    | cons e entries ih => exact ih (ms.insert e.1 e.2)
  exact hfold []

theorem sorted_ofSome : Sorted (ofSome known) := by
  have hfold (es : List (String × Option Json)) {ms : Members} (h : Sorted ms) :
      Sorted (es.foldl (fun ms m => ms.insertSome m.1 m.2) ms) := by
    induction es generalizing ms with
    | nil => exact h
    | cons e es ih => exact ih (h.insertSome e.2)
  exact hfold known sorted_nil

theorem lookup_eq_none (h : key ∉ known.map (·.1)) : known.lookup key = none := by
  rw [List.lookup_eq_none_iff]
  intro m hm
  have hne : key ≠ m.1 := fun heq => h (heq ▸ List.mem_map_of_mem hm)
  simpa using hne

theorem lookup_of_undeclared {declared : List String} (hnames : ∀ m ∈ known, m.1 ∈ declared)
    (hkey : key ∉ declared) : known.lookup key = none := by
  apply lookup_eq_none
  intro hmem
  obtain ⟨m, hm, rfl⟩ := List.mem_map.1 hmem
  exact hkey (hnames m hm)

theorem find?_foldl_insertSome (h : (known.map (·.1)).Nodup) (ms : Members) :
    find? key (known.foldl (fun ms m => ms.insertSome m.1 m.2) ms) =
      (known.lookup key).join.or (find? key ms) := by
  induction known generalizing ms with
  | nil => simp
  | cons m known ih =>
    obtain ⟨k, o⟩ := m
    obtain ⟨hfresh, hrest⟩ := List.nodup_cons.1 h
    rw [List.foldl_cons, ih hrest, find?_insertSome, List.lookup_cons]
    by_cases hk : k = key
    · obtain rfl := hk
      simp [lookup_eq_none hfresh]
    · have hne : (key == k) = false := by simpa using Ne.symm hk
      simp [hk, hne]

theorem find?_ofSome (h : (known.map (·.1)).Nodup) :
    find? key (ofSome known) = (known.lookup key).join := by
  rw [ofSome, find?_foldl_insertSome h, find?, Option.or_none]

theorem find?_together (h : (known.map (·.1)).Nodup) (hsorted : ms.Sorted) :
    find? key (insertAll (ofSome known) ms) = (find? key ms).or (known.lookup key).join := by
  rw [find?_insertAll hsorted, find?_ofSome h]

theorem lookup_map_some (entries : List (String × Json)) :
    ((entries.map fun e => (e.1, some e.2)).lookup key).join = entries.lookup key := by
  induction entries with
  | nil => rfl
  | cons e entries ih =>
    rw [List.map_cons, List.lookup_cons, List.lookup_cons]
    cases key == e.1
    · exact ih
    · rfl

theorem find?_ofList {entries : List (String × Json)} (h : (entries.map (·.1)).Nodup) :
    find? key (ofList entries) = entries.lookup key := by
  have hnodup : ((entries.map fun e => (e.1, some e.2)).map (·.1)).Nodup := by
    simpa [Function.comp_def] using h
  rw [ofList_eq_ofSome, find?_ofSome hnodup, lookup_map_some]

end OfSome

/-! ## Members without the declared ones -/

variable {declared : List String}

theorem sorted_iff_pairwise : Sorted ms ↔ ms.Pairwise fun a b => a.1 < b.1 := by
  rw [sorted_iff_isChain, List.isChain_iff_pairwise, keys, List.pairwise_map]

theorem Sorted.undeclared (h : Sorted ms) : Sorted (undeclared declared ms) :=
  sorted_iff_pairwise.2 ((sorted_iff_pairwise.1 h).filter _)

theorem find?_undeclared :
    find? key (undeclared declared ms) = if key ∈ declared then none else find? key ms := by
  induction ms with
  | nil => simp [undeclared, find?]
  | cons m ms ih =>
    obtain ⟨k, v⟩ := m
    unfold undeclared at ih ⊢
    by_cases hk : k = key
    · obtain rfl := hk
      by_cases hdeclared : k ∈ declared
      · simpa [hdeclared] using ih
      · simp [hdeclared]
    · by_cases hdeclared : k ∈ declared
      · simpa [hdeclared, find?_cons_of_ne hk] using ih
      · simpa [hdeclared, find?_cons_of_ne hk] using ih

end Scaffold.Members

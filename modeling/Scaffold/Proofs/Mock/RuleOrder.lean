import Mathlib
import Scaffold.Mock.Rules

/-!
# The order of routing rules

Rules are sorted by a stable sort in descending order of their paths, the rules of pages first.
Sorting loses and adds no rule, and rules of one path stand as they were given. Paths are compared
by the numbers of their characters, so a path comes after every path that goes on from it: a server
that takes the first rule that fits takes the most specific one.
-/

namespace Scaffold

/-- The numbers of the characters of a text, by which texts are ordered. -/
def codePoints (s : String) : List Nat :=
  s.toList.map Char.toNat

theorem map_toNat_lt_iff (cs ds : List Char) :
    cs.map Char.toNat < ds.map Char.toNat ↔ cs < ds := by
  have hchar (c d : Char) : c.toNat < d.toNat ↔ c < d := Iff.rfl
  induction cs generalizing ds with
  | nil => cases ds <;> simp
  | cons c cs ih =>
    cases ds with
    | nil => simp
    | cons d ds =>
      rw [List.map_cons, List.map_cons, List.cons_lt_cons_iff, List.cons_lt_cons_iff]
      exact or_congr (hchar c d) (and_congr Char.toNat_inj (ih ds))

theorem codePoints_le_iff (s t : String) : codePoints s ≤ codePoints t ↔ s ≤ t := by
  rw [String.le_iff_toList_le, ← not_lt, ← not_lt]
  exact not_congr (map_toNat_lt_iff _ _)

theorem lt_of_prefix {s t : String} (h : s.toList <+: t.toList) (hne : s ≠ t) : s < t := by
  obtain ⟨rest, hrest⟩ := h
  have hle : ¬ t.toList < s.toList := by
    rw [← hrest]
    exact List.IsPrefix.le ⟨rest, rfl⟩
  have hle : s ≤ t := String.le_iff_toList_le.2 (not_lt.1 hle)
  exact lt_of_le_of_ne hle hne

namespace ServerRule

variable (views : List ViewRule) (mocks : List MockRule)

theorem before_iff {a b : ServerRule} : before a b = true ↔ b.path ≤ a.path := by
  rw [before, decide_eq_true_iff]

theorem before_trans (a b c : ServerRule) (hab : before a b = true) (hbc : before b c = true) :
    before a c = true := by
  rw [before_iff] at *
  exact hbc.trans hab

theorem before_total (a b : ServerRule) : (before a b || before b a) = true := by
  rw [Bool.or_eq_true, before_iff, before_iff]
  exact le_total b.path a.path

theorem sorted_perm : (sorted views mocks).Perm (views.map view ++ mocks.map mock) :=
  List.mergeSort_perm _ _

theorem sorted_descending :
    (sorted views mocks).Pairwise fun a b => b.path ≤ a.path := by
  apply (List.pairwise_mergeSort before_trans before_total _).imp
  exact before_iff.1

/-- Rules that may stand in either order keep the order in which they were given. -/
theorem filter_path_sorted (p : String) :
    (sorted views mocks).filter (·.path = p) =
      (views.filter (·.path = p)).map view ++ (mocks.filter (·.path = p)).map mock := by
  let given := views.map view ++ mocks.map mock
  have hties : (given.filter (·.path = p)).Pairwise fun a b => before a b = true := by
    apply List.pairwise_of_forall_mem_list
    intro a ha b hb
    have hap : a.path = p := by simpa using (List.mem_filter.1 ha).2
    have hbp : b.path = p := by simpa using (List.mem_filter.1 hb).2
    rw [before_iff, hap, hbp]
  -- A stable sort keeps each sublist that is in order; here it is all that has this path.
  have hsub : (given.filter (·.path = p)).Sublist (sorted views mocks) :=
    List.sublist_mergeSort before_trans before_total hties List.filter_sublist
  have hkept : (given.filter (·.path = p)).Sublist ((sorted views mocks).filter (·.path = p)) := by
    simpa using hsub.filter (·.path = p)
  have hlength := ((sorted_perm views mocks).filter (·.path = p)).length_eq
  rw [← hkept.eq_of_length hlength.symm, List.filter_append, List.filter_map, List.filter_map]
  rfl

theorem index_lt_of_prefix {i j : Nat} (hi : i < (sorted views mocks).length)
    (hj : j < (sorted views mocks).length)
    (h : (sorted views mocks)[j].path.toList <+: (sorted views mocks)[i].path.toList)
    (hne : (sorted views mocks)[j].path ≠ (sorted views mocks)[i].path) : i < j := by
  have hlt := lt_of_prefix h hne
  by_contra hji
  rcases Nat.lt_or_eq_of_le (Nat.le_of_not_lt hji) with hji | rfl
  · have hle := List.pairwise_iff_getElem.1 (sorted_descending views mocks) j i hj hi hji
    exact absurd hlt (not_lt.2 hle)
  · exact hne rfl

/-- Sorted rules are the given ones, descending by the numbers of the characters of their paths;
under each path stand the rules of pages and then those of interfaces, as they were given; and
a rule whose path goes on from the path of another one stands before it. -/
theorem sorted_stable_descending :
    (sorted views mocks).Perm (views.map view ++ mocks.map mock) ∧
      (sorted views mocks).Pairwise (fun a b => codePoints b.path ≤ codePoints a.path) ∧
      (∀ p : String, (sorted views mocks).filter (·.path = p) =
        (views.filter (·.path = p)).map view ++ (mocks.filter (·.path = p)).map mock) ∧
      ∀ (i j : Nat) (hi : i < (sorted views mocks).length) (hj : j < (sorted views mocks).length),
        (sorted views mocks)[j].path.toList <+: (sorted views mocks)[i].path.toList →
        (sorted views mocks)[j].path ≠ (sorted views mocks)[i].path → i < j := by
  refine ⟨sorted_perm views mocks, ?_, filter_path_sorted views mocks, ?_⟩
  · apply (sorted_descending views mocks).imp
    intro a b hle
    exact (codePoints_le_iff _ _).2 hle
  · intro i j hi hj hprefix hne
    exact index_lt_of_prefix views mocks hi hj hprefix hne

end ServerRule

end Scaffold

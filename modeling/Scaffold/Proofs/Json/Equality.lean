import Mathlib
import Scaffold.Proofs.Json.Lookup
import Scaffold.Proofs.Json.WellFormed

/-!
# Equal values

Values are equal if they hold the same; only two zeros of different sign are equal and not the
same. Equality is symmetric, and a well-formed value equals itself. Two objects in order are
equal if equal values are found in both under every name.
-/

namespace Scaffold

namespace Double

theorem compare_eq_swap (a b : Int) :
    (some (compare a b) == some Ordering.eq) = (some (compare b a) == some Ordering.eq) := by
  rw [Bool.eq_iff_iff]
  simp only [beq_iff_eq, Option.some.injEq, compare_eq_iff_eq]
  exact eq_comm

theorem sameValue_comm (x y : Double) : x.sameValue y = y.sameValue x := by
  unfold sameValue compare?
  rw [Bool.or_comm x.isNaN, Bool.or_comm x.isInfinite]
  split
  · rfl
  · split
    · exact compare_eq_swap _ _
    · dsimp only
      rw [min_comm]
      exact compare_eq_swap _ _

theorem sameValue_self {x : Double} (h : x.isNaN = false) : x.sameValue x = true := by
  unfold sameValue compare?
  rw [h]
  split
  · simp_all
  · split <;> simp

end Double

namespace Number

theorem same_comm (m n : Number) : m.same n = n.same m := by
  cases m <;> cases n <;> simp [same, Double.sameValue_comm, Bool.beq_comm]

theorem same_self {n : Number} (h : n.IsDefined) : n.same n = true := by
  cases n with
  | int k => simp [same]
  | float x => exact Double.sameValue_self h

end Number

namespace Json

theorem beq_eq_same (v w : Json) : (v == w) = same v w := rfl

@[simp] theorem str_beq_str (s t : String) : (str s == str t) = (s == t) := by
  rw [beq_eq_same, same]

@[simp] theorem bool_beq_bool (a b : Bool) : (bool a == bool b) = (a == b) := by
  rw [beq_eq_same, same]

@[simp] theorem int_beq_int (m n : Int) : (int m == int n) = (m == n) := by
  rw [beq_eq_same, int, int, same, Number.same]

mutual

theorem same_comm : ∀ v w : Json, same v w = same w v
  | .null, w => by cases w <;> simp [same]
  | .bool _, w => by cases w <;> simp [same, Bool.beq_comm]
  | .num m, w => by cases w <;> simp [same, Number.same_comm]
  | .str _, w => by cases w <;> simp [same, Bool.beq_comm]
  | .arr xs, w => by
    cases w with
    | arr ys => simpa [same] using sameItems_comm xs ys
    | _ => simp [same]
  | .obj ms, w => by
    cases w with
    | obj ns => simpa [same] using sameMembers_comm ms ns
    | _ => simp [same]

theorem sameItems_comm : ∀ xs ys : List Json, sameItems xs ys = sameItems ys xs
  | [], ys => by cases ys <;> simp [sameItems]
  | x :: xs, [] => by simp [sameItems]
  | x :: xs, y :: ys => by simp [sameItems, same_comm x y, sameItems_comm xs ys]

theorem sameMembers_comm : ∀ ms ns : List (String × Json), sameMembers ms ns = sameMembers ns ms
  | [], ns => by cases ns <;> simp [sameMembers]
  | (_, _) :: _, [] => by simp [sameMembers]
  | (k, v) :: ms, (l, w) :: ns => by
    simp [sameMembers, same_comm v w, sameMembers_comm ms ns, Bool.beq_comm (a := k)]

end

mutual

theorem same_self : ∀ v : Json, v.WellFormed → same v v = true
  | .null, _ => by simp [same]
  | .bool _, _ => by simp [same]
  | .num _, h => by simpa [same] using Number.same_self h
  | .str _, _ => by simp [same]
  | .arr xs, h => by simpa [same] using sameItems_self xs h
  | .obj ms, h => by simpa [same] using sameMembers_self ms h.2

theorem sameItems_self : ∀ xs : List Json, WellFormedItems xs → sameItems xs xs = true
  | [], _ => by simp [sameItems]
  | x :: xs, h => by simp [sameItems, same_self x h.1, sameItems_self xs h.2]

theorem sameMembers_self :
    ∀ ms : List (String × Json), WellFormedMembers ms → sameMembers ms ms = true
  | [], _ => by simp [sameMembers]
  | (_, v) :: ms, h => by simp [sameMembers, same_self v h.1, sameMembers_self ms h.2]

end

theorem beq_comm (v w : Json) : (v == w) = (w == v) :=
  same_comm v w

theorem beq_self {v : Json} (h : v.WellFormed) : (v == v) = true :=
  same_self v h

theorem sameItems_eq_beq (xs ys : List Json) : sameItems xs ys = (xs == ys) := by
  induction xs generalizing ys with
  | nil => cases ys <;> simp [sameItems]
  | cons x xs ih =>
    cases ys with
    | nil => simp [sameItems]
    | cons y ys => rw [sameItems, ih, List.cons_beq_cons, beq_eq_same]

theorem sameMembers_eq_beq (ms ns : Members) : sameMembers ms ns = (ms == ns) := by
  induction ms generalizing ns with
  | nil => cases ns <;> simp [sameMembers]
  | cons m ms ih =>
    cases ns with
    | nil => simp [sameMembers]
    | cons n ns =>
      rw [sameMembers, ih, List.cons_beq_cons]
      rfl

theorem arr_beq_arr (xs ys : List Json) : (arr xs == arr ys) = (xs == ys) := by
  rw [beq_eq_same, same, sameItems_eq_beq]

theorem obj_beq_obj (ms ns : Members) : (obj ms == obj ns) = (ms == ns) := by
  rw [beq_eq_same, same, sameMembers_eq_beq]

end Json

/-! ## Lists and options -/

section Lists

variable {α β : Type}

theorem forall₂_imp_of_mem {R S : α → β → Prop} {xs : List α} {ys : List β}
    (h : ∀ x ∈ xs, ∀ y ∈ ys, R x y → S x y) (hR : List.Forall₂ R xs ys) :
    List.Forall₂ S xs ys := by
  induction hR with
  | nil => exact .nil
  | @cons x y xs ys hxy _ ih =>
    refine .cons (h x (by simp) y (by simp) hxy) (ih ?_)
    intro a ha b hb
    exact h a (List.mem_cons_of_mem x ha) b (List.mem_cons_of_mem y hb)

variable [BEq α] [BEq β]

theorem list_beq_iff_forall₂ {xs ys : List α} :
    (xs == ys) = true ↔ List.Forall₂ (fun x y => (x == y) = true) xs ys := by
  induction xs generalizing ys with
  | nil => cases ys <;> simp
  | cons x xs ih =>
    cases ys with
    | nil => simp
    | cons y ys => rw [List.cons_beq_cons, Bool.and_eq_true, ih, List.forall₂_cons]

theorem list_beq_comm {xs ys : List α} (h : ∀ x ∈ xs, ∀ y ∈ ys, (x == y) = (y == x)) :
    (xs == ys) = (ys == xs) := by
  rw [Bool.eq_iff_iff, list_beq_iff_forall₂, list_beq_iff_forall₂]
  constructor
  · intro hall
    exact (forall₂_imp_of_mem (fun x hx y hy hxy => (h x hx y hy).symm.trans hxy) hall).flip
  · intro hall
    exact (forall₂_imp_of_mem (fun y hy x hx hyx => (h x hx y hy).trans hyx) hall).flip

theorem list_beq_self {xs : List α} (h : ∀ x ∈ xs, (x == x) = true) : (xs == xs) = true := by
  rw [list_beq_iff_forall₂, List.forall₂_same]
  exact h

omit [BEq α] in
theorem map_beq_map_iff_forall₂ {f : α → β} {xs ys : List α} :
    (xs.map f == ys.map f) = true ↔ List.Forall₂ (fun x y => (f x == f y) = true) xs ys := by
  rw [list_beq_iff_forall₂, List.forall₂_map_left_iff, List.forall₂_map_right_iff]

theorem map_beq_map_of_beq {f : α → β} {xs ys : List α}
    (h : ∀ x ∈ xs, ∀ y ∈ ys, (x == y) = true → (f x == f y) = true) (heq : (xs == ys) = true) :
    (xs.map f == ys.map f) = true := by
  rw [list_beq_iff_forall₂] at heq
  exact map_beq_map_iff_forall₂.2 (forall₂_imp_of_mem h heq)

theorem map_beq_map {f : α → β} {xs ys : List α}
    (h : ∀ x ∈ xs, ∀ y ∈ ys, (f x == f y) = (x == y)) : (xs.map f == ys.map f) = (xs == ys) := by
  rw [Bool.eq_iff_iff]
  constructor
  · rw [map_beq_map_iff_forall₂, list_beq_iff_forall₂]
    exact forall₂_imp_of_mem fun x hx y hy hxy => (h x hx y hy).symm.trans hxy
  · exact map_beq_map_of_beq fun x hx y hy hxy => (h x hx y hy).trans hxy

theorem option_map_beq_map {f : α → β} (h : ∀ x y, (f x == f y) = (x == y)) (a b : Option α) :
    (a.map f == b.map f) = (a == b) := by
  cases a <;> cases b <;> simp [h]

end Lists

/-! ## Members -/

namespace Members

variable {ms ns : Members}

theorem beq_comm (ms ns : Members) : (ms == ns) = (ns == ms) := by
  rw [← Json.obj_beq_obj, Json.beq_comm, Json.obj_beq_obj]

theorem beq_self (h : ∀ m ∈ ms, m.2.WellFormed) : (ms == ms) = true := by
  rw [← Json.sameMembers_eq_beq]
  exact Json.sameMembers_self ms (Json.wellFormedMembers_iff.2 h)

theorem beq_iff_forall₂ :
    (ms == ns) = true ↔ List.Forall₂ (fun a b => a.1 = b.1 ∧ (a.2 == b.2) = true) ms ns := by
  rw [list_beq_iff_forall₂]
  have hpair (a b : String × Json) : (a == b) = true ↔ a.1 = b.1 ∧ (a.2 == b.2) = true := by
    change (a.1 == b.1 && a.2 == b.2) = true ↔ _
    rw [Bool.and_eq_true, beq_iff_eq]
  simp only [hpair]

theorem rel_beq_iff {a b : Option Json} :
    Option.Rel (fun v w => (v == w) = true) a b ↔ (a == b) = true := by
  cases a <;> cases b <;> simp

theorem beq_iff_find? (hm : Sorted ms) (hn : Sorted ns) :
    (ms == ns) = true ↔ ∀ key, (find? key ms == find? key ns) = true := by
  rw [beq_iff_forall₂]
  constructor
  · intro h key
    exact rel_beq_iff.1 (rel_find?_of_forall₂ h key)
  · intro h
    exact forall₂_of_rel_find? hm hn fun key => rel_beq_iff.2 (h key)

/-! ## Known members and others -/

section Known

variable {known known' : List (String × Option Json)} {extra extra' : Members}

theorem known_beq_iff_lookup (hkeys : known.map (·.1) = known'.map (·.1))
    (hnodup : (known.map (·.1)).Nodup) :
    (known == known') = true ↔
      ∀ key, ((known.lookup key).join == (known'.lookup key).join) = true := by
  induction known generalizing known' with
  | nil =>
    obtain rfl : known' = [] := by simpa using hkeys.symm
    simp
  | cons m known ih =>
    obtain ⟨k, o⟩ := m
    cases known' with
    | nil => simp at hkeys
    | cons m' known' =>
      obtain ⟨l, o'⟩ := m'
      obtain ⟨rfl, htails⟩ : k = l ∧ known.map (·.1) = known'.map (·.1) := by simpa using hkeys
      obtain ⟨hfresh, hrest⟩ := List.nodup_cons.1 hnodup
      have hfresh' : k ∉ known'.map (·.1) := htails ▸ hfresh
      have hhead : ((k, o) == (k, o')) = (o == o') := by
        change (k == k && o == o') = (o == o')
        simp
      rw [List.cons_beq_cons, hhead, Bool.and_eq_true, ih htails hrest]
      constructor
      · rintro ⟨ho, hall⟩ key
        by_cases hkey : key = k
        · simpa [hkey, List.lookup_cons] using ho
        · simpa [List.lookup_cons, beq_false_of_ne hkey] using hall key
      · intro h
        refine ⟨by simpa [List.lookup_cons] using h k, fun key => ?_⟩
        by_cases hkey : key = k
        · simp [hkey, lookup_eq_none hfresh, lookup_eq_none hfresh']
        · simpa [List.lookup_cons, beq_false_of_ne hkey] using h key

end Known

end Members

end Scaffold

import Mathlib
import Scaffold.Output.Directive
import Scaffold.Proofs.Text.Segment

/-!
# Markers in texts

Markers are cut out of a text from left to right, a whole marker at once. So two texts that are put
together are cut each for itself, unless a marker stands across the place where they meet. No marker
holds a slash or a dot: paths are cut segment by segment, and in front of an ending.
-/

namespace Scaffold.WriteDirective

def markers : List (List Char) :=
  ["!!w".toList, "!!W".toList, "!!nw".toList, "!!nW".toList]

def StartsMarked (cs : List Char) : Prop :=
  ∃ m ∈ markers, m <+: cs

def ofMarker (m : List Char) : WriteDirective :=
  if 'n' ∈ m then keep else overwrite

variable {c : Char} {as bs cs m : List Char}

/-! ## Markers in front -/

theorem eq_bangs_of_marker (h : m ∈ markers) : m = '!' :: '!' :: m.drop 2 := by
  have hall : ∀ m ∈ markers, m = '!' :: '!' :: m.drop 2 := by decide
  exact hall m h

theorem ne_nil_of_marker (h : m ∈ markers) : m ≠ [] := by
  rw [eq_bangs_of_marker h]
  exact List.cons_ne_nil _ _

theorem marker?_append (h : m ∈ markers) (rest : List Char) :
    marker? (m ++ rest) = some (ofMarker m, rest) := by
  simp only [markers, List.mem_cons, List.not_mem_nil, or_false] at h
  rcases h with rfl | rfl | rfl | rfl <;> rfl

theorem marker?_eq_none (h : ¬StartsMarked cs) : marker? cs = none := by
  unfold marker?
  split
  · exact absurd ⟨"!!w".toList, by simp [markers], _, rfl⟩ h
  · exact absurd ⟨"!!W".toList, by simp [markers], _, rfl⟩ h
  · exact absurd ⟨"!!nw".toList, by simp [markers], _, rfl⟩ h
  · exact absurd ⟨"!!nW".toList, by simp [markers], _, rfl⟩ h
  · rfl

theorem marker?_cons_of_ne (h : c ≠ '!') (cs : List Char) : marker? (c :: cs) = none := by
  apply marker?_eq_none
  rintro ⟨m, hm, hhead⟩
  rw [eq_bangs_of_marker hm] at hhead
  exact h (List.cons_prefix_cons.1 hhead).1.symm

theorem first?_append_marker (h : m ∈ markers) (rest : List Char) :
    first? (m ++ rest) = some (ofMarker m) := by
  simp only [markers, List.mem_cons, List.not_mem_nil, or_false] at h
  rcases h with rfl | rfl | rfl | rfl <;> rfl

theorem first?_cons_of_none (h : marker? (c :: cs) = none) : first? (c :: cs) = first? cs := by
  rw [first?, h]

theorem withoutMarkers_marker_append (h : m ∈ markers) (rest : List Char) :
    withoutMarkers (m ++ rest) = withoutMarkers rest := by
  simp only [markers, List.mem_cons, List.not_mem_nil, or_false] at h
  rcases h with rfl | rfl | rfl | rfl <;> rfl

theorem withoutMarkers_cons_of_none (h : marker? (c :: cs) = none) :
    withoutMarkers (c :: cs) = c :: withoutMarkers cs := by
  rw [withoutMarkers] <;> rintro rest rfl rfl <;> simp [marker?] at h

/-- Cutting takes a whole marker at once, and any other letter by itself. -/
@[elab_as_elim]
theorem cut_induction {motive : List Char → Prop} (nil : motive [])
    (marker : ∀ m ∈ markers, ∀ rest, motive rest → motive (m ++ rest))
    (letter : ∀ c rest, ¬StartsMarked (c :: rest) → motive rest → motive (c :: rest))
    (cs : List Char) : motive cs := by
  induction hn : cs.length using Nat.strongRecOn generalizing cs with
  | ind n ih =>
    rcases cs with _ | ⟨c, rest⟩
    · exact nil
    · by_cases hmarked : StartsMarked (c :: rest)
      · obtain ⟨m, hm, rest', hrest⟩ := hmarked
        have hpos : 0 < m.length := List.length_pos_of_ne_nil (ne_nil_of_marker hm)
        rw [← hrest, List.length_append] at hn
        rw [← hrest]
        exact marker m hm rest' (ih _ (by omega) rest' rfl)
      · rw [List.length_cons] at hn
        exact letter c rest hmarked (ih _ (by omega) rest rfl)

/-! ## Where texts meet -/

/-- No marker stands across the place where the texts meet. -/
def Apart (as bs : List Char) : Prop :=
  ∀ p q, p ≠ [] → q ≠ [] → p ++ q ∈ markers → p <:+ as → ¬q <+: bs

theorem Apart.of_suffix (h : Apart as bs) (hsuffix : cs <:+ as) : Apart cs bs :=
  fun p q hp hq hpq hcs => h p q hp hq hpq (hcs.trans hsuffix)

theorem prefix_append_cases (h : m <+: as ++ bs) :
    m <+: as ∨ ∃ q, q ≠ [] ∧ m = as ++ q ∧ q <+: bs := by
  obtain ⟨rest, hrest⟩ := h
  rcases List.append_eq_append_iff.1 hrest with ⟨as', has, -⟩ | ⟨q, hm, hbs⟩
  · exact .inl ⟨as', has.symm⟩
  · by_cases hq : q = []
    · exact .inl (by simp [hm, hq])
    · exact .inr ⟨q, hq, hm, rest, hbs.symm⟩

theorem Apart.marker?_eq_none (h : Apart (c :: cs) bs) (hnot : ¬StartsMarked (c :: cs)) :
    marker? (c :: (cs ++ bs)) = none := by
  apply WriteDirective.marker?_eq_none
  rw [← List.cons_append]
  rintro ⟨m, hm, hhead⟩
  rcases prefix_append_cases hhead with hfront | ⟨q, hq, rfl, hback⟩
  · exact hnot ⟨m, hm, hfront⟩
  · exact h _ q (List.cons_ne_nil c cs) hq hm (List.suffix_refl _) hback

/-- Texts that meet apart are cut each for itself. -/
theorem withoutMarkers_append_of_apart (h : Apart as bs) :
    withoutMarkers (as ++ bs) = withoutMarkers as ++ withoutMarkers bs := by
  induction as using cut_induction with
  | nil => rfl
  | marker m hm rest ih =>
    rw [List.append_assoc, withoutMarkers_marker_append hm, withoutMarkers_marker_append hm,
      ih (h.of_suffix (List.suffix_append m rest))]
  | letter c rest hnot ih =>
    rw [List.cons_append, withoutMarkers_cons_of_none (h.marker?_eq_none hnot),
      withoutMarkers_cons_of_none (marker?_eq_none hnot),
      ih (h.of_suffix (List.suffix_cons c rest)), List.cons_append]

theorem first?_append_of_apart (h : Apart as bs) :
    first? (as ++ bs) = (first? as).or (first? bs) := by
  induction as using cut_induction with
  | nil => rfl
  | marker m hm rest =>
    rw [List.append_assoc, first?_append_marker hm, first?_append_marker hm, Option.some_or]
  | letter c rest hnot ih =>
    rw [List.cons_append, first?_cons_of_none (h.marker?_eq_none hnot),
      first?_cons_of_none (marker?_eq_none hnot), ih (h.of_suffix (List.suffix_cons c rest))]

/-- A character that is in no marker. -/
def IsForeign (c : Char) : Prop :=
  c ≠ '!' ∧ c ≠ 'w' ∧ c ≠ 'W' ∧ c ≠ 'n'

instance (c : Char) : Decidable (IsForeign c) :=
  inferInstanceAs (Decidable (_ ∧ _))

theorem apart_of_foreign {e : Char} (he : IsForeign e) (as bs : List Char) :
    Apart as (e :: bs) := by
  have hall : ∀ m ∈ markers, m ⊆ ['!', 'w', 'W', 'n'] := by decide
  rintro p q - hq hpq - hhead
  obtain ⟨d, q, rfl⟩ := List.exists_cons_of_ne_nil hq
  obtain ⟨rfl, -⟩ := List.cons_prefix_cons.1 hhead
  have hletter : d ∈ ['!', 'w', 'W', 'n'] := hall _ hpq (by simp)
  simp [he.1, he.2.1, he.2.2.1, he.2.2.2] at hletter

theorem withoutMarkers_append_foreign {e : Char} (he : IsForeign e) (as bs : List Char) :
    withoutMarkers (as ++ e :: bs) = withoutMarkers as ++ e :: withoutMarkers bs := by
  rw [withoutMarkers_append_of_apart (apart_of_foreign he as bs),
    withoutMarkers_cons_of_none (marker?_cons_of_ne he.1 bs)]

theorem first?_append_foreign {e : Char} (he : IsForeign e) (as bs : List Char) :
    first? (as ++ e :: bs) = (first? as).or (first? bs) := by
  rw [first?_append_of_apart (apart_of_foreign he as bs),
    first?_cons_of_none (marker?_cons_of_ne he.1 bs)]

/-! ## Joined segments -/

theorem withoutMarkers_append_slash (as bs : List Char) :
    withoutMarkers (as ++ '/' :: bs) = withoutMarkers as ++ '/' :: withoutMarkers bs :=
  withoutMarkers_append_foreign (by decide) as bs

theorem withoutMarkers_joinWith (names : List (List Char)) :
    withoutMarkers (Text.joinWith ['/'] names) =
      Text.joinWith ['/'] (names.map withoutMarkers) := by
  induction names with
  | nil => rfl
  | cons n names ih =>
    cases names with
    | nil => rfl
    | cons next names =>
      rw [Text.joinWith_cons _ n (List.cons_ne_nil next names), List.map_cons,
        Text.joinWith_cons _ (withoutMarkers n) (by simp), ← ih, List.append_assoc,
        List.append_assoc]
      exact withoutMarkers_append_slash n _

theorem first?_append_slash (as bs : List Char) :
    first? (as ++ '/' :: bs) = (first? as).or (first? bs) :=
  first?_append_foreign (by decide) as bs

theorem first?_joinWith_eq_none_iff (names : List (List Char)) :
    first? (Text.joinWith ['/'] names) = none ↔ ∀ n ∈ names, first? n = none := by
  induction names with
  | nil => simp [Text.joinWith, first?]
  | cons n names ih =>
    cases names with
    | nil => simp [Text.joinWith]
    | cons next names =>
      rw [Text.joinWith_cons _ n (by simp), List.append_assoc, List.singleton_append,
        first?_append_slash, Option.or_eq_none_iff, ih, List.forall_mem_cons (a := n)]

/-- Behind a slash, and at the start, cutting out begins afresh. -/
theorem withoutMarkers_append (h : as = [] ∨ as.getLast? = some '/')
    (bs : List Char) : withoutMarkers (as ++ bs) = withoutMarkers as ++ withoutMarkers bs := by
  rcases h with rfl | h
  · rfl
  · obtain ⟨front, rfl⟩ := List.getLast?_eq_some_iff.1 h
    rw [List.append_assoc, List.singleton_append, withoutMarkers_append_slash,
      withoutMarkers_append_slash]
    simp [withoutMarkers]

/-! ## Texts without markers -/

theorem withoutMarkers_of_first?_eq_none (h : first? cs = none) : withoutMarkers cs = cs := by
  induction cs using cut_induction with
  | nil => rfl
  | marker m hm rest =>
    rw [first?_append_marker hm] at h
    exact absurd h (Option.some_ne_none _)
  | letter c rest hnot ih =>
    rw [first?_cons_of_none (marker?_eq_none hnot)] at h
    rw [withoutMarkers_cons_of_none (marker?_eq_none hnot), ih h]

theorem withoutMarkers_sublist (cs : List Char) : (withoutMarkers cs).Sublist cs := by
  induction cs using cut_induction with
  | nil => exact List.Sublist.slnil
  | marker m hm rest ih =>
    rw [withoutMarkers_marker_append hm]
    exact ih.trans (List.sublist_append_right m rest)
  | letter c rest hnot ih =>
    rw [withoutMarkers_cons_of_none (marker?_eq_none hnot)]
    exact ih.cons_cons c

theorem mem_of_mem_withoutMarkers (h : c ∈ withoutMarkers cs) : c ∈ cs :=
  (withoutMarkers_sublist cs).subset h

/-- What is cut out starts with two `!`. -/
theorem first?_eq_none_of_count (cs : List Char)
    (h : (withoutMarkers cs).count '!' = cs.count '!') : first? cs = none := by
  induction cs using cut_induction with
  | nil => rfl
  | marker m hm rest =>
    have hbang : 0 < m.count '!' := by
      rw [eq_bangs_of_marker hm, List.count_cons_self]
      exact Nat.succ_pos _
    have hless := (withoutMarkers_sublist rest).count_le '!'
    rw [withoutMarkers_marker_append hm, List.count_append] at h
    omega
  | letter c rest hnot ih =>
    rw [withoutMarkers_cons_of_none (marker?_eq_none hnot), List.count_cons, List.count_cons] at h
    rw [first?_cons_of_none (marker?_eq_none hnot)]
    exact ih (by omega)

end Scaffold.WriteDirective

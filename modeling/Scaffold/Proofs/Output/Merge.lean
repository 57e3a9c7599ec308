import Mathlib
import Scaffold.Output.Report

/-!
# Merging reports

Merging puts one list behind the other and adds up the counts, but a directory that is tracked
already is not tracked once more. Reports merge associatively all the same, since what a list has
seen it has still seen after any merge before it. The empty report changes nothing on the right; on
the left it takes out repetitions, so it changes nothing there just if there are none.
-/

namespace Scaffold

namespace Path

/-- Paths of different components. -/
def Apart (p q : Path) : Prop :=
  p.same q = false

theorem same_iff {p q : Path} : p.same q = true ↔ p.components = q.components := by
  rw [same, beq_iff_eq]

theorem Apart.symm {p q : Path} (h : Apart p q) : Apart q p := by
  rw [Apart, ← Bool.not_eq_true, same_iff] at h ⊢
  exact fun heq => h heq.symm

theorem any_same_eq_false {p : Path} {ps : List Path} :
    ps.any (same p) = false ↔ ∀ q ∈ ps, Apart p q := by
  simp [Apart]

theorem any_same_of_same {p q : Path} {ps : List Path} (h : p.same q = true) :
    ps.any (same p) = ps.any (same q) := by
  have hpq : same p = same q := by
    funext r
    rw [same, same, same_iff.1 h]
  rw [hpq]

/-- A list of paths that are apart can be extended by a path that is apart from all of them. -/
theorem pairwise_concat {p : Path} {ps : List Path} (h : ps.Pairwise Apart)
    (hnew : ∀ q ∈ ps, Apart p q) : (ps ++ [p]).Pairwise Apart := by
  refine List.pairwise_append.2 ⟨h, List.pairwise_singleton _ _, fun q hq r hr => ?_⟩
  rw [List.mem_singleton.1 hr]
  exact (hnew q hq).symm

end Path

namespace Report

/-! ## Tracking one directory -/

section AddTracked

variable {tracked : List Path} {dir p : Path}

theorem addTracked_of_any (h : tracked.any (Path.same dir) = true) :
    addTracked tracked dir = tracked :=
  if_pos h

theorem addTracked_of_apart (h : ∀ q ∈ tracked, Path.Apart dir q) :
    addTracked tracked dir = tracked ++ [dir] := by
  rw [addTracked, Path.any_same_eq_false.2 h, if_neg Bool.false_ne_true]

theorem pairwise_addTracked (h : tracked.Pairwise Path.Apart) (dir : Path) :
    (addTracked tracked dir).Pairwise Path.Apart := by
  unfold addTracked
  split
  · exact h
  · rename_i hnew
    rw [Bool.not_eq_true, Path.any_same_eq_false] at hnew
    exact Path.pairwise_concat h hnew

theorem subset_addTracked (tracked : List Path) (dir : Path) :
    tracked ⊆ addTracked tracked dir := by
  unfold addTracked
  split
  · exact List.Subset.refl _
  · exact List.subset_append_left _ _

theorem mem_addTracked (h : p ∈ addTracked tracked dir) : p ∈ tracked ∨ p = dir := by
  unfold addTracked at h
  split at h
  · exact .inl h
  · simpa using h

theorem any_addTracked (tracked : List Path) (dir p : Path) :
    (addTracked tracked dir).any (Path.same p) =
      (tracked.any (Path.same p) || p.same dir) := by
  unfold addTracked
  split
  · rename_i hseen
    cases hsame : p.same dir with
    | true => rw [Path.any_same_of_same hsame, hseen, Bool.or_true]
    | false => rw [Bool.or_false]
  · rw [List.any_append, List.any_cons, List.any_nil, Bool.or_false]

theorem exists_mem_addTracked (tracked : List Path) (dir : Path) :
    ∃ q ∈ addTracked tracked dir, dir.same q = true := by
  apply List.any_eq_true.1
  rw [any_addTracked, Path.same_iff.2 rfl, Bool.or_true]

end AddTracked

/-! ## Tracking directories in turn -/

section Fold

variable (acc ps qs : List Path)

theorem pairwise_foldl_addTracked (h : acc.Pairwise Path.Apart) :
    (ps.foldl addTracked acc).Pairwise Path.Apart := by
  induction ps generalizing acc with
  | nil => exact h
  | cons p ps ih =>
    apply ih
    exact pairwise_addTracked h p

theorem any_foldl_addTracked (dir : Path) :
    (ps.foldl addTracked acc).any (Path.same dir) =
      (acc.any (Path.same dir) || ps.any (Path.same dir)) := by
  induction ps generalizing acc with
  | nil => simp
  | cons p ps ih => rw [List.foldl_cons, ih, any_addTracked, List.any_cons, Bool.or_assoc]

theorem foldl_addTracked_addTracked (dir : Path) :
    (addTracked ps dir).foldl addTracked acc = addTracked (ps.foldl addTracked acc) dir := by
  cases hseen : ps.any (Path.same dir) with
  | true =>
    have hstill : (ps.foldl addTracked acc).any (Path.same dir) = true := by
      rw [any_foldl_addTracked, hseen, Bool.or_true]
    rw [addTracked_of_any hseen, addTracked_of_any hstill]
  | false =>
    rw [addTracked_of_apart (Path.any_same_eq_false.1 hseen), List.foldl_append, List.foldl_cons,
      List.foldl_nil]

theorem foldl_addTracked_foldl :
    (qs.foldl addTracked ps).foldl addTracked acc =
      qs.foldl addTracked (ps.foldl addTracked acc) := by
  induction qs generalizing ps with
  | nil => rfl
  | cons q qs ih => rw [List.foldl_cons, ih, foldl_addTracked_addTracked, List.foldl_cons]

variable {acc ps}

/-- Directories that are apart from each other and from what is tracked are all added. -/
theorem foldl_addTracked_of_apart (h : ps.Pairwise Path.Apart)
    (hacc : ∀ q ∈ ps, ∀ p ∈ acc, Path.Apart q p) : ps.foldl addTracked acc = acc ++ ps := by
  induction ps generalizing acc with
  | nil => simp
  | cons q ps ih =>
    obtain ⟨hq, hps⟩ := List.pairwise_cons.1 h
    rw [List.foldl_cons, addTracked_of_apart (hacc q List.mem_cons_self), ih hps,
      List.append_assoc, List.singleton_append]
    intro r hr p hp
    rcases List.mem_append.1 hp with hp | hp
    · exact hacc r (List.mem_cons_of_mem q hr) p hp
    · rw [List.mem_singleton.1 hp]
      exact (hq r hr).symm

variable (ps)

/-- From nothing, each directory is tracked where it comes first. -/
theorem foldl_addTracked_nil : ps.foldl addTracked [] = ps.eraseDupsBy Path.same := by
  -- the library keeps what it has seen in reverse
  have hloop : ∀ seen,
      ps.foldl addTracked seen.reverse = List.eraseDupsBy.loop Path.same ps seen := by
    induction ps with
    | nil => exact fun _ => rfl
    | cons p ps ih =>
      intro seen
      rw [List.foldl_cons, List.eraseDupsBy.loop, addTracked, List.any_reverse]
      cases seen.any (Path.same p) with
      | true => exact ih seen
      | false =>
        apply Eq.trans _ (ih (p :: seen))
        rw [List.reverse_cons, if_neg Bool.false_ne_true]
  exact hloop []

end Fold

/-! ## Merging -/

/-- No directory is tracked twice. -/
def TracksOnce (r : Report) : Prop :=
  r.tracked.Pairwise Path.Apart

variable {a r : Report}

theorem merge_assoc (a b c : Report) : (a.merge b).merge c = a.merge (b.merge c) := by
  simp only [merge, List.append_assoc, Nat.add_assoc, foldl_addTracked_foldl]

theorem TracksOnce.merge (h : a.TracksOnce) (b : Report) : (a.merge b).TracksOnce :=
  pairwise_foldl_addTracked _ _ h

theorem merge_empty (r : Report) : r.merge {} = r := by
  simp [merge]

theorem empty_merge (h : r.TracksOnce) : ({} : Report).merge r = r := by
  have htracked : r.tracked.foldl addTracked [] = r.tracked :=
    foldl_addTracked_of_apart h (by simp)
  simp [merge, htracked]

theorem empty_merge_eq_self_iff : ({} : Report).merge r = r ↔ r.TracksOnce := by
  constructor
  · intro h
    rw [← h]
    apply TracksOnce.merge
    exact List.Pairwise.nil
  · exact empty_merge

end Report

end Scaffold

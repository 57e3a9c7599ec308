import Mathlib
import Scaffold.Proofs.FileTree.Overlay
import Scaffold.Proofs.Plan.Induction
import Scaffold.Proofs.Plan.Mock

/-!
# Carrying out a plan again

On a tree that has only grown since, a step that overwrites nothing and purges nothing leaves
everything as it is, but for outputs whose marker asks for it: these get the contents back that
the step gave them the first time. This passes on from step to step, although each step is
repeated on a tree that holds what all later ones have left there.
-/

namespace Scaffold

open WriteDirective (target first?)
open FileTree

/-- The target of an entry whose first marker asks for overwriting. -/
def MarkedTarget (entries : List (Path × String)) (p : Path) : Prop :=
  ∃ e ∈ entries, first? e.1.chars = some .overwrite ∧ target e.1 = p

/-- The working directory is there, and so is the directory of a run. -/
structure Ready (r : Refusals) (root : Path) (t : FileTree) : Prop where
  standing : Standing t t.cwd
  created : (host r).createDirAll root t = (true, t)

theorem Ready.grown {r : Refusals} {root : Path} {t g : FileTree} (h : Ready r root t)
    (hgrown : Grown t g) : Ready r root g := by
  have hsame : ((host r).createDirAll root t).2 = t := by rw [h.created]
  obtain ⟨htree, htrue, -⟩ := createDirAll_again r (p := root) (g := g) h.standing (by rwa [hsame])
  exact ⟨hgrown.cwd ▸ h.standing.grown hgrown, Prod.ext (htrue (by rw [h.created])) htree⟩

/-- A step that is taken again on a larger tree puts the same contents back to the same places,
and reports what it has to write for that. -/
def Repeats {S : Type} (report : S → Report) (r : Refusals) (root : Path)
    (entries : List (Path × String)) (x : S → StateM FileTree S) : Prop :=
  ∀ s t, Ready r root t → ∃ m, Leaves m t (x s t).2 ∧
    ∀ s' g, Grown (x s t).2 g → Overlaid m g (x s' g).2 ∧
      ∀ p ∈ (report (x s' g).1).written, p ∈ (report s').written ∨ MarkedTarget entries p

namespace Repeats

section Steps

variable {S : Type} {report : S → Report} {r : Refusals} {root : Path}
  {xs ys : List (Path × String)} {x y : S → StateM FileTree S}

/-- Steps that at most create directories, and none the second time. -/
theorem of_built (entries : List (Path × String)) (hbuilt : ∀ s t, Built t (x s t).2)
    (hagain : ∀ s t, Ready r root t → ∀ s' g, Grown (x s t).2 g → (x s' g).2 = g)
    (hreport : ∀ s t, (report (x s t).1).written = (report s).written) :
    Repeats report r root entries x := by
  intro s t hready
  refine ⟨.empty, (hbuilt s t).leaves, fun s' g hgrown => ⟨?_, fun p hp => ?_⟩⟩
  · rw [hagain s t hready s' g hgrown]
    exact .refl g
  · exact .inl (by rwa [hreport] at hp)

/-- Steps that touch nothing. -/
theorem of_idle (entries : List (Path × String)) (hidle : ∀ s t, (x s t).2 = t)
    (hreport : ∀ s t, (report (x s t).1).written = (report s).written) :
    Repeats report r root entries x :=
  of_built entries (fun s t => by rw [hidle]; exact .refl t) (fun _ _ _ s' g _ => hidle s' g)
    hreport

theorem seq (hx : Repeats report r root xs x) (hy : Repeats report r root ys y) :
    Repeats report r root (xs ++ ys) fun s => x s >>= y := by
  intro s t hready
  obtain ⟨m, hleaves, hagain⟩ := hx s t hready
  obtain ⟨n, hleaves', hagain'⟩ := hy (x s t).1 (x s t).2 (hready.grown hleaves.grown)
  refine ⟨n.onto m, hleaves.trans hleaves', fun s' g hgrown => ?_⟩
  -- the first step is repeated on all that the second one has left
  have hfirst := hleaves'.grown.trans hgrown
  obtain ⟨hoverlaid, hwritten⟩ := hagain s' g hfirst
  have hsecond := hgrown.trans (hoverlaid.grown hleaves hfirst)
  obtain ⟨hoverlaid', hwritten'⟩ := hagain' (x s' g).1 (x s' g).2 hsecond
  refine ⟨hoverlaid.trans hoverlaid', fun p hp => ?_⟩
  rcases hwritten' p hp with hp | ⟨e, he, hmarked⟩
  · rcases hwritten p hp with hp | ⟨e, he, hmarked⟩
    · exact .inl hp
    · exact .inr ⟨e, List.mem_append_left ys he, hmarked⟩
  · exact .inr ⟨e, List.mem_append_right xs he, hmarked⟩

theorem put (path : Path) (content : String) (count : S → Option WriteOutcome → S)
    (hcount : ∀ s result, report (count s result) = (report s).record result) :
    Repeats report r root [(path, content)] fun s =>
      count s <$> (host r).put false path content := by
  intro s t hready
  obtain ⟨m, hleaves, hagain⟩ := put_again r path content hready.standing
  refine ⟨m, hleaves, fun s' g hgrown => ?_⟩
  obtain ⟨hoverlaid, hasked⟩ := hagain g hgrown
  refine ⟨hoverlaid, fun p hp => ?_⟩
  simp only [stateM_map, hcount] at hp
  cases hresult : ((host r).put false path content g).1 with
  | none => exact .inl (by simpa [hresult, Report.fail] using hp)
  | some outcome =>
    cases outcome with
    | keptExisting q => exact .inl (by simpa [hresult, Report.record] using hp)
    | written q =>
      obtain ⟨rfl, hmarker⟩ := hasked q hresult
      have hp : p ∈ (report s').written ∨ p = target path := by
        simpa [hresult, Report.record] using hp
      exact hp.imp_right fun heq => ⟨(path, content), by simp, hmarker, heq.symm⟩

/-- Files that are put one after the other. -/
theorem putAll (entries : List (Path × String)) :
    Repeats id r root entries ((host r).putAll false entries) := by
  induction entries with
  | nil => exact of_idle [] (fun _ _ => rfl) fun _ _ => rfl
  | cons e entries ih =>
    have hfirst : Repeats id r root [e] fun s =>
        Report.record s <$> (host r).put false e.1 e.2 :=
      put e.1 e.2 Report.record fun _ _ => rfl
    have hall := hfirst.seq ih
    simp only [bind_map_left, List.singleton_append] at hall
    exact hall

end Steps

/-! ## Steps of a walk -/

section Walk

variable {w : Walker (StateM FileTree)} {r : Refusals} {root : Path}

/-- Directories that are named after something, and the directory of the run. -/
def Enterable (root dir : Path) : Prop :=
  lastSegment dir ≠ ['.'] ∨ dir = root

theorem enterable_joinRendered (dir : Path) (rendered : String) (h : Enterable root dir) :
    Enterable root (dir.joinRendered rendered) := by
  rcases Path.joinRendered_cases dir rendered with heq | hlast
  · rwa [heq]
  · exact .inl hlast

theorem enter (hw : w.host = host r) {dir : Path} (hdir : Enterable root dir)
    {xs : List (Path × String)} {x : WalkState → StateM FileTree WalkState}
    (hx : Repeats WalkState.report r root xs x) :
    Repeats WalkState.report r root xs fun s => do
      if ← w.makeDir dir then x s else return Walker.onReport s Report.fail := by
  intro s t hready
  have hbuilt := createDirAll_cases r dir t
  have hanswer : ∀ g, Grown ((host r).createDirAll dir t).2 g →
      (host r).createDirAll dir g = (((host r).createDirAll dir t).1, g) := by
    intro g hgrown
    obtain ⟨htree, -, hsame⟩ := createDirAll_again r hready.standing hgrown
    refine Prod.ext ?_ htree
    rcases hdir with hlast | rfl
    · exact hsame hlast
    · rw [(hready.grown (hbuilt.grown.trans hgrown)).created, hready.created]
  simp only [stateM_bind, Walker.makeDir_eq (hw ▸ silent r), hw]
  cases hmade : ((host r).createDirAll dir t).1 with
  | false =>
    refine ⟨.empty, hbuilt.leaves, fun s' g hgrown => ?_⟩
    rw [hanswer g hgrown, hmade]
    exact ⟨.refl g, fun p hp => .inl hp⟩
  | true =>
    obtain ⟨m, hleaves, hagain⟩ := hx s _ (hready.grown hbuilt.grown)
    refine ⟨m.onto .empty, hbuilt.leaves.trans hleaves, fun s' g hgrown => ?_⟩
    rw [hanswer g (hleaves.grown.trans hgrown), hmade]
    obtain ⟨hoverlaid, hwritten⟩ := hagain s' g hgrown
    exact ⟨(Overlaid.refl g).trans hoverlaid, hwritten⟩

/-- Asking for an asset creates the directory for it, if it is not there. -/
theorem fetchTo_apply (hw : w.host = host r) (path : Path) (url : String) (s : WalkState)
    (t : FileTree) :
    (w.fetchTo path url s t).2 =
        (if t.pathExists path then t else ((host r).ensureParent path t).2) ∧
      (w.fetchTo path url s t).1.report.written = s.report.written := by
  have hdownload : (host r).download url path = pure () := rfl
  rw [Walker.fetchTo_eq (hw ▸ silent r), hw]
  cases hfound : t.pathExists path with
  | true => simp [host_pathExists, hfound, Walker.onReport]
  | false => simp [host_pathExists, hfound, hdownload, Walker.onReport]

theorem fetchTo (hw : w.host = host r) (path : Path) (url : String) :
    Repeats WalkState.report r root [] (w.fetchTo path url) := by
  have happly := fetchTo_apply hw path url
  refine of_built [] (fun s t => ?_) (fun s t hready s' g hgrown => ?_) fun s t => (happly s t).2
  · rw [(happly s t).1]
    split
    · exact .refl t
    · exact ensureParent_built r path t
  · rw [(happly s t).1] at hgrown
    rw [(happly s' g).1]
    split
    · rfl
    · rename_i hmissing
      split at hgrown
      · rename_i hthere
        exact absurd (hgrown.pathExists hthere) hmissing
      · exact (ensureParent_again r path hready.standing hgrown).1

end Walk

end Repeats

/-- A plan can be carried out again if it overwrites nothing and purges nothing. -/
theorem Walker.repeats_compositional {w : Walker (StateM FileTree)} {r : Refusals} (root : Path)
    (hw : w.host = FileTree.host r) (hoverwrite : w.overwrite = false)
    (hpurge : w.policy.purgeGenerated = false) :
    w.Compositional (Repeats.Enterable root) (Repeats WalkState.report r root) where
  skip := .of_idle [] (fun _ _ => rfl) fun _ _ => rfl
  seq hx hy := hx.seq hy
  enter hdir hx := .enter hw hdir hx
  put path content := by
    have heq : w.output path content = fun s =>
        (fun result => onReport s (·.record result)) <$>
          (FileTree.host r).put false path content := by
      funext s
      rw [output_eq_put (hw ▸ silent r), hw, hoverwrite]
    rw [heq]
    exact .put path content _ fun _ _ => rfl
  prepare dir := by
    refine .of_idle [] (fun s t => ?_) fun s t => ?_
    · rw [prepare_of_not_purging hpurge, stateM_pure]
    · rw [prepare_of_not_purging hpurge]
      rfl
  fetch path url := .fetchTo hw path url
  suppress := .of_idle [] (fun _ _ => rfl) fun _ _ => rfl
  fail := .of_idle [] (fun _ _ => rfl) fun _ _ => rfl

end Scaffold

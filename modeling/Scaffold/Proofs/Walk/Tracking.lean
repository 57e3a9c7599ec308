import Mathlib
import Scaffold.Proofs.Plan.Written
import Scaffold.Proofs.Run.Removal
import Scaffold.Proofs.Walk.Discovery

/-!
# Generated files and tracked directories

A walk tracks the directory of every node that expands over interfaces or data types, by the path
that its name is joined to. Files of the node go to what is left of the joined path without
markers. So they lie in a tracked directory if there is nothing to cut out, but a marker in a
directory's name stays in what is tracked.
-/

namespace Scaffold

open WriteDirective (first?)

variable {σ : Type}

namespace Path

theorem StrictlyBeneath.of_same {d d' p : Path} (hsame : d.same d' = true)
    (h : d.StrictlyBeneath p) : d'.StrictlyBeneath p := by
  have hresolved : d.resolved = d'.resolved := by
    rw [resolved, resolved, same_iff.1 hsame]
  rwa [StrictlyBeneath, ← hresolved]

end Path

/-- Some tracked directory has the path inside. -/
def Report.Covers (r : Report) (p : Path) : Prop :=
  ∃ d ∈ r.tracked, d.StrictlyBeneath p

theorem Host.NotesRemovals.of_follows {τ : Type} {view : σ → τ} {noted : τ → List Path}
    {h : Host (StateM σ)} {d : Host (StateM τ)} (H : h.Follows view d)
    (hd : d.NotesRemovals noted) : h.NotesRemovals fun t => noted (view t) where
  removeDirAll p t := by
    rw [(H.removeDirAll p t).2, hd.removeDirAll]
  others ps := Host.Preserves.of_follows H (hd.others ps)

namespace Plan

theorem dir_of_mem_outputs_ofTexts {render : Rendering} {data : Json} {name content : String}
    {dir : Path} {o : Output} (h : o ∈ outputs dir (ofTexts render data name content)) :
    o.dir = dir := by
  unfold ofTexts at h
  split at h
  · simp [outputs] at h
  · split at h
    · simp [outputs] at h
    · rw [outputs, List.mem_singleton] at h
      rw [h]

theorem exists_mem_of_mem_outputsAll {dir : Path} {ps : List Plan} {o : Output}
    (h : o ∈ outputsAll dir ps) : ∃ p ∈ ps, o ∈ outputs dir p := by
  induction ps with
  | nil => simp [outputsAll] at h
  | cons p ps ih =>
    rw [outputsAll, List.mem_append] at h
    rcases h with h | h
    · exact ⟨p, List.mem_cons_self, h⟩
    · obtain ⟨q, hq, ho⟩ := ih h
      exact ⟨q, List.mem_cons_of_mem p hq, ho⟩

/-- A file node puts its files into the directory it is met in, unless it is an asset. -/
theorem mem_outputsAll_ofFile {render : Rendering} {normalDocs : Bool} {c : RenderContext}
    {f : DocFile} {dir : Path} {o : Output}
    (h : o ∈ outputsAll dir (ofFile render normalDocs c f)) :
    (!f.isText && normalDocs) = false ∧ o.dir = dir := by
  obtain ⟨p, hp, ho⟩ := exists_mem_of_mem_outputsAll h
  unfold ofFile at hp
  split at hp
  · rw [List.mem_singleton.1 hp, ofAsset] at ho
    split at ho <;> simp [outputs] at ho
  · rename_i hasset
    refine ⟨by simpa using hasset, ?_⟩
    cases hkey : f.dataSource.bindingKey? with
    | some key =>
      simp only [hkey, List.mem_append, ofEntities, List.mem_map] at hp
      rcases hp with hp | ⟨e, -, rfl⟩
      · split at hp
        · rw [List.mem_singleton.1 hp] at ho
          simp [outputs] at ho
        · simp at hp
      · exact dir_of_mem_outputs_ofTexts ho
    | none =>
      simp only [hkey] at hp
      split at hp
      · rw [List.mem_singleton.1 hp] at ho
        exact dir_of_mem_outputs_ofTexts ho
      · simp at hp

end Plan

/-- The files that the node of a visit puts somewhere. -/
def Visit.outputs (render : Rendering) (normalDocs : Bool) (v : Visit σ) : List Plan.Output :=
  match v.node with
  | .file f => Plan.outputsAll v.dir (Plan.ofFile render normalDocs v.state.context f)
  | .directory _ _ _ => []

namespace Walker

variable {w : Walker (StateM σ)}

/-! ## What is tracked -/

section Notes

variable {noted : σ → List Path} (H : w.host.NotesRemovals noted)
  (hrender : ∀ template data ps, Preserves (noted · = ps) (w.render template data))
include H hrender

theorem tracked_work (v : Visit σ) :
    (v.work w).1.report.tracked =
      if v.isGenerated w.policy.normalDocs then Report.addTracked v.state.report.tracked v.dir
      else v.state.report.tracked := by
  have htracked := congrArg Marks.tracked (work_marks H hrender v)
  obtain ⟨emptied, hprepared⟩ := prepare_marks H v.dir v.state v.world
  rw [hprepared, apply_ite Marks.tracked, Marks.tracked_prepare] at htracked
  exact htracked

theorem tracked_subset_leads {a b : WalkState × σ} {vs : List (Visit σ)} (h : Leads w a vs b) :
    a.1.report.tracked ⊆ b.1.report.tracked := by
  refine (h.invariant (P := fun x => a.1.report.tracked ⊆ x.1.report.tracked)
    (fun v _ hv => List.Subset.trans hv ?_) (List.Subset.refl _)).1
  rw [tracked_work H hrender]
  split
  · exact Report.subset_addTracked _ _
  · exact List.Subset.refl _

/-- The directory of a generated source is tracked from its visit on. -/
theorem exists_tracked {a b : WalkState × σ} {vs : List (Visit σ)} {v : Visit σ}
    (h : Leads w a vs b) (hv : v ∈ vs) (hgenerated : v.isGenerated w.policy.normalDocs = true) :
    ∃ d ∈ b.1.report.tracked, v.dir.same d = true := by
  obtain ⟨us, later, rfl⟩ := List.append_of_mem hv
  have hlater := tracked_subset_leads H hrender h.after
  rw [tracked_work H hrender, if_pos hgenerated] at hlater
  obtain ⟨d, hd, hsame⟩ := Report.exists_mem_addTracked v.state.report.tracked v.dir
  exact ⟨d, hlater hd, hsame⟩

end Notes

/-! ## What is written -/

section Journal

variable {view : σ → Journal} {r : Refusals} {render : Rendering}
  (hhost : w.host.Follows view (Journal.host r)) (hrender : w.RendersBy view render)
include hhost hrender

theorem writes_enter (name : String) (dir : Path) (s : WalkState) (t : σ) :
    (view (w.enter name dir s t).2).writes = (view t).writes := by
  rw [(enter_follows hhost hrender name dir s t).2]
  cases render name s.context.data with
  | none => rfl
  | some rendered => exact Journal.writes_createDirAll r _ _

theorem work_writes (v : Visit σ) :
    ∃ done : List Plan.Output, done.Sublist (v.outputs render w.policy.normalDocs) ∧
      (view (v.work w).2).writes =
        (view v.world).writes ++ done.map fun o => (o.target, o.content) := by
  unfold Visit.work Visit.outputs
  cases v.node with
  | file f =>
    have hview := (walkFile_follows hhost hrender f v.dir v.state v.world).2
    obtain ⟨entries, hsub, hwrites, -⟩ :=
      (writes_compositional (w := w.onHost (Journal.host r) render) rfl).carryOutAll
        (fun _ _ _ => trivial) v.dir trivial
        (Plan.ofFile render w.policy.normalDocs v.state.context f) v.state (view v.world)
    obtain ⟨done, hdone, rfl⟩ := List.sublist_map_iff.1 hsub
    refine ⟨done, hdone, ?_⟩
    rw [hview, hwrites, List.map_map]
    rfl
  | directory id name children =>
    have hwrites := writes_enter hhost hrender name v.dir v.state v.world
    refine ⟨[], List.Sublist.refl _, ?_⟩
    dsimp only
    split <;> simpa using hwrites

/-! ## What covers what is written -/

/-- A walk writes what its visits write, in their order. What the visit of a node of interfaces or
data types writes is for the directory that the node is met in, and that directory is tracked in
the end. A file lies in a tracked directory just if its trail, from where it starts, comes out
inside one; so it does if its joined path holds no marker and its name leaves a segment. -/
theorem walk_covers_generated_iff (docs : List DocNode) (dir : Path) (c : RenderContext)
    (t : σ) :
    let after := w.walk docs dir c t
    ∃ parts : List (List Plan.Output),
      (view after.2).writes =
        (view t).writes ++ parts.flatten.map (fun o => (o.target, o.content)) ∧
      List.Forall₂ (fun v done =>
        done.Sublist (v.outputs render w.policy.normalDocs) ∧
        (view (v.work w).2).writes =
          (view v.world).writes ++ done.map (fun o => (o.target, o.content)) ∧
        ∀ f, v.node = .file f → f.dataSource.isTracked = true → ∀ o ∈ done,
          o.dir = v.dir ∧
          (∃ d ∈ after.1.report.tracked, v.dir.same d = true) ∧
          (after.1.report.Covers o.target ↔
            ∃ d ∈ after.1.report.tracked, ∃ names, names ≠ [] ∧
              o.start.append o.trail = d.resolved.below names) ∧
          (first? o.path.chars = none → Path.renderedNames o.rendered.toList ≠ [] →
            after.1.report.Covers o.target))
        (w.visits docs dir c t) parts := by
  intro after
  have hremovals : w.host.NotesRemovals fun t => (view t).removals :=
    .of_follows hhost (Journal.host_notesRemovals r)
  have hsilent : ∀ template data ps,
      Preserves (fun t => (view t).removals = ps) (w.render template data) :=
    fun template data ps =>
      .of_follows (I := fun j => j.removals = ps) (hrender template data) (.pure _)
  have hleads : Leads w ({ context := c }, t) (w.visits docs dir c t) after :=
    walk_leads docs dir c t
  obtain ⟨parts, hparts, hwrites⟩ := hleads.collect_map (fun a => (view a.2).writes)
    (fun o : Plan.Output => (o.target, o.content))
    (R := fun v done => v ∈ w.visits docs dir c t ∧
      done.Sublist (v.outputs render w.policy.normalDocs) ∧
      (view (v.work w).2).writes =
        (view v.world).writes ++ done.map (fun o => (o.target, o.content)))
    fun v hv => by
      obtain ⟨done, hsub, hdone⟩ := work_writes hhost hrender v
      exact ⟨done, ⟨hv, hsub, hdone⟩, hdone⟩
  refine ⟨parts, hwrites, hparts.imp fun v done ⟨hv, hsub, hdone⟩ => ⟨hsub, hdone, ?_⟩⟩
  intro f hnode hsource o ho
  have hmem : o ∈ Plan.outputsAll v.dir
      (Plan.ofFile render w.policy.normalDocs v.state.context f) := by
    have houtput := hsub.subset ho
    rwa [Visit.outputs, hnode] at houtput
  obtain ⟨htext, hdir⟩ := Plan.mem_outputsAll_ofFile hmem
  have hgenerated : v.isGenerated w.policy.normalDocs = true := by
    simp [Visit.isGenerated, hnode, DocFile.isGenerated, hsource, htext]
  obtain ⟨d, hd, hsame⟩ := exists_tracked hremovals hsilent hleads hv hgenerated
  refine ⟨hdir, ⟨d, hd, hsame⟩, ?_, fun hpath hnames => ⟨d, hd, ?_⟩⟩
  · simp only [Report.Covers, Path.StrictlyBeneath, Plan.Output.resolved_target]
  · have hbeneath := Plan.Output.strictlyBeneath_of_unmarked_path hpath hnames
    rw [hdir] at hbeneath
    exact hbeneath.of_same hsame

end Journal

theorem walk_covers_interface_file :
    let w : Walker (StateM Journal) :=
      { host := Journal.host {}, render := fun template _ => pure (some template)
        overwrite := false, policy := { normalDocs := true } }
    let docs : List DocNode := [.file ⟨1, "a.txt", none, .interface, "x"⟩]
    let c : RenderContext := .ofMembers [("ds", .obj [("interfaces", .arr [.obj []])])]
    let after := w.walk docs (.ofString "out/gen") c { files := {} }
    after.2.writes = [(.ofString "out/gen/a.txt", "x")] ∧
      after.1.report.Covers (.ofString "out/gen/a.txt") := by
  intro w docs c after
  have hwritten : after.2.writes = [(.ofString "out/gen/a.txt", "x")] := by decide +kernel
  refine ⟨hwritten, ?_⟩
  obtain ⟨parts, hwrites, hparts⟩ := walk_covers_generated_iff (w := w)
    (Journal.host_follows_self {}) (fun template _ => Follows.pure (some template)) docs
    (.ofString "out/gen") c { files := {} }
  let v : Visit Journal :=
    { place := [0], dir := .ofString "out/gen", state := { context := c }, world := { files := {} }
      node := .file ⟨1, "a.txt", none, .interface, "x"⟩ }
  have hvisits : w.visits docs (.ofString "out/gen") c { files := {} } = [v] := rfl
  rw [hvisits] at hparts
  -- the one visit writes the one output of its node
  obtain ⟨done, rest, ⟨hsub, -, hfiles⟩, hrest, rfl⟩ := List.forall₂_cons_left_iff.1 hparts
  obtain rfl := List.forall₂_nil_left_iff.1 hrest
  have houtputs : v.outputs (fun template _ => some template) w.policy.normalDocs =
      [⟨.ofString "out/gen", "a.txt", "x"⟩] := by decide +kernel
  rw [houtputs, List.sublist_singleton] at hsub
  rw [show (id after.2).writes = _ from hwritten] at hwrites
  rcases hsub with rfl | rfl
  · simp [Journal.writes] at hwrites
  · have htarget : (⟨.ofString "out/gen", "a.txt", "x"⟩ : Plan.Output).target =
        .ofString "out/gen/a.txt" := by decide +kernel
    obtain ⟨-, -, -, hcovers⟩ := hfiles _ rfl rfl _ (List.mem_singleton.2 rfl)
    rw [show after = w.walk docs (.ofString "out/gen") c { files := {} } from rfl, ← htarget]
    exact hcovers (by decide +kernel) (by decide +kernel)

/-- A marker in a directory's name stays in what is tracked, while the file goes to what is left
of the path without it. -/
theorem walk_tracks_marked_directory :
    let w : Walker (StateM Journal) :=
      { host := Journal.host {}, overwrite := false, policy := { normalDocs := true }
        render := fun template data => pure ((default : HelperRegistry).render template data).1 }
    let docs : List DocNode :=
      [.directory 1 "gen!!w" [.file ⟨2, "{{interface.name}}.txt", none, .interface, "I"⟩]]
    let c : RenderContext := .ofMembers
      [("ds", .obj [("interfaces", .arr [.obj [("name", .str "getA")]])])]
    let after := w.walk docs (.ofString "out") c { files := {} }
    after.2.writes = [(.ofString "out/gen/getA.txt", "I")] ∧
      after.1.report.tracked = [.ofString "out/gen!!w"] ∧
      ¬ after.1.report.Covers (.ofString "out/gen/getA.txt") := by
  intro w docs c after
  have htracked : after.1.report.tracked = [.ofString "out/gen!!w"] := by decide +kernel
  refine ⟨by decide +kernel, htracked, ?_⟩
  rintro ⟨d, hd, names, -, hnames⟩
  rw [htracked, List.mem_singleton] at hd
  have hfile : (Path.ofString "out/gen/getA.txt").resolved =
      { names := ["out".toList, "gen".toList, "getA.txt".toList] } := by cbv
  have hdir : (Path.ofString "out/gen!!w").resolved =
      { names := ["out".toList, "gen!!w".toList] } := by cbv
  rw [hd, hfile, hdir] at hnames
  simp [Path.Route.below] at hnames

end Walker

end Scaffold

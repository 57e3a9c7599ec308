import Mathlib
import Scaffold.Proofs.Mock.Preservation
import Scaffold.Proofs.Run.Invariant
import Scaffold.Proofs.Walk.Removal

/-!
# What a run removes

Everything that a run removes, its walk removes: directories below the output that files of
generated sources lie in, each at most once and before the first expansion there, and only if the
run has a key, its platform tracks generated files and something has changed.
-/

namespace Scaffold

variable {σ : Type}

namespace Journal

/-- The paths that were to be removed, first one first. -/
def removals (j : Journal) : List Path :=
  j.calls.reverse.filterMap fun c =>
    match c.request with
    | .removeDirAll p => some p
    | _ => none

theorem removals_perform (request : Request) (op : StateM FileTree Bool) (j : Journal) :
    (perform request op j).2.removals =
      j.removals ++ match request with
        | .removeDirAll p => [p]
        | _ => [] := by
  rw [removals, filterMap_perform, removals]
  cases request <;> rfl

theorem host_notesRemovals (r : Refusals) : (Journal.host r).NotesRemovals removals where
  removeDirAll _ j := removals_perform _ _ j
  others ps := by
    have hother : ∀ request op, (∀ p, request ≠ .removeDirAll p) →
        Preserves (removals · = ps) (perform request op) := by
      intro request op hrequest j hj
      rw [removals_perform, hj]
      cases request with
      | removeDirAll p => exact absurd rfl (hrequest p)
      | write | createDirAll | download => exact List.append_nil _
    exact
      { pathExists := fun _ => .of_reads fun _ => rfl
        write := fun _ _ => hother _ _ (by simp)
        createDirAll := fun _ => hother _ _ (by simp)
        readText := fun _ => .of_reads fun _ => rfl
        names := fun _ => .of_reads fun _ => rfl
        download := fun _ _ => (hother _ _ (by simp)).bind fun _ => .pure _
        updateProject := fun _ _ => .pure _
        log := fun _ => .pure _ }

end Journal

namespace RunSetup

/-- The walker of a run. -/
def ownWalker (u : RunSetup (StateM σ)) (c : RunConfig) (s : Spec) : Walker (StateM σ) where
  host := u.host
  render := u.render (HelperRegistry.ofDocs s.docs).1
  overwrite := c.args.overwrite
  policy := u.policy c

/-- What a run has come to when its walk starts. -/
structure Start (σ : Type) where
  roots : StructuralRoots
  rules : List MockRule
  mocks : Report
  world : σ

/-- Where the walk of a run starts, if the output can be created. -/
def start? (u : RunSetup (StateM σ)) (c : RunConfig) (s : Spec) (t : σ) : Option (Start σ) :=
  let (helpers, events) := HelperRegistry.ofDocs s.docs
  let found := u.findRoots helpers c s (u.host.logAll events t).2
  let created := u.host.createDirAll c.outputRoot found.2
  if created.1 then
    let written := u.writeMocks c.args s found.1 (u.knownChange c.args created.2).2
    some ⟨found.1, written.1.1, written.1.2, written.2⟩
  else none

def Start.context (start : Start σ) (c : RunConfig) (s : Spec) : RenderContext :=
  walkContext c s start.roots start.rules (viewRules c s)

/-- The visits of a run's walk. -/
def visits (u : RunSetup (StateM σ)) (c : RunConfig) (s : Spec) (t : σ) : List (Visit σ) :=
  match u.start? c s t with
  | some start => (u.ownWalker c s).visits s.docs c.outputRoot (start.context c s) start.world
  | none => []

variable {u : RunSetup (StateM σ)} {c : RunConfig} {s : Spec}

theorem knownChange_fst (t : σ) : (u.knownChange c.args t).1 = u.known c := by
  unfold knownChange known
  split <;> rfl

/-- What comes after the walk. -/
def conclude (u : RunSetup (StateM σ)) (c : RunConfig) (s : Spec) (start : Start σ)
    (walked : Report) : ExceptT RunError (StateM σ) RunReport := do
  let report ← u.finish c s ((u.known c).getD {}) start.rules (viewRules c s)
    { files := (({} : Report).merge start.mocks).merge walked
      change := u.known c
      roots := start.roots
      helpers := (HelperRegistry.ofDocs s.docs).1.names.length }
  u.host.log (.info "Generation finished"
    [("written", Json.int report.files.written.length),
     ("kept", Json.int report.files.kept.length),
     ("failed", Json.int report.files.failed)])
  return report

/-- A run is its start, its walk and what comes after. -/
theorem run_run (t : σ) :
    (u.run c s).run t =
      match u.start? c s t with
      | some start =>
        let walked := (u.ownWalker c s).walk s.docs c.outputRoot (start.context c s) start.world
        (u.conclude c s start walked.1.report).run walked.2
      | none =>
        let (helpers, events) := HelperRegistry.ofDocs s.docs
        let found := u.findRoots helpers c s (u.host.logAll events t).2
        (.error (.outputRoot c.outputRoot), (u.host.createDirAll c.outputRoot found.2).2) := by
  unfold run start? ownWalker conclude
  generalize HelperRegistry.ofDocs s.docs = registered
  obtain ⟨helpers, events⟩ := registered
  refine (exceptT_lift_bind (u.host.logAll events) _ t).trans ?_
  refine (exceptT_lift_bind (u.findRoots helpers c s) _ _).trans ?_
  refine (exceptT_lift_bind (u.host.createDirAll c.outputRoot) _ _).trans ?_
  dsimp only
  cases (u.host.createDirAll c.outputRoot
    (u.findRoots helpers c s (u.host.logAll events t).2).2).1 with
  | false => rfl
  | true =>
    refine (exceptT_lift_bind (u.knownChange c.args) _ _).trans ?_
    rw [knownChange_fst]
    rfl

/-! ## What the other parts of a run leave alone -/

section Notes

variable {noted : σ → List Path} (H : u.host.NotesRemovals noted)
include H

theorem logAll_noted (es : List LogEvent) :
    Follows noted (u.host.logAll es) (Pure.pure ()) :=
  fun t => ⟨rfl, Preserves.eq_of_view (fun ps => (H.others ps).logAll es) t⟩

theorem render_noted (helpers : HelperRegistry) (template : String) (data : Json)
    (ps : List Path) : Preserves (noted · = ps) (u.render helpers template data) :=
  ((H.others ps).logAll _).bind fun _ => .pure _

theorem findRoots_noted (helpers : HelperRegistry) (t : σ) :
    noted (u.findRoots helpers c s t).2 = noted t :=
  have hrender : ∀ name : String,
      Follows noted (u.render helpers name (RenderContext.ofSpec s c.args).data)
        (Pure.pure (helpers.render name (RenderContext.ofSpec s c.args).data).1) :=
    fun _ => (logAll_noted H _).step (.pure _)
  (StructuralRoots.discover_follows hrender (fun e => logAll_noted H [e]) s.docs
    s.info.attributes c.outputRoot t).2

theorem writeMocks_ensures (roots : StructuralRoots) (ps : List Path) :
    Ensures (noted · = ps) (fun a => a.2.OnlyFiles) (u.writeMocks c.args s roots) := by
  unfold writeMocks
  refine .ite ?_ (.pure ⟨rfl, rfl⟩)
  exact Mock.writeAll_ensures (w := ⟨u.host, c.args.overwrite, u.provider⟩) (H.others ps) s _ _

theorem knownChange_preserves (ps : List Path) :
    Preserves (noted · = ps) (u.knownChange c.args) :=
  .ite (((H.others ps).log _).bind fun _ => .pure _) (.pure _)

/-- Before its walk a run removes nothing, and the report on mock data tells of no directories. -/
theorem start?_noted {start : Start σ} {t : σ} (h : u.start? c s t = some start) :
    noted start.world = noted t ∧ start.mocks.OnlyFiles := by
  unfold start? at h
  dsimp only at h
  split at h
  · obtain rfl := Option.some.inj h
    have hcreated := Preserves.eq_of_view (fun ps => (H.others ps).createDirAll c.outputRoot)
      (u.findRoots (HelperRegistry.ofDocs s.docs).1 c s
        (u.host.logAll (HelperRegistry.ofDocs s.docs).2 t).2).2
    have hbefore := hcreated.trans ((findRoots_noted H _ _).trans (logAll_noted H _ t).2)
    exact writeMocks_ensures H _ _ _ (knownChange_preserves H _ _ hbefore)
  · simp at h

theorem run_noted_of_none {t : σ} (h : u.start? c s t = none) :
    noted ((u.run c s).run t).2 = noted t := by
  rw [run_run, h]
  have hcreated := Preserves.eq_of_view (fun ps => (H.others ps).createDirAll c.outputRoot)
    (u.findRoots (HelperRegistry.ofDocs s.docs).1 c s
      (u.host.logAll (HelperRegistry.ofDocs s.docs).2 t).2).2
  exact hcreated.trans ((findRoots_noted H _ _).trans (logAll_noted H _ t).2)

theorem conclude_noted (start : Start σ) (walked : Report) (t : σ) :
    noted ((u.conclude c s start walked).run t).2 = noted t := by
  refine Preserves.eq_of_view (fun ps => ?_) t
  unfold conclude
  have hothers := H.others ps
  refine Preserves.except_bind ?_ fun _ => (hothers.log _).lift_bind fun _ => .pure _
  refine finish_preserves (fun _ => ?_) hothers.log hothers.pathExists hothers.names
    hothers.updateProject _
  exact writeConfig_preserves hothers.log (fun _ _ _ => hothers.replaceOutput _ _)
    hothers.createDirAll hothers.readText s _ _ _

end Notes

theorem conclude_files {start : Start σ} {walked : Report} {t : σ} {rep : RunReport}
    (h : ((u.conclude c s start walked).run t).1 = .ok rep) :
    rep.files = (({} : Report).merge start.mocks).merge walked := by
  unfold conclude at h
  rw [exceptT_bind] at h
  split at h
  · rename_i report hreport
    obtain rfl : report = rep := Except.ok.inj h
    exact finish_files (u := u) (d := u.host) _ _ _ _ t report hreport
  · simp at h

/-! ## What a run removes -/

/-- The directories of a merged report are those of the walk. -/
theorem merge_of_onlyFiles {mocks walked : Report} (hmocks : mocks.OnlyFiles)
    (hwalked : walked.tracked.Pairwise Path.Apart) :
    ((({} : Report).merge mocks).merge walked).purged = walked.purged ∧
      ((({} : Report).merge mocks).merge walked).tracked = walked.tracked := by
  simp [Report.merge, hmocks.1, hmocks.2, Report.foldl_addTracked_of_apart hwalked]

/-- A policy that purges is that of a run with a key, for a platform that lists its files, after a
change. -/
theorem of_purgeGenerated (h : (u.policy c).purgeGenerated = true) :
    c.args.key.isSome = true ∧ c.args.platform = .ios ∧ u.change.any = true := by
  unfold policy known RegenerationPolicy.ofArgs at h
  simp only [Bool.and_eq_true] at h
  obtain ⟨⟨hincremental, hplatform⟩, hchange⟩ := h
  refine ⟨hincremental, ?_, by simpa [hincremental] using hchange⟩
  cases hp : c.args.platform with
  | ios => rfl
  | web | android | other name => simp [hp, Platform.tracksGeneratedFiles] at hplatform

/-- Whatever the host does, what a run removes are directories below its output, for files of
generated sources that its walk meets there: each at most once, before the expansion of any such
file of the directory, and only if there is a key, the platform is iOS and something has changed.
The reported ones are among those that are tracked, and these are listed once. -/
theorem run_removes {noted : σ → List Path} (H : u.host.NotesRemovals noted) (t : σ)
    (hstart : noted t = []) :
    let removed := noted ((u.run c s).run t).2
    (∀ p ∈ removed, c.outputRoot.components <+: p.components ∧
      ∃ v ∈ u.visits c s t, DocNode.at? s.docs v.place = some v.node ∧
        v.isGenerated (u.policy c).normalDocs = true ∧ v.dir = p) ∧
    removed.Pairwise Path.Apart ∧
    (∀ v ∈ u.visits c s t, v.isGenerated (u.policy c).normalDocs = true →
      ∃ later, removed = noted ((u.ownWalker c s).prepare v.dir v.state v.world).2 ++ later ∧
        ∀ p ∈ later, Path.Apart v.dir p) ∧
    (removed ≠ [] →
      c.args.key.isSome = true ∧ c.args.platform = .ios ∧ u.change.any = true) ∧
    ∀ rep, ((u.run c s).run t).1 = .ok rep →
      rep.files.purged ⊆ rep.files.tracked ∧ rep.files.tracked.Pairwise Path.Apart := by
  intro removed
  cases hs : u.start? c s t with
  | none =>
    have hnone : removed = [] := (run_noted_of_none H hs).trans hstart
    have hvisits : u.visits c s t = [] := by rw [visits, hs]
    refine ⟨by simp [hnone], by simp [hnone], by simp [hvisits], by simp [hnone], fun rep hok => ?_⟩
    rw [run_run, hs] at hok
    simp at hok
  | some start =>
    obtain ⟨hworld, hmocks⟩ := start?_noted H hs
    obtain ⟨horderly, hbelow, hbefore⟩ := Walker.walk_orderly (w := u.ownWalker c s) H
      (render_noted H _) s.docs c.outputRoot (start.context c s) start.world (hworld.trans hstart)
    have hvisits : u.visits c s t = (u.ownWalker c s).visits s.docs c.outputRoot
        (start.context c s) start.world := by rw [visits, hs]
    have hremoved : removed = noted ((u.ownWalker c s).walk s.docs c.outputRoot
        (start.context c s) start.world).2 := by
      simp only [removed, run_run, hs]
      exact conclude_noted H _ _ _
    rw [hvisits, hremoved]
    refine ⟨fun p hp => ?_, ?_, hbefore, fun hsome => ?_, fun rep hok => ?_⟩
    · obtain ⟨hbeneath, v, hv, hgenerated⟩ := hbelow p hp
      exact ⟨hbeneath, v, hv, Walker.at?_of_mem_visits hv, hgenerated⟩
    · have honce := horderly.once
      rwa [← horderly.removed] at honce
    · refine of_purgeGenerated (Bool.not_eq_false _ ▸ fun hidle => hsome ?_)
      exact horderly.removed.trans (horderly.idle hidle)
    · rw [run_run, hs] at hok
      obtain ⟨hpurged, htracked⟩ := merge_of_onlyFiles hmocks horderly.tracked_once
      rw [conclude_files hok, hpurged, htracked]
      exact ⟨horderly.reported, horderly.tracked_once⟩

/-- Two interface nodes in one directory purge it once. -/
theorem run_purges_directory_once :
    let u : RunSetup (StateM Journal) :=
      { host := Journal.host {}, provider := .ofTypes 3, change := { interfaces := true } }
    let c : RunConfig :=
      { args := { action := .update, key := some "k", platform := .ios }
        outputRoot := .ofString "out", configRoot := .ofString "conf" }
    let s : Spec :=
      { docs := [.directory 1 "gen" [.file ⟨2, "a.txt", none, .interface, "A"⟩],
          .file ⟨3, "b.txt", none, .none, "B"⟩,
          .directory 4 "gen" [.file ⟨5, "c.txt", none, .interface, "C"⟩]] }
    let removed := ((u.run c s).run { files := {} }).2.removals
    removed = [.ofString "out/gen"] ∧
      ∀ p ∈ removed, ∃ v ∈ u.visits c s { files := {} }, DocNode.at? s.docs v.place = some v.node ∧
        v.isGenerated (u.policy c).normalDocs = true ∧ v.dir = p := by
  intro u c s removed
  have hrun := (run_settles (u := u) (Journal.host_follows_self {}) (fun _ _ => rfl) c s
    { files := {} }).1
  have hremoved : ((u.carryOut (Journal.host {}) c s).run { files := {} }).2.removals =
      [.ofString "out/gen"] := by decide +kernel
  refine ⟨(congrArg Journal.removals hrun).trans hremoved, fun p hp => ?_⟩
  exact ((run_removes (u := u) (Journal.host_notesRemovals {}) { files := {} } rfl).1 p hp).2

end RunSetup

end Scaffold

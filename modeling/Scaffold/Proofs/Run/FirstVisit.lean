import Mathlib
import Scaffold.Proofs.Run.Removal

/-!
# Tracked directories in the order of their first visits

A walk tracks the directories of the nodes that expand over interfaces or data types, each where it
is met first, whatever the host does. Mock data tracks nothing. So the merged report of a run
tells each of these directories once, in the order in which the tree leads to them.
-/

namespace Scaffold

variable {σ : Type}

/-- The directories of the visits that generate files from interfaces or data types. -/
def Visit.generatedDirs (normalDocs : Bool) (vs : List (Visit σ)) : List Path :=
  (vs.filter (Visit.isGenerated normalDocs)).map Visit.dir

namespace Walker

variable {w : Walker (StateM σ)}

theorem tracked_prepare (dir : Path) (s : WalkState) (t : σ) :
    (w.prepare dir s t).1.report.tracked = Report.addTracked s.report.tracked dir := by
  unfold prepare
  split
  · obtain ⟨emptied, hpurged⟩ := purge_fst (w := w) dir s t
    rw [stateM_bind, hpurged]
    rfl
  · rfl

theorem CountsOne.tracked {s s' : WalkState} (h : CountsOne s s') :
    s'.report.tracked = s.report.tracked := by
  obtain ⟨o, rfl⟩ := h
  exact Report.tracked_count s.report o

theorem tracked_emitEach (f : DocFile) (dir : Path) (cs : List RenderContext) (s : WalkState)
    (t : σ) : (w.emitEach f dir cs s t).1.report.tracked = s.report.tracked := by
  induction cs generalizing s t with
  | nil => rfl
  | cons c cs ih =>
    rw [emitEach_cons_apply, ih]
    exact (emit_countsOne f dir (inContext c s) t).tracked

theorem tracked_walkFile (f : DocFile) (dir : Path) (s : WalkState) (t : σ) :
    (w.walkFile f dir s t).1.report.tracked =
      if f.isGenerated w.policy.normalDocs then Report.addTracked s.report.tracked dir
      else s.report.tracked := by
  rw [walkFile_apply]
  unfold DocFile.isGenerated
  cases hasset : !f.isText && w.policy.normalDocs with
  | true =>
    rw [if_pos rfl, (fetchAsset_countsOne f dir s t).tracked]
    simp
  | false =>
    rw [if_neg Bool.false_ne_true, tracked_emitEach]
    unfold ready
    cases f.dataSource.isTracked with
    | true => exact tracked_prepare dir s t
    | false => rfl

/-- Visits track their directories in turn, whatever the host does. -/
theorem tracked_of_leads {a b : WalkState × σ} {vs : List (Visit σ)} (h : Leads w a vs b) :
    b.1.report.tracked =
      (Visit.generatedDirs w.policy.normalDocs vs).foldl Report.addTracked
        a.1.report.tracked := by
  induction vs generalizing a with
  | nil =>
    obtain rfl : b = a := h
    rfl
  | cons v vs ih =>
    obtain ⟨rfl, hrest⟩ := h
    rw [ih hrest]
    unfold Visit.generatedDirs Visit.work Visit.isGenerated Visit.start
    cases hnode : v.node with
    | file f =>
      dsimp only
      rw [tracked_walkFile]
      cases hgenerated : f.isGenerated w.policy.normalDocs <;> simp [hnode, hgenerated]
    | directory id name children =>
      dsimp only
      cases (w.enter name v.dir v.state v.world).1 <;> simp [hnode, onReport, Report.fail]

theorem tracked_walk (docs : List DocNode) (dir : Path) (c : RenderContext) (t : σ) :
    (w.walk docs dir c t).1.report.tracked =
      (Visit.generatedDirs w.policy.normalDocs (w.visits docs dir c t)).eraseDupsBy
        Path.same := by
  rw [tracked_of_leads (walk_leads docs dir c t)]
  exact Report.foldl_addTracked_nil _

theorem tracksOnce_walkNodes (docs : List DocNode) (dir : Path) {s : WalkState}
    (h : s.report.TracksOnce) (t : σ) : (w.walkNodes dir docs s t).1.report.TracksOnce := by
  unfold Report.TracksOnce
  rw [tracked_of_leads (walkNodes_leads [] 0 dir docs s t)]
  exact Report.pairwise_foldl_addTracked _ _ h

theorem tracksOnce_walk (docs : List DocNode) (dir : Path) (c : RenderContext) (t : σ) :
    (w.walk docs dir c t).1.report.TracksOnce := by
  apply tracksOnce_walkNodes
  exact List.Pairwise.nil

end Walker

theorem Report.OnlyFiles.tracksOnce {r : Report} (h : r.OnlyFiles) : r.TracksOnce := by
  rw [TracksOnce, h.2]
  exact List.Pairwise.nil

theorem Mock.onlyFiles_writeAll (w : Setup (StateM σ)) (s : Spec) (apiRoot viewRoot : Option Path)
    (t : σ) : (writeAll w s apiRoot viewRoot t).1.2.OnlyFiles := by
  -- the report does not depend on the host, so no invariant is needed
  have hhost : w.host.Preserves fun _ => True := by
    constructor <;> intros <;> exact fun _ _ => trivial
  exact (writeAll_ensures hhost s apiRoot viewRoot t trivial).2

namespace RunSetup

variable {u : RunSetup (StateM σ)} {c : RunConfig} {s : Spec} {t : σ}

theorem onlyFiles_of_start? {start : Start σ} (h : u.start? c s t = some start) :
    start.mocks.OnlyFiles := by
  unfold start? at h
  dsimp only at h
  split at h
  · obtain rfl := Option.some.inj h
    unfold writeMocks
    split
    · exact Mock.onlyFiles_writeAll _ s _ _ _
    · exact ⟨rfl, rfl⟩
  · simp at h

/-- What a run tells of files once its walk is over: the mock data, then the tree. -/
def files? (u : RunSetup (StateM σ)) (c : RunConfig) (s : Spec) (t : σ) : Option Report :=
  (u.start? c s t).map fun start =>
    let walked := (u.ownWalker c s).walk s.docs c.outputRoot (start.context c s) start.world
    (({} : Report).merge start.mocks).merge walked.1.report

theorem files?_of_ok {rep : RunReport} (h : ((u.run c s).run t).1 = .ok rep) :
    u.files? c s t = some rep.files := by
  rw [run_run] at h
  unfold files?
  cases hstart : u.start? c s t with
  | none => simp [hstart] at h
  | some start =>
    rw [hstart] at h
    rw [conclude_files h]
    rfl

theorem tracked_of_files? {files : Report} (h : u.files? c s t = some files) :
    files.TracksOnce ∧
      files.tracked =
        (Visit.generatedDirs (u.policy c).normalDocs (u.visits c s t)).eraseDupsBy
          Path.same := by
  unfold files? at h
  obtain ⟨start, hstart, rfl⟩ := Option.map_eq_some_iff.1 h
  have hwalk := Walker.tracksOnce_walk (w := u.ownWalker c s) s.docs c.outputRoot
    (start.context c s) start.world
  obtain ⟨-, htracked⟩ := merge_of_onlyFiles (onlyFiles_of_start? hstart) hwalk
  constructor
  · rw [Report.TracksOnce, htracked]
    exact hwalk
  · rw [htracked, Walker.tracked_walk, visits, hstart]
    rfl

/-- Reports merge associatively, and those that track nothing twice do so with the empty report as
identity. A walk and the mock data come to such reports, and so does their merge in a run, which
tracks the directories of generated files where the walk visits them first. -/
theorem run_merges_reports :
    (∀ a b r : Report, (a.merge b).merge r = a.merge (b.merge r)) ∧
    (∀ a b : Report, a.TracksOnce → (a.merge b).TracksOnce) ∧
    (∀ r : Report, r.merge {} = r ∧ (({} : Report).merge r = r ↔ r.TracksOnce)) ∧
    (∀ (w : Walker (StateM σ)) (docs : List DocNode) (dir : Path) (context : RenderContext)
      (t : σ), (w.walk docs dir context t).1.report.TracksOnce) ∧
    (∀ (w : Mock.Setup (StateM σ)) (s : Spec) (apiRoot viewRoot : Option Path) (t : σ),
      (Mock.writeAll w s apiRoot viewRoot t).1.2.TracksOnce) ∧
    ∀ (u : RunSetup (StateM σ)) (c : RunConfig) (s : Spec) (t : σ),
      (∀ rep, ((u.run c s).run t).1 = .ok rep → u.files? c s t = some rep.files) ∧
      ∀ files, u.files? c s t = some files →
        files.TracksOnce ∧
        files.tracked =
          (Visit.generatedDirs (u.policy c).normalDocs (u.visits c s t)).eraseDupsBy
            Path.same := by
  refine ⟨Report.merge_assoc, fun a b ha => ha.merge b, fun r => ?_, ?_, ?_, ?_⟩
  · exact ⟨Report.merge_empty r, Report.empty_merge_eq_self_iff⟩
  · intro w docs dir context t
    exact Walker.tracksOnce_walk docs dir context t
  · intro w s apiRoot viewRoot t
    exact (Mock.onlyFiles_writeAll w s apiRoot viewRoot t).tracksOnce
  · intro u c s t
    exact ⟨fun rep hok => files?_of_ok hok, fun files hfiles => tracked_of_files? hfiles⟩

/-- Two nodes of one directory track it once, in front of the directory that is met between
them. -/
theorem run_merges_reports_of_tree :
    let a : Report := { tracked := [.ofString "/x"] }
    let b : Report := { tracked := [.ofString "/x/.", .ofString "/y"] }
    let u : RunSetup (StateM Journal) :=
      { host := Journal.host {}, provider := .ofTypes 3, change := { interfaces := true } }
    let c : RunConfig :=
      { args :=
          { action := .update, key := some "k", platform := .ios
            iosProjectPath := some (.ofString "app") }
        outputRoot := .ofString "out", configRoot := .ofString "conf" }
    let s : Spec :=
      { info := { attributes := some { mockViewRoot := some 3 } }
        templates := [{ path := "t.html" }], pages := [{ templates := [{ path := "t.html" }] }]
        docs := [.directory 1 "b" [.file ⟨2, "x.txt", none, .interface, "X"⟩],
          .directory 3 "a" [.file ⟨4, "y.txt", none, .dataType, "Y"⟩],
          .directory 5 "b" [.file ⟨6, "z.txt", none, .dataType, "Z"⟩]] }
    ((a.merge b).TracksOnce ∧ (a.merge b).tracked = [.ofString "/x", .ofString "/y"]) ∧
      ∃ rep, ((u.run c s).run { files := {} }).1 = .ok rep ∧ rep.files.TracksOnce ∧
        rep.files.tracked = [.ofString "out/b", .ofString "out/a"] := by
  intro a b u c s
  obtain ⟨-, hmerge, -, -, -, hruns⟩ := run_merges_reports (σ := Journal)
  obtain ⟨hok, hfiles⟩ := hruns u c s { files := {} }
  refine ⟨⟨hmerge a b (List.pairwise_singleton _ _), by decide +kernel⟩, ?_⟩
  have hdone : ((u.carryOut (Journal.host {}) c s).run (id { files := {} })).1.toOption.any
      (fun _ => true) = true := by
    decide +kernel
  obtain ⟨rep, hrep, -⟩ := run_ok_of_any (u := u) (Journal.host_follows_self {}) (fun _ _ => rfl)
    (Journal.not_refusesUpdate {}) c s { files := {} } hdone
  obtain ⟨honce, htracked⟩ := hfiles rep.files (hok rep hrep)
  refine ⟨rep, hrep, honce, htracked.trans ?_⟩
  decide +kernel

end RunSetup

end Scaffold

import Mathlib
import Scaffold.Proofs.Plan.Again
import Scaffold.Proofs.Run.Keeping
import Scaffold.Proofs.Run.ServerText

/-!
# Runs that are repeated

A run that overwrites nothing and purges nothing has done its work when it succeeds. The same run
on what it has left writes only its own configuration, and outputs whose marker asks for it; these
get the contents that they have.
-/

namespace Scaffold

open WriteDirective (target first?)

namespace RunSetup

variable {m : Type → Type} {u : RunSetup m} {c : RunConfig} {s : Spec} {r : Refusals}
  {t g : FileTree}

/-! ## Configuration and project -/

/-- A program that succeeds and changes nothing. -/
def Idle {ε α : Type} (x : ExceptT ε (StateM FileTree) α) : Prop :=
  ∀ t, ∃ a, x.run t = (.ok a, t)

namespace Idle

variable {ε α β : Type}

theorem pure (a : α) : Idle (Pure.pure a : ExceptT ε (StateM FileTree) α) :=
  fun _ => ⟨a, rfl⟩

theorem lift_bind {z : StateM FileTree β} {f : β → ExceptT ε (StateM FileTree) α}
    (hz : ∀ t, (z t).2 = t) (hf : ∀ b, Idle (f b)) : Idle (ExceptT.lift z >>= f) := by
  intro t
  rw [exceptT_lift_bind, hz]
  exact hf _ t

theorem bind {x : ExceptT ε (StateM FileTree) β} {f : β → ExceptT ε (StateM FileTree) α}
    (hx : Idle x) (hf : ∀ b, Idle (f b)) : Idle (x >>= f) := by
  intro t
  obtain ⟨b, hb⟩ := hx t
  rw [exceptT_bind, hb]
  exact hf b t

/-- What follows adds nothing to whether a program succeeds, and to what it changes. -/
theorem run_bind {x : ExceptT ε (StateM FileTree) β} {f : β → ExceptT ε (StateM FileTree) α}
    (hf : ∀ b, Idle (f b)) (t : FileTree) :
    ((x >>= f).run t).2 = (x.run t).2 ∧
      ((∃ a, ((x >>= f).run t).1 = .ok a) ↔ ∃ b, (x.run t).1 = .ok b) := by
  rw [exceptT_bind]
  cases (x.run t).1 with
  | error e => simp
  | ok b =>
    obtain ⟨a, ha⟩ := hf b (x.run t).2
    simp [ha]

end Idle

theorem readExisting_snd (p : Path) (t : FileTree) :
    (ServerConfig.readExisting (FileTree.host r) p t).2 = t :=
  Preserves.readExisting (I := (· = t)) (.log (FileTree.silent r))
    (fun _ => .of_reads fun _ => rfl) p t rfl

theorem locateProject_snd (dir : Path) (t : FileTree) :
    ((FileTree.host r).locateProject dir t).2 = t :=
  Preserves.locateProject (I := (· = t)) (.log (FileTree.silent r))
    (fun _ => .of_reads fun _ => rfl) (fun _ => .of_reads fun _ => rfl) dir t rfl

theorem updateProject_idle (change : Change) (tracked : List Path) :
    Idle ((u.onHost (FileTree.host r)).updateProject c change tracked) := by
  unfold updateProject
  split
  · refine .lift_bind (locateProject_snd _) fun manifest => ?_
    cases manifest with
    | none => exact .lift_bind (fun _ => rfl) fun _ => .pure false
    | some manifest => exact fun t => ⟨true, rfl⟩
  · exact .lift_bind (fun _ => rfl) fun _ => .pure false

/-- The end of a run succeeds just if the configuration is kept, and does nothing else. -/
theorem finish_run (change : Change) (mocks : List MockRule) (views : List ViewRule)
    (rep : RunReport) (hincremental : c.args.isIncremental = true) (t : FileTree) :
    let config := ((u.onHost (FileTree.host r)).writeConfig c s rep.roots views mocks).run t
    let finished := ((u.onHost (FileTree.host r)).finish c s change mocks views rep).run t
    finished.2 = config.2 ∧
      ((∃ rep', finished.1 = .ok rep') ↔ ∃ files, config.1 = .ok files) := by
  unfold finish
  rw [if_pos hincremental]
  refine Idle.run_bind (fun files => ?_) t
  dsimp only
  split
  · exact .bind (updateProject_idle change rep.files.tracked) fun _ => .pure _
  · exact .bind (.pure false) fun _ => .pure _

theorem readExisting_fst (p : Path) (t : FileTree) :
    (ServerConfig.readExisting (FileTree.host r) p t).1 =
      (t.readText p).bind ServerConfig.ofText? :=
  ServerConfig.readExisting_eq (FileTree.host r) p t

/-- What the mock server is configured with, given a tree with its configuration so far. -/
def serverContent (c : RunConfig) (s : Spec) (roots : StructuralRoots) (views : List ViewRule)
    (mocks : List MockRule) (t : FileTree) : String :=
  serverText c s roots views mocks
    ((t.readText (c.configRoot.join ServerConfig.serverFile)).bind ServerConfig.ofText?)

/-- The configuration is kept just if its directory is there and two files can be written. -/
theorem writeConfig_steps (roots : StructuralRoots) (views : List ViewRule)
    (mocks : List MockRule) (t : FileTree) :
    let d := FileTree.host r
    let config := ((u.onHost d).writeConfig c s roots views mocks).run t
    let dir := d.createDirAll c.configRoot t
    let engine := d.replaceOutput (c.configRoot.join ServerConfig.engineFile)
      (ServerConfig.text c.engineConfig) dir.2
    let server := d.replaceOutput (c.configRoot.join ServerConfig.serverFile)
      (serverContent c s roots views mocks engine.2) engine.2
    ((∃ files, config.1 = .ok files) → dir.1 = true ∧ engine.1 ≠ none ∧ server.1 ≠ none) ∧
      (dir.1 = true → engine.1 ≠ none → server.1 ≠ none →
        (∃ files, config.1 = .ok files) ∧ config.2 = server.2) := by
  dsimp only
  rw [writeConfig_run (FileTree.silent r)]
  dsimp only
  rw [readExisting_snd, readExisting_fst, ← serverContent]
  cases ((FileTree.host r).createDirAll c.configRoot t).1 with
  | false => simp
  | true =>
    rw [if_pos rfl]
    generalize (FileTree.host r).replaceOutput (c.configRoot.join ServerConfig.serverFile) _ _ =
      server
    cases ((FileTree.host r).replaceOutput (c.configRoot.join ServerConfig.engineFile)
      (ServerConfig.text c.engineConfig) ((FileTree.host r).createDirAll c.configRoot t).2).1 with
    | none => simp
    | some outcome =>
      cases server.1 with
      | none => simp
      | some outcome' => simp

/-- Keeping the configuration writes to its two places, and succeeds again. -/
theorem writeConfig_again {roots : StructuralRoots} {views : List ViewRule}
    {mocks : List MockRule} (hincremental : c.args.isIncremental = true)
    (h : FileTree.Standing t t.cwd)
    (hok : ∃ files,
      (((u.onHost (FileTree.host r)).writeConfig c s roots views mocks).run t).1 = .ok files) :
    let t' := (((u.onHost (FileTree.host r)).writeConfig c s roots views mocks).run t).2
    FileTree.Grown t t' ∧ FileTree.Keeps (ConfigPlace c t) t t' ∧
      ∀ g roots' views' mocks', FileTree.Grown t' g →
        let again := ((u.onHost (FileTree.host r)).writeConfig c s roots' views' mocks').run g
        (∃ files', again.1 = .ok files') ∧
          ∃ m, FileTree.Overlaid m g again.2 ∧ ∀ loc, ¬ ConfigPlace c t loc → m loc = none := by
  have hsteps := writeConfig_steps (u := u) (c := c) (s := s) (r := r) roots views mocks t
  obtain ⟨hcreated, hengine, hserver⟩ := hsteps.1 hok
  have htree := (hsteps.2 hcreated hengine hserver).2
  dsimp only at hcreated hengine hserver htree ⊢
  have hbuilt := FileTree.createDirAll_cases r c.configRoot t
  obtain ⟨loc, hwrote, hagain⟩ := FileTree.replaceOutput_again r hengine
  obtain ⟨loc', hwrote', hagain'⟩ := FileTree.replaceOutput_again r hserver
  rw [htree]
  have hplace : ConfigPlace c t loc :=
    ⟨hincremental, .inl (FileTree.destination_of_locate hbuilt.cwd hwrote.locate)⟩
  have hplace' : ConfigPlace c t loc' :=
    ⟨hincremental,
      .inr (FileTree.destination_of_locate (hwrote.cwd.trans hbuilt.cwd) hwrote'.locate)⟩
  refine ⟨hbuilt.grown.trans (hwrote.grown.trans hwrote'.grown),
    hbuilt.keeps.trans ((hwrote.keeps (.inl hplace)).trans (hwrote'.keeps (.inl hplace'))), ?_⟩
  intro g roots' views' mocks' hgrown
  have hsteps' := writeConfig_steps (u := u) (c := c) (s := s) (r := r) roots' views' mocks' g
  obtain ⟨hsame, hcreated', -⟩ := FileTree.createDirAll_again r h
    (hwrote.grown.trans (hwrote'.grown.trans hgrown))
  dsimp only at hsteps' ⊢
  rw [hsame] at hsteps'
  obtain ⟨hengine', hrewrote⟩ :=
    hagain g (ServerConfig.text c.engineConfig) (hwrote'.grown.trans hgrown)
  obtain ⟨hserver', hrewrote'⟩ :=
    hagain' _ (serverContent c s roots' views' mocks' _) (hgrown.trans hrewrote.grown)
  obtain ⟨hok', htree'⟩ := hsteps'.2 (hcreated' hcreated) hengine' hserver'
  refine ⟨hok', _, htree' ▸ (FileTree.Overlaid.of_wrote hrewrote).trans (.of_wrote hrewrote'), ?_⟩
  intro l hl
  have hne : l ≠ loc := by
    rintro rfl
    exact hl hplace
  have hne' : l ≠ loc' := by
    rintro rfl
    exact hl hplace'
  simp [FileTree.Overlay.single, hne, hne']

/-- The end of a run changes nothing but the configuration, and succeeds again. -/
theorem finish_again (change : Change) (mocks : List MockRule) (views : List ViewRule)
    {rep : RunReport} (h : FileTree.Standing t t.cwd)
    (hok : ∃ rep',
      (((u.onHost (FileTree.host r)).finish c s change mocks views rep).run t).1 = .ok rep') :
    let t' := (((u.onHost (FileTree.host r)).finish c s change mocks views rep).run t).2
    FileTree.Grown t t' ∧ FileTree.Keeps (ConfigPlace c t) t t' ∧
      ∀ g rep', FileTree.Grown t' g →
        let again := ((u.onHost (FileTree.host r)).finish c s change mocks views rep').run g
        (∃ rep'', again.1 = .ok rep'') ∧
          ∃ m, FileTree.Overlaid m g again.2 ∧ ∀ loc, ¬ ConfigPlace c t loc → m loc = none := by
  by_cases hincremental : c.args.isIncremental = true
  · have hfinish := fun rep t => finish_run (u := u) (c := c) (s := s) (r := r) change mocks views
      rep hincremental t
    dsimp only at hfinish ⊢
    obtain ⟨hgrown, hkeeps, hagain⟩ :=
      writeConfig_again hincremental h ((hfinish rep t).2.1 hok)
    rw [(hfinish rep t).1]
    refine ⟨hgrown, hkeeps, fun g rep' hgrown' => ?_⟩
    obtain ⟨hok', m, hoverlaid, hnone⟩ := hagain g rep'.roots views mocks hgrown'
    rw [(hfinish rep' g).1]
    exact ⟨(hfinish rep' g).2.2 hok', m, hoverlaid, hnone⟩
  · have hfinish : ∀ rep t, ((u.onHost (FileTree.host r)).finish c s change mocks views rep).run t =
        (.ok rep, t) := by
      intro rep t
      unfold finish
      rw [if_neg hincremental]
      rfl
    simp only [hfinish]
    exact ⟨.refl t, .refl t, fun g rep' _ =>
      ⟨⟨rep', rfl⟩, .empty, .refl g, fun _ _ => rfl⟩⟩

/-! ## The same run again -/

/-- Mock data and walk put back what they have left, and report only that. -/
theorem work_again (hoverwrite : c.args.overwrite = false)
    (hpurge : (u.policy c).purgeGenerated = false) (hready : Ready r c.outputRoot t) :
    let d := FileTree.host r
    let mocks := d.putAll c.args.overwrite (u.mocks c s) {}
    let walk := (u.walker d c s).carryOutAll c.outputRoot (plan c s) { context := context c s }
    ∃ m, FileTree.Leaves m t (walk (mocks t).2).2 ∧
      ∀ g, FileTree.Grown (walk (mocks t).2).2 g →
        FileTree.Overlaid m g (walk (mocks g).2).2 ∧
          ∀ p ∈ (mocks g).1.written ++ (walk (mocks g).2).1.report.written,
            MarkedTarget (u.entries c s) p := by
  intro d mocks walk
  have hmocks :
      Repeats id r c.outputRoot (u.mocks c s) (d.putAll c.args.overwrite (u.mocks c s)) := by
    rw [hoverwrite]
    exact .putAll (u.mocks c s)
  have hwalk := (Walker.repeats_compositional (w := u.walker d c s) c.outputRoot rfl hoverwrite
    hpurge).carryOutAll Repeats.enterable_joinRendered c.outputRoot (.inr rfl) (plan c s)
  obtain ⟨m, hleaves, hagain⟩ := hmocks {} t hready
  obtain ⟨n, hleaves', hagain'⟩ := hwalk { context := context c s } (mocks t).2
    (hready.grown hleaves.grown)
  refine ⟨n.onto m, hleaves.trans hleaves', fun g hgrown => ?_⟩
  have hfirst := hleaves'.grown.trans hgrown
  obtain ⟨hoverlaid, hwritten⟩ := hagain {} g hfirst
  obtain ⟨hoverlaid', hwritten'⟩ := hagain' { context := context c s } (mocks g).2
    (hgrown.trans (hoverlaid.grown hleaves hfirst))
  refine ⟨hoverlaid.trans hoverlaid', fun p hp => ?_⟩
  rcases List.mem_append.1 hp with hp | hp
  · rcases hwritten p hp with hp | ⟨e, he, hmarked⟩
    · simp at hp
    · exact ⟨e, List.mem_append_left _ he, hmarked⟩
  · rcases hwritten' p hp with hp | ⟨e, he, hmarked⟩
    · simp at hp
    · exact ⟨e, List.mem_append_right _ he, hmarked⟩

/-- The plan of a run that has succeeded can be carried out again. -/
theorem carryOut_again (hoverwrite : c.args.overwrite = false)
    (hpurge : (u.policy c).purgeGenerated = false) (h : FileTree.Standing t t.cwd)
    {rep : RunReport} (hok : ((u.carryOut (FileTree.host r) c s).run t).1 = .ok rep) :
    let t' := ((u.carryOut (FileTree.host r) c s).run t).2
    let again := (u.carryOut (FileTree.host r) c s).run t'
    ∃ rep', again.1 = .ok rep' ∧ (∀ p ∈ rep'.files.written, MarkedTarget (u.entries c s) p) ∧
      ∀ loc, ¬ ConfigPlace c t loc → again.2.find? loc = t'.find? loc := by
  dsimp only
  rw [carryOut_run] at hok
  rw [carryOut_run t]
  split at hok
  · rename_i hcreated
    rw [if_pos hcreated]
    have hbuilt := FileTree.createDirAll_cases r c.outputRoot t
    have hcreated_again := FileTree.createDirAll_again r (p := c.outputRoot) h (.refl _)
    dsimp only at hok ⊢
    set t₁ := ((FileTree.host r).createDirAll c.outputRoot t).2 with ht₁
    have hready : Ready r c.outputRoot t₁ :=
      ⟨hbuilt.cwd ▸ h.grown hbuilt.grown,
        Prod.ext (hcreated_again.2.1 hcreated) hcreated_again.1⟩
    obtain ⟨m, hleaves, hagain⟩ := work_again (u := u) (s := s) hoverwrite hpurge hready
    set walked := (u.walker (FileTree.host r) c s).carryOutAll c.outputRoot (plan c s)
      { context := context c s }
      ((FileTree.host r).putAll c.args.overwrite (u.mocks c s) {} t₁).2
    have hcwd : walked.2.cwd = t.cwd := hleaves.grown.cwd.trans hbuilt.cwd
    obtain ⟨hgrown, hkeeps, hfinish⟩ := finish_again _ _ _
      (hleaves.grown.cwd ▸ hready.standing.grown hleaves.grown) ⟨_, hok⟩
    set t₃ := (((u.onHost (FileTree.host r)).finish c s _ _ _ _).run walked.2).2
    -- the run again, from `t₃` on
    obtain ⟨hoverlaid, hwritten⟩ := hagain t₃ hgrown
    have hready₃ := hready.grown (hleaves.grown.trans hgrown)
    rw [carryOut_run t₃, hready₃.created]
    simp only [if_true]
    obtain ⟨⟨rep', hrep'⟩, n, hoverlaid', hnone⟩ := hfinish _ (u.report c s _ _)
      (hoverlaid.grown hleaves hgrown)
    refine ⟨rep', hrep', fun p hp => hwritten p ?_, fun loc hloc => ?_⟩
    · rw [finish_files _ _ _ _ _ _ hrep'] at hp
      simpa [report, Report.merge] using hp
    · have hloc' : ¬ ConfigPlace c walked.2 loc := by rwa [configPlace_of_cwd hcwd]
      rw [hoverlaid'.find?, hnone loc hloc', hoverlaid.find?]
      cases hm : m loc with
      | none => simp
      | some content =>
        have hthere := hkeeps.file loc content (hleaves.written loc content hm) hloc'
        simp [hthere]
  · simp at hok

/-- If a run that overwrites nothing and purges nothing succeeds, the same run on what it has left
succeeds too, unless the update of a project is refused. It reports as written only targets of
outputs whose first marker asks for it, and leaves every place but those of the configuration
as it finds it. -/
theorem run_again {σ : Type} {view : σ → FileTree} {u : RunSetup (StateM σ)}
    (hhost : u.host.Follows view (FileTree.host r)) (c : RunConfig) (s : Spec)
    (hoverwrite : c.args.overwrite = false)
    (hpurge : (RegenerationPolicy.ofArgs c.args u.change).purgeGenerated = false) (w w' : σ)
    (hcwd : (view w).Standing (view w).cwd) (rep : RunReport)
    (hok : ((u.run c s).run w).1 = .ok rep) (hw' : view w' = view ((u.run c s).run w).2) :
    let again := (u.run c s).run w'
    ((∃ rep', again.1 = .ok rep' ∧ ∀ p ∈ rep'.files.written, MarkedTarget (u.entries c s) p) ∨
        u.host.RefusesUpdate ∧ ∃ p, again.1 = .error (.projectUpdate p)) ∧
      ∀ loc, ¬ ConfigPlace c (view w) loc → (view again.2).find? loc = (view w').find? loc := by
  intro again
  have hcarried := carryOut_ok hhost (fun _ _ => rfl) hok
  obtain ⟨rep', hok', hwritten, hsame⟩ :=
    carryOut_again hoverwrite (policy_not_purging hpurge) hcwd hcarried
  obtain ⟨hview, hresult⟩ := run_settles hhost (fun _ _ => rfl) c s w'
  rw [hw', (run_settles hhost (fun _ _ => rfl) c s w).1] at hview hresult
  refine ⟨?_, fun loc hloc => ?_⟩
  · rcases hresult with hresult | ⟨hrefuses, p, -, hresult, -⟩
    · exact .inl ⟨rep', hresult.trans hok', hwritten⟩
    · exact .inr ⟨hrefuses, p, hresult⟩
  · rw [hview, hsame loc hloc, hw', (run_settles hhost (fun _ _ => rfl) c s w).1]

/-- A small run is the same on what it has left. -/
theorem run_twice_on_nothing :
    let u : RunSetup (StateM Workspace) :=
      { host := Workspace.host.refusing {}, provider := .ofTypes 3, change := .all }
    let c : RunConfig :=
      { args := { action := .build, key := some "k" }, outputRoot := .ofString "out"
        configRoot := .ofString "conf" }
    let s : Spec :=
      { docs := [.file ⟨1, "!!wa.txt", none, .none, "A"⟩, .file ⟨2, "b.txt", none, .none, "B"⟩] }
    let w : Workspace := {}
    (∃ rep, ((u.run c s).run ((u.run c s).run w).2).1 = .ok rep ∧
        ∀ p ∈ rep.files.written, MarkedTarget (u.entries c s) p) ∧
      ∀ loc, ¬ ConfigPlace c w.files loc →
        ((u.run c s).run ((u.run c s).run w).2).2.files.find? loc =
          ((u.run c s).run w).2.files.find? loc := by
  intro u c s w
  have hfollows := Workspace.host_refusing_follows {}
  have hnever : ¬ u.host.RefusesUpdate := Workspace.not_refusesUpdate {}
  have hresult := run_result (u := u) hfollows (fun _ _ => rfl) hnever c s w
  have hok : ((u.carryOut (FileTree.host {}) c s).run w.files).1.toOption.any (fun _ => true) =
      true := by
    decide +kernel
  obtain ⟨rep, hrep, -⟩ := exists_ok_of_any hok
  obtain ⟨hdone, hsame⟩ :=
    run_again (u := u) hfollows c s rfl rfl w _ (.nil _) rep (hresult.trans hrep) rfl
  refine ⟨?_, hsame⟩
  rcases hdone with hdone | ⟨hrefuses, -⟩
  · exact hdone
  · exact absurd hrefuses hnever

end RunSetup

end Scaffold

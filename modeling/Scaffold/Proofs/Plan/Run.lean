import Mathlib
import Scaffold.Proofs.Host.Disk
import Scaffold.Proofs.Plan.Mock
import Scaffold.Proofs.Plan.Output
import Scaffold.Proofs.Plan.Roots
import Scaffold.Proofs.Plan.Walk
import Scaffold.Run.Generate

/-!
# A run carries out its plan

Everything that a run renders is known before it touches a file: the roots, the mock data and the
plan of its walk. What is left is to create the output, to put the mock data, to carry the plan
out and to keep the configuration. Only the update of the platform's project may come out
differently, and it comes last.
-/

namespace Scaffold

variable {σ τ : Type} {view : σ → τ}

/-- `x` does what `y` does, except that it may fail in the end where a project is updated, if
that is ever refused. -/
def Settles {α : Type} (view : σ → τ) (refuses : Prop) (x : ExceptT RunError (StateM σ) α)
    (y : ExceptT RunError (StateM τ) α) : Prop :=
  ∀ s, view (x.run s).2 = (y.run (view s)).2 ∧
    ((x.run s).1 = (y.run (view s)).1 ∨
      refuses ∧ ∃ p a, (x.run s).1 = .error (.projectUpdate p) ∧ (y.run (view s)).1 = .ok a)

/-- Whether a project is left as it is although its update is asked for. -/
def Host.RefusesUpdate (host : Host (StateM σ)) : Prop :=
  ∃ manifest dirs s, (host.updateProject manifest dirs s).1 = false

theorem Workspace.not_refusesUpdate (r : Refusals) :
    ¬ (Workspace.host.refusing r).RefusesUpdate := by
  rintro ⟨manifest, dirs, w, hrefused⟩
  simp [Host.refusing, Workspace.host] at hrefused

theorem Journal.not_refusesUpdate (r : Refusals) : ¬ (Journal.host r).RefusesUpdate := by
  rintro ⟨manifest, dirs, w, hrefused⟩
  simp [Journal.host] at hrefused

namespace Settles

variable {α β : Type} {refuses : Prop} {x : ExceptT RunError (StateM σ) α}
  {y : ExceptT RunError (StateM τ) α}

theorem pure (a : α) : Settles view refuses (Pure.pure a) (Pure.pure a) :=
  fun _ => ⟨rfl, .inl rfl⟩

theorem error (e : RunError) :
    Settles view refuses (throw e : ExceptT RunError (StateM σ) α) (throw e) :=
  fun _ => ⟨rfl, .inl rfl⟩

theorem ite {c : Prop} [Decidable c] {x' : ExceptT RunError (StateM σ) α}
    {y' : ExceptT RunError (StateM τ) α} (hx : Settles view refuses x y)
    (hx' : Settles view refuses x' y') :
    Settles view refuses (if c then x else x') (if c then y else y') := by
  split
  · exact hx
  · exact hx'

/-- A step whose result is worked out from that of the other side. -/
theorem lift_map_bind {γ : Type} {z : StateM σ β} {z' : StateM τ γ} {k : γ → β}
    {f : β → ExceptT RunError (StateM σ) α} {g : γ → ExceptT RunError (StateM τ) α}
    (hz : Follows view z (k <$> z')) (hf : ∀ c, Settles view refuses (f (k c)) (g c)) :
    Settles view refuses (ExceptT.lift z >>= f) (ExceptT.lift z' >>= g) := by
  intro s
  obtain ⟨hresult, hview⟩ := hz s
  have hnext := hf (z' (view s)).1 (z s).2
  rw [show view (z s).2 = (z' (view s)).2 from hview,
    ← show (z s).1 = k (z' (view s)).1 from hresult] at hnext
  exact hnext

/-- Nothing is settled before a step that cannot fail. -/
theorem lift_bind {z : StateM σ β} {z' : StateM τ β} {f : β → ExceptT RunError (StateM σ) α}
    {g : β → ExceptT RunError (StateM τ) α} (hz : Follows view z z')
    (hf : ∀ b, Settles view refuses (f b) (g b)) :
    Settles view refuses (ExceptT.lift z >>= f) (ExceptT.lift z' >>= g) :=
  lift_map_bind (k := id) (by rwa [id_map]) hf

/-- A step that is not taken on the other side. -/
theorem lift_step {b : β} {z : StateM σ β} {f : β → ExceptT RunError (StateM σ) α}
    (hz : Follows view z (Pure.pure b)) (hf : Settles view refuses (f b) y) :
    Settles view refuses (ExceptT.lift z >>= f) y := by
  intro s
  obtain ⟨hresult, hview⟩ := hz s
  have hnext := hf (z s).2
  rw [show view (z s).2 = view s from hview] at hnext
  rw [← show (z s).1 = b from hresult] at hnext
  exact hnext

theorem bind {f : α → ExceptT RunError (StateM σ) β} {g : α → ExceptT RunError (StateM τ) β}
    (hx : Follows view x.run y.run) (hf : ∀ a, Settles view refuses (f a) (g a)) :
    Settles view refuses (x >>= f) (y >>= g) := by
  intro s
  obtain ⟨hresult, hview⟩ := hx s
  rw [ExceptT.run_bind, ExceptT.run_bind, stateM_bind, stateM_bind, ← hresult, ← hview]
  cases (x.run s).1 with
  | error e => exact ⟨rfl, .inl rfl⟩
  | ok a => exact hf a (x.run s).2

/-- What has been settled is handed on. -/
theorem bind_result {f : α → ExceptT RunError (StateM σ) β} {g : α → β}
    (hx : Settles view refuses x y)
    (hf : ∀ a, Follows view (f a).run (Pure.pure (Except.ok (g a)))) :
    Settles view refuses (x >>= f) (y >>= fun a => Pure.pure (g a)) := by
  intro s
  obtain ⟨hview, hresult⟩ := hx s
  rw [ExceptT.run_bind, ExceptT.run_bind, stateM_bind, stateM_bind, ← hview]
  rcases hresult with hresult | ⟨hrefuses, p, a, hresult, hother⟩
  · rw [← hresult]
    cases (x.run s).1 with
    | error e => exact ⟨rfl, .inl rfl⟩
    | ok a =>
      obtain ⟨hnext, hquiet⟩ := hf a (x.run s).2
      exact ⟨hquiet, .inl hnext⟩
  · rw [hresult, hother]
    exact ⟨rfl, .inr ⟨hrefuses, p, g a, rfl, rfl⟩⟩

/-- What is told in the end changes nothing. -/
theorem bind_told {z : α → StateM σ Unit} (hx : Settles view refuses x y)
    (hz : ∀ a, Follows view (z a) (Pure.pure ())) :
    Settles view refuses (x >>= fun a => ExceptT.lift (z a) >>= fun _ => Pure.pure a) y := by
  have htold : ∀ a, Follows view
      (ExceptT.lift (z a) >>= fun _ => Pure.pure a : ExceptT RunError (StateM σ) α).run
      (Pure.pure (Except.ok (id a))) := fun a s => ⟨rfl, (hz a s).2⟩
  have h := hx.bind_result htold
  have hsame : (y >>= fun a => Pure.pure (id a)) = y := by simp
  rwa [hsame] at h

/-- The update of a project, which succeeds on the other side. -/
theorem update {z : StateM σ Bool} (hz : Quiet view z)
    (hrefuses : ∀ s, (z s).1 = false → refuses) (p : Path) :
    Settles view refuses (ExceptT.lift z >>= fun ok => if ok then Pure.pure true else
      throw (.projectUpdate p)) (Pure.pure true) := by
  intro s
  have hview := hz s
  rw [ExceptT.run_bind, ExceptT.run_lift, bind_map_left, stateM_bind]
  cases hz : (z s).1 with
  | true => exact ⟨hview, .inl rfl⟩
  | false => exact ⟨hview, .inr ⟨hrefuses s hz, p, true, rfl, rfl⟩⟩

end Settles

namespace RunSetup

section Plan

variable {m n : Type → Type}

/-- Render with the helpers of a project. -/
def rendering (s : Spec) : Rendering := fun template data =>
  ((HelperRegistry.ofDocs s.docs).1.render template data).1

def roots (c : RunConfig) (s : Spec) : StructuralRoots :=
  .found s.docs s.info.attributes c.outputRoot fun name =>
    rendering s name (RenderContext.ofSpec s c.args).data

/-- What has changed, as far as the run is to know. -/
def known (u : RunSetup m) (c : RunConfig) : Option Change :=
  if c.args.isIncremental then some u.change else none

def mocks (u : RunSetup m) (c : RunConfig) (s : Spec) : List (Path × String) :=
  if c.args.isIncremental then
    Mock.entries u.provider s (roots c s).mockApiRoot (roots c s).mockViewRoot
  else []

def mockRules (c : RunConfig) (s : Spec) : List MockRule :=
  if c.args.isIncremental then Mock.rules s (roots c s).mockApiRoot else []

def viewRules (c : RunConfig) (s : Spec) : List ViewRule :=
  if c.args.isIncremental then ViewRule.ofPages s.pages else []

def context (c : RunConfig) (s : Spec) : RenderContext :=
  walkContext c s (roots c s) (mockRules c s) (viewRules c s)

def plan (c : RunConfig) (s : Spec) : List Plan :=
  Plan.ofNodes (rendering s) c.args.normalDocs (context c s) s.docs

/-- Everything that a run puts somewhere: mock data, then the files of the tree. -/
def entries (u : RunSetup m) (c : RunConfig) (s : Spec) : List (Path × String) :=
  u.mocks c s ++ (Plan.outputsAll c.outputRoot (plan c s)).map Plan.Output.entry

def policy (u : RunSetup m) (c : RunConfig) : RegenerationPolicy :=
  .ofArgs c.args ((u.known c).getD {})

/-- The run's walker on another host. -/
def walker [Monad n] (u : RunSetup m) (d : Host n) (c : RunConfig) (s : Spec) : Walker n where
  host := d
  render template data := pure (rendering s template data)
  overwrite := c.args.overwrite
  policy := u.policy c

def onHost (u : RunSetup m) (d : Host n) : RunSetup n :=
  { u with host := d }

/-- The report before the configuration is kept. -/
def report (u : RunSetup m) (c : RunConfig) (s : Spec) (mocks walked : Report) : RunReport :=
  { files := (({} : Report).merge mocks).merge walked
    change := u.known c
    roots := roots c s
    helpers := (HelperRegistry.ofDocs s.docs).1.names.length }

/-- The run as a plan, with nothing rendered and nothing told. -/
def carryOut [Monad n] (u : RunSetup m) (d : Host n) (c : RunConfig) (s : Spec) :
    ExceptT RunError n RunReport := do
  if !(← d.createDirAll c.outputRoot) then throw (.outputRoot c.outputRoot)
  let mocks ← d.putAll c.args.overwrite (u.mocks c s) {}
  let walked ← (u.walker d c s).carryOutAll c.outputRoot (plan c s) { context := context c s }
  (u.onHost d).finish c s ((u.known c).getD {}) (mockRules c s) (viewRules c s)
    (u.report c s mocks walked.report)

end Plan

section Follows

variable {d : Host (StateM τ)} {u : RunSetup (StateM σ)}

theorem render_follows (H : u.host.Follows view d) (s : Spec) (template : String) (data : Json) :
    Follows view (u.render (HelperRegistry.ofDocs s.docs).1 template data)
      (pure (rendering s template data)) :=
  (H.logAll _).step (.pure _)

theorem findRoots_follows (H : u.host.Follows view d) (c : RunConfig) (s : Spec) :
    Follows view (u.findRoots (HelperRegistry.ofDocs s.docs).1 c s) (pure (roots c s)) :=
  StructuralRoots.discover_follows (fun name => render_follows H s name _) H.log _ _ _

theorem knownChange_follows (H : u.host.Follows view d) (c : RunConfig) :
    Follows view (u.knownChange c.args) (pure (u.known c)) := by
  unfold knownChange known
  split
  · exact (H.log _).step (.pure _)
  · exact .pure none

theorem writeMocks_follows (H : u.host.Follows view d) (c : RunConfig) (s : Spec) :
    Follows view (u.writeMocks c.args s (roots c s))
      ((mockRules c s, ·) <$> d.putAll c.args.overwrite (u.mocks c s) {}) := by
  unfold writeMocks mockRules mocks
  split
  · exact Mock.writeAll_follows (w := ⟨u.host, c.args.overwrite, u.provider⟩) H s _ _
  · simpa using Follows.pure (([], {}) : List MockRule × Report)

theorem walk_follows (H : u.host.Follows view d) (c : RunConfig) (s : Spec) :
    Follows view
      (Walker.walk { host := u.host, render := u.render (HelperRegistry.ofDocs s.docs).1
                     overwrite := c.args.overwrite, policy := u.policy c }
        s.docs c.outputRoot (context c s))
      ((u.walker d c s).carryOutAll c.outputRoot (plan c s) { context := context c s }) :=
  Walker.walk_follows
    (w := { host := u.host, render := u.render (HelperRegistry.ofDocs s.docs).1
            overwrite := c.args.overwrite, policy := u.policy c })
    H (render_follows H s) s.docs c.outputRoot (context c s)

theorem writeConfigFile_follows (H : u.host.Follows view d) (path : Path) (v : Json) :
    Follows view (u.writeConfigFile path v).run ((u.onHost d).writeConfigFile path v).run := by
  unfold writeConfigFile
  refine (H.replaceOutput path _).lift_bind fun result => ?_
  cases result with
  | some outcome => exact .pure _
  | none => exact .pure _

theorem readExisting_follows (H : u.host.Follows view d) (path : Path) :
    Follows view (ServerConfig.readExisting u.host path) (ServerConfig.readExisting d path) := by
  unfold ServerConfig.readExisting
  refine (H.readText path).bind fun text => ?_
  cases text with
  | none => exact .pure none
  | some content =>
    dsimp only
    cases ServerConfig.ofText? content with
    | some v => exact .pure (some v)
    | none => exact (H.log_eq _).bind fun _ => .pure none

theorem writeConfig_follows (H : u.host.Follows view d) (c : RunConfig) (s : Spec)
    (roots : StructuralRoots) (views : List ViewRule) (mocks : List MockRule) :
    Follows view (u.writeConfig c s roots views mocks).run
      ((u.onHost d).writeConfig c s roots views mocks).run := by
  unfold writeConfig
  refine (H.createDirAll c.configRoot).lift_bind fun created => ?_
  cases created with
  | false => exact .pure _
  | true =>
    refine (writeConfigFile_follows H _ _).except_bind fun _ => ?_
    refine (readExisting_follows H _).lift_bind fun existing => ?_
    refine (writeConfigFile_follows H _ _).except_bind fun _ => ?_
    exact (H.log_eq _).lift_bind fun _ => .pure _

theorem updateProject_settles (H : u.host.Follows view d)
    (hupdate : ∀ manifest dirs, d.updateProject manifest dirs = pure true) (c : RunConfig)
    (change : Change) (tracked : List Path) :
    Settles view u.host.RefusesUpdate (u.updateProject c change tracked)
      ((u.onHost d).updateProject c change tracked) := by
  unfold updateProject
  refine .ite ?_ ?_
  · refine .lift_bind (H.locateProject _) fun manifest => ?_
    cases manifest with
    | none => exact .lift_bind (H.log_eq _) fun _ => .pure false
    | some manifest =>
      dsimp only [onHost]
      rw [hupdate]
      exact .update (H.updateProject manifest tracked)
        (fun s hrefused => ⟨manifest, tracked, s, hrefused⟩) manifest.file
  · exact .lift_bind (H.log_eq _) fun _ => .pure false

theorem finish_settles (H : u.host.Follows view d)
    (hupdate : ∀ manifest dirs, d.updateProject manifest dirs = pure true) (c : RunConfig)
    (s : Spec) (change : Change) (mocks : List MockRule) (views : List ViewRule) (r : RunReport) :
    Settles view u.host.RefusesUpdate (u.finish c s change mocks views r)
      ((u.onHost d).finish c s change mocks views r) := by
  unfold finish
  refine .ite ?_ (.pure r)
  refine .bind (writeConfig_follows H c s r.roots views mocks) fun configFiles => ?_
  refine .ite ?_ (.pure _)
  exact .bind_result (updateProject_settles H hupdate c change r.files.tracked) fun _ => .pure _

/-- A run carries out its plan. -/
theorem run_settles (H : u.host.Follows view d)
    (hupdate : ∀ manifest dirs, d.updateProject manifest dirs = pure true) (c : RunConfig)
    (s : Spec) : Settles view u.host.RefusesUpdate (u.run c s) (u.carryOut d c s) := by
  unfold run carryOut
  refine .lift_step (H.logAll _) (.lift_step (findRoots_follows H c s) ?_)
  refine .lift_bind (H.createDirAll c.outputRoot) fun created => ?_
  cases created with
  | false => exact .error _
  | true =>
    refine .lift_step (knownChange_follows H c) ?_
    refine .lift_map_bind (writeMocks_follows H c s) fun mocks => ?_
    refine .lift_bind (walk_follows H c s) fun walked => ?_
    have hfinish := finish_settles H hupdate c s ((u.known c).getD {}) (mockRules c s)
      (viewRules c s) (u.report c s mocks walked.report)
    exact hfinish.bind_told fun _ => H.log _

theorem exists_ok_of_any {ε α : Type} {x : Except ε α} {test : α → Bool}
    (h : x.toOption.any test = true) : ∃ a, x = .ok a ∧ test a = true := by
  cases x with
  | error e => simp [Except.toOption] at h
  | ok a => exact ⟨a, rfl, by simpa [Except.toOption] using h⟩

/-- A run that succeeds reports what its plan comes to. -/
theorem carryOut_ok (H : u.host.Follows view d)
    (hupdate : ∀ manifest dirs, d.updateProject manifest dirs = pure true) {c : RunConfig}
    {s : Spec} {w : σ} {rep : RunReport} (hok : ((u.run c s).run w).1 = .ok rep) :
    ((u.carryOut d c s).run (view w)).1 = .ok rep := by
  rcases (run_settles H hupdate c s w).2 with hsame | ⟨-, p, a, hfailed, -⟩
  · rw [← hsame, hok]
  · rw [hok] at hfailed
    simp at hfailed

/-- Where no update is refused, a run comes to what its plan comes to. -/
theorem run_result (H : u.host.Follows view d)
    (hupdate : ∀ manifest dirs, d.updateProject manifest dirs = pure true)
    (hnever : ¬ u.host.RefusesUpdate) (c : RunConfig) (s : Spec) (w : σ) :
    ((u.run c s).run w).1 = ((u.carryOut d c s).run (view w)).1 := by
  rcases (run_settles H hupdate c s w).2 with hsame | ⟨hrefuses, -⟩
  · exact hsame
  · exact absurd hrefuses hnever

/-- Where no update is refused, a run succeeds with what its plan succeeds with. -/
theorem run_ok_of_any (H : u.host.Follows view d)
    (hupdate : ∀ manifest dirs, d.updateProject manifest dirs = pure true)
    (hnever : ¬ u.host.RefusesUpdate) (c : RunConfig) (s : Spec) (w : σ)
    {test : RunReport → Bool}
    (h : ((u.carryOut d c s).run (view w)).1.toOption.any test = true) :
    ∃ rep, ((u.run c s).run w).1 = .ok rep ∧ test rep = true := by
  refine exists_ok_of_any ?_
  rwa [run_result H hupdate hnever c s w]

end Follows

/-! ## The parts of a run -/

section Parts

variable {m : Type → Type} {u : RunSetup m} {d : Host (StateM τ)} {c : RunConfig} {s : Spec}

/-- A run that creates its output puts the mock data, carries out its plan and finishes. -/
theorem carryOut_run (t : τ) :
    (u.carryOut d c s).run t =
      if (d.createDirAll c.outputRoot t).1 then
        let mocks := d.putAll c.args.overwrite (u.mocks c s) {} (d.createDirAll c.outputRoot t).2
        let walked := (u.walker d c s).carryOutAll c.outputRoot (plan c s)
          { context := context c s } mocks.2
        ((u.onHost d).finish c s ((u.known c).getD {}) (mockRules c s) (viewRules c s)
          (u.report c s mocks.1 walked.1.report)).run walked.2
      else (.error (.outputRoot c.outputRoot), (d.createDirAll c.outputRoot t).2) := by
  refine (exceptT_lift_bind (d.createDirAll c.outputRoot) _ t).trans ?_
  cases (d.createDirAll c.outputRoot t).1 with
  | false => rfl
  | true => rfl

/-- Nothing comes after a configuration file that cannot be written. -/
theorem writeConfigFile_bind {α : Type} (path : Path) (v : Json)
    (f : Unit → ExceptT RunError (StateM τ) α) (t : τ) :
    ((u.onHost d).writeConfigFile path v >>= f).run t =
      match (d.replaceOutput path (ServerConfig.text v) t).1 with
      | some _ => (f ()).run (d.replaceOutput path (ServerConfig.text v) t).2
      | none => (.error (.configFile path), (d.replaceOutput path (ServerConfig.text v) t).2) := by
  have hfile : ((u.onHost d).writeConfigFile path v).run t =
      (match (d.replaceOutput path (ServerConfig.text v) t).1 with
        | some _ => .ok ()
        | none => .error (.configFile path),
       (d.replaceOutput path (ServerConfig.text v) t).2) := by
    refine (exceptT_lift_bind (d.replaceOutput path (ServerConfig.text v)) _ t).trans ?_
    cases (d.replaceOutput path (ServerConfig.text v) t).1 with
    | none => rfl
    | some outcome => rfl
  rw [exceptT_bind, hfile]
  cases (d.replaceOutput path (ServerConfig.text v) t).1 with
  | none => rfl
  | some outcome => rfl

/-- What the mock server is configured with, given what it was configured with before. -/
def serverText (c : RunConfig) (s : Spec) (roots : StructuralRoots) (views : List ViewRule)
    (mocks : List MockRule) (existing : Option Json) : String :=
  ServerConfig.text
    (ServerConfig.encode c roots s.info (ServerRule.sorted views mocks) existing)

/-- The configuration is kept if its directory is there and both files are written. -/
theorem writeConfig_run (hsilent : d.Silent) (roots : StructuralRoots) (views : List ViewRule)
    (mocks : List MockRule) (t : τ) :
    ((u.onHost d).writeConfig c s roots views mocks).run t =
      if (d.createDirAll c.configRoot t).1 then
        let enginePath := c.configRoot.join ServerConfig.engineFile
        let serverPath := c.configRoot.join ServerConfig.serverFile
        let engine := d.replaceOutput enginePath (ServerConfig.text c.engineConfig)
          (d.createDirAll c.configRoot t).2
        match engine.1 with
        | none => (.error (.configFile enginePath), engine.2)
        | some _ =>
          let existing := ServerConfig.readExisting d serverPath engine.2
          let server :=
            d.replaceOutput serverPath (serverText c s roots views mocks existing.1) existing.2
          match server.1 with
          | none => (.error (.configFile serverPath), server.2)
          | some _ => (.ok [enginePath, serverPath], server.2)
      else (.error (.configRoot c.configRoot), (d.createDirAll c.configRoot t).2) := by
  refine (exceptT_lift_bind (d.createDirAll c.configRoot) _ t).trans ?_
  cases (d.createDirAll c.configRoot t).1 with
  | false => rfl
  | true =>
    refine (writeConfigFile_bind _ _ _ _).trans ?_
    dsimp only
    cases (d.replaceOutput (c.configRoot.join ServerConfig.engineFile)
      (ServerConfig.text c.engineConfig) (d.createDirAll c.configRoot t).2).1 with
    | none => rfl
    | some outcome =>
      refine (exceptT_lift_bind (ServerConfig.readExisting d _) _ _).trans ?_
      refine (writeConfigFile_bind _ _ _ _).trans ?_
      unfold serverText
      generalize d.replaceOutput (c.configRoot.join ServerConfig.serverFile) _ _ = server
      obtain ⟨result, t'⟩ := server
      cases result with
      | none => simp
      | some outcome' =>
        have hlog := hsilent (.info "Wrote run configuration" [("dir", .str c.configRoot.shown)])
        refine (exceptT_lift_bind (d.log _) _ _).trans ?_
        simp [hlog]

/-- What a program that may fail returns satisfies `P`. -/
def Returns {ε α : Type} (P : α → Prop) (x : ExceptT ε (StateM τ) α) : Prop :=
  ∀ t a, (x.run t).1 = .ok a → P a

theorem Returns.bind {ε α β : Type} {P : β → Prop} {x : ExceptT ε (StateM τ) α}
    {f : α → ExceptT ε (StateM τ) β} (h : ∀ a, Returns P (f a)) : Returns P (x >>= f) := by
  intro t b hb
  rw [ExceptT.run_bind, stateM_bind] at hb
  cases hx : (x.run t).1 with
  | error e => simp [hx] at hb
  | ok a =>
    rw [hx] at hb
    exact h a _ b hb

/-- The configuration has no part in the report on files. -/
theorem finish_files (change : Change) (mocks : List MockRule) (views : List ViewRule)
    (r : RunReport) :
    Returns (fun rep : RunReport => rep.files = r.files)
      ((u.onHost d).finish c s change mocks views r) := by
  unfold finish
  split
  · refine Returns.bind fun _ => ?_
    split
    · exact Returns.bind fun _ t a h => by
        obtain rfl := Except.ok.inj h
        rfl
    · intro t a h
      obtain rfl := Except.ok.inj h
      rfl
  · intro t a h
    obtain rfl := Except.ok.inj h
    rfl

end Parts

end RunSetup

end Scaffold

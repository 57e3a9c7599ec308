import Mathlib
import Scaffold.Proofs.Host.Preservation
import Scaffold.Proofs.Plan.Induction
import Scaffold.Proofs.Plan.Run

/-!
# Invariants of a run

What every operation of a run preserves, the run preserves, whether it succeeds or fails. Files
are only put where the plan says so and the configuration is only written to its two places;
directories are only removed by policies that purge.
-/

namespace Scaffold

variable {σ τ : Type} {I : τ → Prop}

/-- The operations of `d` that a run may use before it finishes preserve `I`. -/
structure RunSetup.GuardedWork {m : Type → Type} (u : RunSetup m) (d : Host (StateM τ))
    (c : RunConfig) (s : Spec) (I : τ → Prop) : Prop where
  silent : d.Silent
  put : ∀ e ∈ u.entries c s, Preserves I (d.put c.args.overwrite e.1 e.2)
  createDirAll : ∀ p, Preserves I (d.createDirAll p)
  removeDirAll : (u.policy c).purgeGenerated = true → ∀ p, Preserves I (d.removeDirAll p)
  download : ∀ url p, Preserves I (d.download url p)
  pathExists : ∀ p, Preserves I (d.pathExists p)

/-- The operations of `d` that a run may use when it finishes preserve `I`. -/
structure RunSetup.GuardedFinish (d : Host (StateM τ)) (c : RunConfig) (I : τ → Prop) :
    Prop where
  silent : d.Silent
  replace : c.args.isIncremental = true → ∀ name,
    name = ServerConfig.engineFile ∨ name = ServerConfig.serverFile →
      ∀ content, Preserves I (d.replaceOutput (c.configRoot.join name) content)
  createDirAll : ∀ p, Preserves I (d.createDirAll p)
  pathExists : ∀ p, Preserves I (d.pathExists p)
  readText : ∀ p, Preserves I (d.readText p)
  names : ∀ p, Preserves I (d.names p)
  updateProject : ∀ manifest dirs, Preserves I (d.updateProject manifest dirs)

structure RunSetup.Guarded {m : Type → Type} (u : RunSetup m) (d : Host (StateM τ))
    (c : RunConfig) (s : Spec) (I : τ → Prop) : Prop
    extends u.GuardedWork d c s I, RunSetup.GuardedFinish d c I

namespace Preserves

variable {d : Host (StateM τ)}

theorem writeTarget (hsilent : d.Silent) {target : Path} {content : String}
    (hwrite : Preserves I (d.write target content)) :
    Preserves I (d.writeTarget target content) := by
  rw [hsilent.writeTarget]
  exact hwrite.map _

/-- Putting a file is creating, looking and writing. -/
theorem put (hsilent : d.Silent) (hcreate : ∀ p, Preserves I (d.createDirAll p))
    (hexists : ∀ p, Preserves I (d.pathExists p)) {path : Path} {content : String}
    (hwrite : Preserves I (d.write (WriteDirective.target path) content)) (overwrite : Bool) :
    Preserves I (d.put overwrite path content) := by
  have htarget := writeTarget hsilent hwrite
  unfold Host.put
  refine (ensureParent hcreate path).bind fun _ => .ite ?_ (.pure none)
  rw [hsilent.writeOutput]
  exact .ite htarget ((hexists _).bind fun _ => .ite (.pure _) htarget)

theorem log (hsilent : d.Silent) (e : LogEvent) : Preserves I (d.log e) := by
  rw [hsilent e]
  exact .pure ()

theorem readExisting (hlog : ∀ e, Preserves I (d.log e))
    (hread : ∀ p, Preserves I (d.readText p)) (p : Path) :
    Preserves I (ServerConfig.readExisting d p) := by
  unfold ServerConfig.readExisting
  refine (hread p).bind fun text => ?_
  cases text with
  | none => exact .pure none
  | some content =>
    dsimp only
    cases ServerConfig.ofText? content with
    | some v => exact .pure (some v)
    | none => exact (hlog _).bind fun _ => .pure none

end Preserves

namespace RunSetup.GuardedWork

variable {m : Type → Type} {u : RunSetup m} {d : Host (StateM τ)} {c : RunConfig} {s : Spec}

theorem log (h : u.GuardedWork d c s I) (e : LogEvent) : Preserves I (d.log e) :=
  .log h.silent e

theorem ensureParent (h : u.GuardedWork d c s I) (p : Path) : Preserves I (d.ensureParent p) :=
  .ensureParent h.createDirAll p

theorem putAll (h : u.GuardedWork d c s I) {entries : List (Path × String)}
    (hentries : entries ⊆ u.entries c s) (r : Report) :
    Preserves I (d.putAll c.args.overwrite entries r) := by
  induction entries generalizing r with
  | nil => exact .pure r
  | cons e entries ih =>
    rw [List.cons_subset] at hentries
    exact (h.put e hentries.1).bind fun result => ih hentries.2 _

theorem purge (h : u.GuardedWork d c s I) (hpurge : (u.policy c).purgeGenerated = true) (dir : Path)
    (state : WalkState) : Preserves I ((u.walker d c s).purge dir state) := by
  unfold Walker.purge
  have htold : ∀ (emptied : Bool) (e e' : LogEvent) (a b : WalkState),
      Preserves I (if emptied = true then do d.log e; pure a else do d.log e'; pure b) :=
    fun _ e e' a b => .ite ((h.log e).bind fun _ => .pure a) ((h.log e').bind fun _ => .pure b)
  refine (h.removeDirAll hpurge dir).bind fun _ => .ite ?_ ?_
  · exact (h.createDirAll dir).bind fun emptied => htold emptied _ _ _ _
  · exact (Preserves.pure false).bind fun emptied => htold emptied _ _ _ _

/-- Steps of the walk: what they put somewhere is theirs to put. -/
theorem compositional (h : u.GuardedWork d c s I) :
    (u.walker d c s).Compositional (fun _ => True) fun entries x =>
      entries ⊆ u.entries c s → ∀ state, Preserves I (x state) where
  skip _ state := .pure state
  seq hx hy hsub state := by
    rw [List.append_subset] at hsub
    exact (hx hsub.1 state).bind (hy hsub.2)
  enter _ hx hsub state := by
    rw [Walker.makeDir_eq h.silent]
    exact (h.createDirAll _).bind fun made => .ite (hx hsub state) (.pure _)
  put path content hsub state := by
    rw [Walker.output_eq_put h.silent]
    exact (h.put (path, content) (hsub (by simp))).map _
  prepare dir _ state := by
    unfold Walker.prepare
    split
    · rename_i hpurge
      rw [Bool.and_eq_true] at hpurge
      exact (h.purge hpurge.1 dir state).bind fun _ => .pure _
    · exact .pure _
  fetch path url _ state := by
    rw [Walker.fetchTo_eq h.silent]
    refine (h.pathExists path).bind fun _ => .ite (.pure _) ?_
    exact (h.ensureParent path).bind fun _ => (h.download url path).bind fun _ => .pure _
  suppress _ _ := .pure _
  fail _ _ := .pure _

/-- All that a run does to the host before it finishes: the mock data, then the walk. -/
theorem work (h : u.GuardedWork d c s I) (t : τ) (ht : I t) :
    I ((u.walker d c s).carryOutAll c.outputRoot (plan c s) { context := context c s }
      (d.putAll c.args.overwrite (u.mocks c s) {} (d.createDirAll c.outputRoot t).2).2).2 := by
  have hwalk := h.compositional.carryOutAll (fun _ _ _ => trivial) c.outputRoot trivial (plan c s)
  have hmocks := h.putAll (List.subset_append_left _ _) {} _ (h.createDirAll c.outputRoot t ht)
  exact hwalk (List.subset_append_right _ _) _ _ hmocks

end RunSetup.GuardedWork

/-- What keeping the configuration uses, it preserves. -/
theorem RunSetup.writeConfig_preserves {u : RunSetup (StateM τ)} {c : RunConfig}
    (hlog : ∀ e, Preserves I (u.host.log e))
    (hreplace : ∀ name, name = ServerConfig.engineFile ∨ name = ServerConfig.serverFile →
      ∀ content, Preserves I (u.host.replaceOutput (c.configRoot.join name) content))
    (hcreate : ∀ p, Preserves I (u.host.createDirAll p))
    (hread : ∀ p, Preserves I (u.host.readText p))
    (s : Spec) (roots : StructuralRoots) (views : List ViewRule) (mocks : List MockRule) :
    Preserves I (u.writeConfig c s roots views mocks).run := by
  have hfile : ∀ name, name = ServerConfig.engineFile ∨ name = ServerConfig.serverFile →
      ∀ v, Preserves I (u.writeConfigFile (c.configRoot.join name) v).run := by
    intro name hname v
    refine (hreplace name hname _).lift_bind fun result => ?_
    cases result with
    | some outcome => exact .pure _
    | none => exact .pure _
  unfold RunSetup.writeConfig
  refine (hcreate c.configRoot).lift_bind fun created => ?_
  cases created with
  | false => exact .pure _
  | true =>
    refine (hfile _ (.inl rfl) _).except_bind fun _ => ?_
    refine (Preserves.readExisting hlog hread _).lift_bind fun existing => ?_
    refine (hfile _ (.inr rfl) _).except_bind fun _ => ?_
    exact (hlog _).lift_bind fun _ => .pure _

/-- What keeping the configuration and updating a project preserve, the end of a run preserves. -/
theorem RunSetup.finish_preserves {u : RunSetup (StateM τ)} {c : RunConfig} {s : Spec}
    {mocks : List MockRule} {views : List ViewRule} {r : RunReport}
    (hconfig : c.args.isIncremental = true →
      Preserves I (u.writeConfig c s r.roots views mocks).run)
    (hlog : ∀ e, Preserves I (u.host.log e))
    (hexists : ∀ p, Preserves I (u.host.pathExists p))
    (hnames : ∀ p, Preserves I (u.host.names p))
    (hupdate : ∀ manifest dirs, Preserves I (u.host.updateProject manifest dirs))
    (change : Change) : Preserves I (u.finish c s change mocks views r).run := by
  unfold RunSetup.finish
  by_cases hincremental : c.args.isIncremental = true
  · rw [if_pos hincremental]
    refine (hconfig hincremental).except_bind fun configFiles => ?_
    split
    · refine Preserves.except_bind ?_ fun _ => .pure _
      unfold RunSetup.updateProject
      split
      · have hlocated := Preserves.locateProject hlog hnames hexists c.iosProjectDir
        refine hlocated.lift_bind fun manifest => ?_
        cases manifest with
        | none => exact (hlog _).lift_bind fun _ => .pure _
        | some manifest =>
          refine (hupdate manifest _).lift_bind fun updated => ?_
          cases updated with
          | true => exact .pure _
          | false => exact .pure _
      · exact (hlog _).lift_bind fun _ => .pure _
    · exact .pure _
  · rw [if_neg hincremental]
    exact .pure _

theorem RunSetup.GuardedFinish.finish {m : Type → Type} {d : Host (StateM τ)} {c : RunConfig}
    (h : GuardedFinish d c I) (u : RunSetup m) (s : Spec) (change : Change)
    (mocks : List MockRule) (views : List ViewRule) (r : RunReport) :
    Preserves I ((u.onHost d).finish c s change mocks views r).run := by
  have hlog : ∀ e, Preserves I (d.log e) := .log h.silent
  refine RunSetup.finish_preserves (u := u.onHost d) (fun hincremental => ?_) hlog h.pathExists
    h.names h.updateProject change
  exact RunSetup.writeConfig_preserves (u := u.onHost d) hlog (h.replace hincremental)
    h.createDirAll h.readText s r.roots views mocks

theorem RunSetup.Guarded.carryOut {m : Type → Type} {u : RunSetup m} {d : Host (StateM τ)}
    {c : RunConfig} {s : Spec} (h : u.Guarded d c s I) : Preserves I (u.carryOut d c s).run := by
  intro t ht
  rw [carryOut_run]
  split
  · exact h.finish _ _ _ _ _ _ _ (h.work t ht)
  · exact h.createDirAll c.outputRoot t ht

/-- A policy that does not purge for the change at hand does not purge in the run. -/
theorem RunSetup.policy_not_purging {m : Type → Type} {u : RunSetup m} {c : RunConfig}
    (h : (RegenerationPolicy.ofArgs c.args u.change).purgeGenerated = false) :
    (u.policy c).purgeGenerated = false := by
  unfold policy known
  cases hincremental : c.args.isIncremental with
  | true => simpa using h
  | false => simp [RegenerationPolicy.ofArgs, hincremental]

/-- A run preserves what the operations it may use preserve, however it ends. -/
theorem RunSetup.run_preserves {view : σ → τ} {u : RunSetup (StateM σ)} {d : Host (StateM τ)}
    {c : RunConfig} {s : Spec} (H : u.host.Follows view d)
    (hupdate : ∀ manifest dirs, d.updateProject manifest dirs = pure true)
    (h : u.Guarded d c s I) {w : σ} (hw : I (view w)) : I (view ((u.run c s).run w).2) := by
  rw [(run_settles H hupdate c s w).1]
  exact h.carryOut _ hw

end Scaffold

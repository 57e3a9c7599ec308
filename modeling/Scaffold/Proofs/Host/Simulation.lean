import Mathlib
import Scaffold.Output.Writer

/-!
# Programs seen through a view of their state

A host may keep more than a proof wants to speak of: log events, counters, connections. A
program on such a host follows a program on a plainer state if, seen through a view of the
state, both do the same and give the same result. Following is closed under sequencing, so it
is shown for the operations of a host and passes on to all that is built from them.
-/

namespace Scaffold

variable {σ τ α β : Type}

/-- Seen through `view`, `x` does what `y` does and gives its result. -/
def Follows (view : σ → τ) (x : StateM σ α) (y : StateM τ α) : Prop :=
  ∀ s, (x s).1 = (y (view s)).1 ∧ view (x s).2 = (y (view s)).2

/-- What is seen through `view` stays as it is. -/
def Quiet (view : σ → τ) (x : StateM σ α) : Prop :=
  ∀ s, view (x s).2 = view s

namespace Follows

variable {view : σ → τ} {x x' : StateM σ α} {y y' : StateM τ α}

theorem pure (a : α) : Follows view (Pure.pure a) (Pure.pure a) :=
  fun _ => ⟨rfl, rfl⟩

theorem bind {f : α → StateM σ β} {g : α → StateM τ β} (hx : Follows view x y)
    (hf : ∀ a, Follows view (f a) (g a)) : Follows view (x >>= f) (y >>= g) := by
  intro s
  obtain ⟨hresult, hview⟩ := hx s
  have hnext := hf (x s).1 (x s).2
  rw [hview] at hnext
  change _ = (g (y (view s)).1 (y (view s)).2).1 ∧ _ = (g (y (view s)).1 (y (view s)).2).2
  rw [← hresult]
  exact hnext

/-- A step that the plainer program does not take. -/
theorem step {a : α} {f : α → StateM σ β} {z : StateM τ β}
    (hx : Follows view x (Pure.pure a)) (hf : Follows view (f a) z) :
    Follows view (x >>= f) z := by
  intro s
  obtain ⟨hresult, hview⟩ := hx s
  have hnext := hf (x s).2
  rw [show view (x s).2 = view s from hview] at hnext
  rw [← show (x s).1 = a from hresult] at hnext
  exact hnext

theorem ite {c : Prop} [Decidable c] (hx : Follows view x y) (hx' : Follows view x' y') :
    Follows view (if c then x else x') (if c then y else y') := by
  split
  · exact hx
  · exact hx'

/-- Steps that cannot fail, in programs that can. -/
theorem lift_bind {ε : Type} {f : α → ExceptT ε (StateM σ) β} {g : α → ExceptT ε (StateM τ) β}
    (hx : Follows view x y) (hf : ∀ a, Follows view (f a).run (g a).run) :
    Follows view (ExceptT.lift x >>= f).run (ExceptT.lift y >>= g).run := by
  rw [ExceptT.run_bind, ExceptT.run_bind, ExceptT.run_lift, ExceptT.run_lift]
  simp only [bind_map_left]
  exact hx.bind hf

theorem except_bind {ε : Type} {x : ExceptT ε (StateM σ) α} {y : ExceptT ε (StateM τ) α}
    {f : α → ExceptT ε (StateM σ) β} {g : α → ExceptT ε (StateM τ) β}
    (hx : Follows view x.run y.run) (hf : ∀ a, Follows view (f a).run (g a).run) :
    Follows view (x >>= f).run (y >>= g).run := by
  rw [ExceptT.run_bind, ExceptT.run_bind]
  refine hx.bind fun result => ?_
  cases result with
  | ok a => exact hf a
  | error e => exact Follows.pure (Except.error e : Except ε β)

/-- A view of a view. -/
theorem trans {ρ : Type} {view' : τ → ρ} {z : StateM ρ α} (hx : Follows view x y)
    (hy : Follows view' y z) : Follows (fun s => view' (view s)) x z := by
  intro s
  obtain ⟨hresult, hview⟩ := hx s
  obtain ⟨hresult', hview'⟩ := hy (view s)
  exact ⟨hresult.trans hresult', (congrArg view' hview).trans hview'⟩

end Follows

/-- The operations of `h` follow those of `d`. A project update may answer as it likes, as long
as it leaves alone what is seen. -/
structure Host.Follows (view : σ → τ) (h : Host (StateM σ)) (d : Host (StateM τ)) : Prop where
  pathExists : ∀ p, Scaffold.Follows view (h.pathExists p) (d.pathExists p)
  write : ∀ p content, Scaffold.Follows view (h.write p content) (d.write p content)
  createDirAll : ∀ p, Scaffold.Follows view (h.createDirAll p) (d.createDirAll p)
  removeDirAll : ∀ p, Scaffold.Follows view (h.removeDirAll p) (d.removeDirAll p)
  readText : ∀ p, Scaffold.Follows view (h.readText p) (d.readText p)
  names : ∀ p, Scaffold.Follows view (h.names p) (d.names p)
  download : ∀ url p, Scaffold.Follows view (h.download url p) (d.download url p)
  log : ∀ e, Scaffold.Follows view (h.log e) (Pure.pure ())
  updateProject : ∀ manifest dirs, Quiet view (h.updateProject manifest dirs)
  /-- Nothing is told on the plainer side. -/
  silent : ∀ e, d.log e = Pure.pure ()

namespace Host.Follows

variable {view : σ → τ} {h : Host (StateM σ)} {d : Host (StateM τ)}

theorem trans {ρ : Type} {view' : τ → ρ} {d' : Host (StateM ρ)} (H : h.Follows view d)
    (H' : d.Follows view' d') : h.Follows (fun s => view' (view s)) d' where
  pathExists p := (H.pathExists p).trans (H'.pathExists p)
  write p content := (H.write p content).trans (H'.write p content)
  createDirAll p := (H.createDirAll p).trans (H'.createDirAll p)
  removeDirAll p := (H.removeDirAll p).trans (H'.removeDirAll p)
  readText p := (H.readText p).trans (H'.readText p)
  names p := (H.names p).trans (H'.names p)
  download url p := (H.download url p).trans (H'.download url p)
  log e s := ⟨rfl, congrArg view' (H.log e s).2⟩
  updateProject manifest dirs s := congrArg view' (H.updateProject manifest dirs s)
  silent := H'.silent

theorem log_eq (H : h.Follows view d) (e : LogEvent) :
    Scaffold.Follows view (h.log e) (d.log e) := by
  rw [H.silent]
  exact H.log e

theorem logAll (H : h.Follows view d) (es : List LogEvent) :
    Scaffold.Follows view (h.logAll es) (Pure.pure ()) := by
  induction es with
  | nil => exact .pure ()
  | cons e es ih => exact (H.log e).step ih

theorem ensureParent (H : h.Follows view d) (path : Path) :
    Scaffold.Follows view (h.ensureParent path) (d.ensureParent path) := by
  unfold Host.ensureParent
  split
  · exact .ite (.pure true) (H.createDirAll _)
  · exact .pure true

theorem writeTarget (H : h.Follows view d) (target : Path) (content : String) :
    Scaffold.Follows view (h.writeTarget target content) (d.writeTarget target content) := by
  unfold Host.writeTarget
  exact (H.write target content).bind fun _ => .ite ((H.log_eq _).bind fun _ => .pure _) (.pure _)

theorem writeOutput (H : h.Follows view d) (overwrite : Bool) (path : Path) (content : String) :
    Scaffold.Follows view (h.writeOutput overwrite path content)
      (d.writeOutput overwrite path content) := by
  unfold Host.writeOutput
  refine .ite (H.writeTarget _ _) ((H.pathExists _).bind fun _ => .ite ?_ (H.writeTarget _ _))
  exact (H.log_eq _).bind fun _ => .pure _

theorem replaceOutput (H : h.Follows view d) (path : Path) (content : String) :
    Scaffold.Follows view (h.replaceOutput path content) (d.replaceOutput path content) :=
  H.writeTarget _ _

theorem recordWrite (H : h.Follows view d) (r : Report) (path : Path)
    (result : Option WriteOutcome) :
    Scaffold.Follows view (h.recordWrite r path result) (d.recordWrite r path result) := by
  unfold Host.recordWrite
  cases result with
  | some outcome => exact .pure _
  | none => exact (H.log_eq _).bind fun _ => .pure _

theorem locateProject (H : h.Follows view d) (dir : Path) :
    Scaffold.Follows view (h.locateProject dir) (d.locateProject dir) := by
  unfold Host.locateProject
  refine (H.names dir).bind fun names => ?_
  cases names with
  | none => exact (H.log_eq _).bind fun _ => .pure none
  | some names =>
    dsimp only
    cases names.find? ProjectManifest.isBundle with
    | none => exact .pure none
    | some bundle =>
      refine (H.pathExists _).bind fun found => .ite (.pure _) ?_
      exact (H.log_eq _).bind fun _ => .pure none

end Host.Follows

end Scaffold

import Mathlib
import Scaffold.Proofs.Host.Put
import Scaffold.Proofs.Host.Simulation

/-!
# What programs preserve

An invariant of the state that every step of a program preserves is preserved by the program. So
what the operations of a host preserve, all that is built from them preserves: looking for a
directory, writing what a path means, telling of it.
-/

namespace Scaffold

variable {τ α β : Type} {I : τ → Prop}

/-- `x` leads from states with `I` to states with `I`. -/
def Preserves (I : τ → Prop) (x : StateM τ α) : Prop :=
  ∀ t, I t → I (x t).2

namespace Preserves

theorem pure (a : α) : Preserves I (Pure.pure a) :=
  fun _ h => h

theorem of_reads {x : StateM τ α} (h : ∀ t, (x t).2 = t) : Preserves I x := by
  intro t ht
  rwa [h]

theorem bind {x : StateM τ α} {f : α → StateM τ β} (hx : Preserves I x)
    (hf : ∀ a, Preserves I (f a)) : Preserves I (x >>= f) :=
  fun t ht => hf _ _ (hx t ht)

theorem map {x : StateM τ α} (f : α → β) (hx : Preserves I x) : Preserves I (f <$> x) :=
  fun t ht => hx t ht

theorem ite {c : Prop} [Decidable c] {x y : StateM τ α} (hx : Preserves I x)
    (hy : Preserves I y) : Preserves I (if c then x else y) := by
  split
  · exact hx
  · exact hy

variable {ε : Type}

theorem lift_bind {x : StateM τ α} {f : α → ExceptT ε (StateM τ) β} (hx : Preserves I x)
    (hf : ∀ a, Preserves I (f a).run) : Preserves I (ExceptT.lift x >>= f).run := by
  rw [ExceptT.run_bind, ExceptT.run_lift, bind_map_left]
  exact hx.bind hf

theorem except_bind {x : ExceptT ε (StateM τ) α} {f : α → ExceptT ε (StateM τ) β}
    (hx : Preserves I x.run) (hf : ∀ a, Preserves I (f a).run) :
    Preserves I (x >>= f).run := by
  rw [ExceptT.run_bind]
  refine hx.bind fun result => ?_
  cases result with
  | ok a => exact hf a
  | error e => exact Preserves.pure (Except.error e : Except ε β)

/-- What stays whatever it is stays as it is. -/
theorem eq_of_view {ρ : Type} {view : τ → ρ} {x : StateM τ α}
    (h : ∀ a, Preserves (fun t => view t = a) x) (t : τ) : view (x t).2 = view t :=
  h (view t) t rfl

section Host

variable {d : Host (StateM τ)}

theorem ensureParent (hcreate : ∀ p, Preserves I (d.createDirAll p)) (path : Path) :
    Preserves I (d.ensureParent path) := by
  rcases d.ensureParent_cases path with heq | ⟨dir, -, -, heq⟩
  · rw [heq]
    exact .pure true
  · rw [heq]
    exact hcreate dir

theorem locateProject (hlog : ∀ e, Preserves I (d.log e)) (hnames : ∀ p, Preserves I (d.names p))
    (hexists : ∀ p, Preserves I (d.pathExists p)) (dir : Path) :
    Preserves I (d.locateProject dir) := by
  unfold Host.locateProject
  refine (hnames dir).bind fun names => ?_
  cases names with
  | none => exact (hlog _).bind fun _ => .pure none
  | some names =>
    dsimp only
    cases names.find? ProjectManifest.isBundle with
    | none => exact .pure none
    | some bundle =>
      refine (hexists _).bind fun _ => .ite (.pure _) ?_
      exact (hlog _).bind fun _ => .pure none

end Host

end Preserves

/-- `x` preserves `I`, and its result satisfies `Q`. -/
def Ensures (I : τ → Prop) (Q : α → Prop) (x : StateM τ α) : Prop :=
  ∀ t, I t → I (x t).2 ∧ Q (x t).1

namespace Ensures

variable {Q : α → Prop} {R : β → Prop}

theorem pure {a : α} (h : Q a) : Ensures I Q (Pure.pure a) :=
  fun _ ht => ⟨ht, h⟩

theorem bind {x : StateM τ α} {f : α → StateM τ β} (hx : Ensures I Q x)
    (hf : ∀ a, Q a → Ensures I R (f a)) : Ensures I R (x >>= f) :=
  fun t ht => hf _ (hx t ht).2 _ (hx t ht).1

/-- A step whose result does not matter. -/
theorem step {x : StateM τ α} {f : α → StateM τ β} (hx : Preserves I x)
    (hf : ∀ a, Ensures I R (f a)) : Ensures I R (x >>= f) :=
  fun t ht => hf _ _ (hx t ht)

theorem ite {c : Prop} [Decidable c] {x y : StateM τ α} (hx : Ensures I Q x)
    (hy : Ensures I Q y) : Ensures I Q (if c then x else y) := by
  split
  · exact hx
  · exact hy

end Ensures

/-- Apart from removals, all operations of `h` preserve `I`. -/
structure Host.Preserves (I : τ → Prop) (h : Host (StateM τ)) : Prop where
  pathExists : ∀ p, Scaffold.Preserves I (h.pathExists p)
  write : ∀ p content, Scaffold.Preserves I (h.write p content)
  createDirAll : ∀ p, Scaffold.Preserves I (h.createDirAll p)
  readText : ∀ p, Scaffold.Preserves I (h.readText p)
  names : ∀ p, Scaffold.Preserves I (h.names p)
  download : ∀ url p, Scaffold.Preserves I (h.download url p)
  updateProject : ∀ manifest dirs, Scaffold.Preserves I (h.updateProject manifest dirs)
  log : ∀ e, Scaffold.Preserves I (h.log e)

namespace Host.Preserves

variable {h : Host (StateM τ)}

theorem logAll (H : h.Preserves I) (es : List LogEvent) :
    Scaffold.Preserves I (h.logAll es) := by
  induction es with
  | nil => exact .pure ()
  | cons e es ih => exact (H.log e).bind fun _ => ih

theorem ensureParent (H : h.Preserves I) (path : Path) :
    Scaffold.Preserves I (h.ensureParent path) :=
  .ensureParent H.createDirAll path

theorem writeTarget (H : h.Preserves I) (target : Path) (content : String) :
    Scaffold.Preserves I (h.writeTarget target content) := by
  unfold Host.writeTarget
  exact (H.write target content).bind fun _ => .ite ((H.log _).bind fun _ => .pure _) (.pure _)

theorem writeOutput (H : h.Preserves I) (overwrite : Bool) (path : Path) (content : String) :
    Scaffold.Preserves I (h.writeOutput overwrite path content) := by
  unfold Host.writeOutput
  refine .ite (H.writeTarget _ _) ((H.pathExists _).bind fun _ => .ite ?_ (H.writeTarget _ _))
  exact (H.log _).bind fun _ => .pure _

theorem replaceOutput (H : h.Preserves I) (path : Path) (content : String) :
    Scaffold.Preserves I (h.replaceOutput path content) :=
  H.writeTarget _ _

theorem recordWrite (H : h.Preserves I) (r : Report) (path : Path)
    (result : Option WriteOutcome) : Scaffold.Preserves I (h.recordWrite r path result) := by
  unfold Host.recordWrite
  cases result with
  | some outcome => exact .pure _
  | none => exact (H.log _).bind fun _ => .pure _

end Host.Preserves

/-! ## What is preserved of a view -/

section View

variable {σ : Type} {view : σ → τ}

theorem Preserves.of_follows {x : StateM σ α} {y : StateM τ α} (h : Follows view x y)
    (hy : Preserves I y) : Preserves (fun t => I (view t)) x := by
  intro t ht
  rw [(h t).2]
  exact hy _ ht

theorem Host.Preserves.of_follows {h : Host (StateM σ)} {d : Host (StateM τ)}
    (H : h.Follows view d) (hd : d.Preserves I) : h.Preserves fun t => I (view t) where
  pathExists p := .of_follows (H.pathExists p) (hd.pathExists p)
  write p content := .of_follows (H.write p content) (hd.write p content)
  createDirAll p := .of_follows (H.createDirAll p) (hd.createDirAll p)
  readText p := .of_follows (H.readText p) (hd.readText p)
  names p := .of_follows (H.names p) (hd.names p)
  download url p := .of_follows (H.download url p) (hd.download url p)
  updateProject manifest dirs t ht := by
    change I (view _)
    rwa [H.updateProject manifest dirs t]
  log e := .of_follows (H.log e) (.pure ())

end View

end Scaffold

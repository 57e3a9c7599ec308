import Mathlib
import Scaffold.Proofs.Plan.Output

/-!
# Properties of plans

A plan is carried out by few kinds of steps. A property of steps, relative to the files they
put somewhere, is shown for each kind and passes on to whole plans.
-/

namespace Scaffold

namespace Walker

variable {m : Type → Type} [Monad m]

/-- `Q` holds of all steps of a walker and is kept when they are put together. Directories are
entered only where `good` holds of them. -/
structure Compositional (w : Walker m) (good : Path → Prop)
    (Q : List (Path × String) → (WalkState → m WalkState) → Prop) : Prop where
  skip : Q [] pure
  seq : ∀ {xs ys : List (Path × String)} {x y : WalkState → m WalkState},
    Q xs x → Q ys y → Q (xs ++ ys) fun s => x s >>= y
  enter : ∀ {dir : Path} {xs : List (Path × String)} {x : WalkState → m WalkState},
    good dir → Q xs x →
      Q xs fun s => do if ← w.makeDir dir then x s else return onReport s Report.fail
  put : ∀ path content, Q [(path, content)] (w.output path content)
  prepare : ∀ dir, Q [] (w.prepare dir)
  fetch : ∀ path url, Q [] (w.fetchTo path url)
  suppress : Q [] fun s => pure (onReport s Report.suppress)
  fail : Q [] fun s => pure (onReport s Report.fail)

namespace Compositional

variable {w : Walker m} {good : Path → Prop}
  {Q : List (Path × String) → (WalkState → m WalkState) → Prop}

mutual

theorem carryOut (h : w.Compositional good Q)
    (hgood : ∀ dir rendered, good dir → good (dir.joinRendered rendered)) :
    ∀ (dir : Path), good dir → ∀ p : Plan,
      Q ((Plan.outputs dir p).map Plan.Output.entry) (w.carryOut dir p)
  | dir, hdir, .enter rendered inside => by
    have hinside := carryOutAll h hgood _ (hgood dir rendered hdir) inside
    simpa only [Plan.outputs, Walker.carryOut] using h.enter (hgood dir rendered hdir) hinside
  | dir, _, .prepare => by
    simp only [Plan.outputs, Walker.carryOut]
    exact h.prepare dir
  | dir, _, .put rendered content => by
    simp only [Plan.outputs, Walker.carryOut]
    exact h.put (dir.joinRendered rendered) content
  | dir, _, .fetch rendered url => by
    simp only [Plan.outputs, Walker.carryOut]
    exact h.fetch (dir.joinRendered rendered) url
  | _, _, .suppress => by
    simp only [Plan.outputs, Walker.carryOut]
    exact h.suppress
  | _, _, .fail => by
    simp only [Plan.outputs, Walker.carryOut]
    exact h.fail

theorem carryOutAll (h : w.Compositional good Q)
    (hgood : ∀ dir rendered, good dir → good (dir.joinRendered rendered)) :
    ∀ (dir : Path), good dir → ∀ ps : List Plan,
      Q ((Plan.outputsAll dir ps).map Plan.Output.entry) (w.carryOutAll dir ps)
  | dir, _, [] => by
    simpa only [Plan.outputsAll, List.map_nil, carryOutAll_nil] using h.skip
  | dir, hdir, p :: ps => by
    have hseq := h.seq (carryOut h hgood dir hdir p) (carryOutAll h hgood dir hdir ps)
    rw [← List.map_append] at hseq
    simpa only [Plan.outputsAll, Walker.carryOutAll] using hseq

end

end Compositional

end Walker

end Scaffold

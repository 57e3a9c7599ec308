import Mathlib
import Scaffold.Proofs.Host.Put
import Scaffold.Proofs.Plan.Basic

/-!
# What of a plan has an effect

Steps of a plan that come to nothing are counted, and directories of generated sources are
tracked. Without purges none of this is seen by any later step. So a plan does to the host, and
reports of files, what is left of it when these steps are taken out.
-/

namespace Scaffold

namespace Plan

mutual

/-- What is left of a step without what is only counted or tracked. -/
def effects : Plan → List Plan
  | .enter rendered inside => [.enter rendered (effectsAll inside)]
  | .put rendered content => [.put rendered content]
  | .fetch rendered url => [.fetch rendered url]
  | .prepare | .suppress | .fail => []

def effectsAll : List Plan → List Plan
  | [] => []
  | p :: ps => effects p ++ effectsAll ps

end

theorem effectsAll_append (ps qs : List Plan) :
    effectsAll (ps ++ qs) = effectsAll ps ++ effectsAll qs := by
  induction ps with
  | nil => rfl
  | cons p ps ih => rw [List.cons_append, effectsAll, ih, effectsAll, List.append_assoc]

theorem effectsAll_eq_nil_iff {ps : List Plan} :
    effectsAll ps = [] ↔ ∀ p ∈ ps, effects p = [] := by
  induction ps with
  | nil => simp [effectsAll]
  | cons p ps ih => simp [effectsAll, ih]

end Plan

/-- What a report tells of files and assets. -/
def Report.effects (r : Report) : Report :=
  { r with suppressed := 0, failed := 0, tracked := [] }

theorem Report.effects_eq_iff {r r' : Report} :
    r.effects = r'.effects ↔
      r.written = r'.written ∧ r.kept = r'.kept ∧ r.downloads = r'.downloads ∧
        r.purged = r'.purged := by
  simp [effects]

def WalkState.effects (s : WalkState) : WalkState :=
  { s with report := s.report.effects }

namespace Walker

variable {m : Type → Type} [Monad m]

/-- Where two states tell the same of files, `x` and `y` do the same and tell the same of files. -/
def Agree (x y : WalkState → m WalkState) : Prop :=
  ∀ s s', s.effects = s'.effects → WalkState.effects <$> x s = WalkState.effects <$> y s'

namespace Agree

variable [LawfulMonad m] {x x' y y' : WalkState → m WalkState}

/-- What is told of files beyond the state before does not depend on anything else there. -/
theorem of_report {f g : Report → Report}
    (h : ∀ r r' : Report, r.effects = r'.effects → (f r).effects = (g r').effects) :
    Agree (fun s => (pure (onReport s f) : m WalkState)) fun s => pure (onReport s g) := by
  intro s s' hs
  obtain ⟨context, purged, r⟩ := s
  obtain ⟨context', purged', r'⟩ := s'
  simp only [WalkState.effects, WalkState.mk.injEq] at hs
  obtain ⟨rfl, rfl, hr⟩ := hs
  simp only [map_pure, WalkState.effects, onReport, h r r' hr]

theorem skip : Agree (pure : WalkState → m WalkState) pure :=
  of_report fun _ _ h => h

theorem seq (hx : Agree x y) (hx' : Agree x' y') :
    Agree (fun s => x s >>= x') fun s => y s >>= y' := by
  -- what follows may start from what is told of files alone
  have hstart : ∀ {z : WalkState → m WalkState} (_ : ∀ a, WalkState.effects <$> z a =
      WalkState.effects <$> z a.effects) (n : m WalkState),
      WalkState.effects <$> (n >>= z) =
        (WalkState.effects <$> n) >>= fun a => WalkState.effects <$> z a := by
    intro z hz n
    rw [map_bind, bind_map_left]
    exact bind_congr hz
  have hleft : ∀ a, WalkState.effects <$> x' a = WalkState.effects <$> x' a.effects :=
    fun a => (hx' a a rfl).trans (hx' a.effects a rfl).symm
  have hright : ∀ a, WalkState.effects <$> y' a = WalkState.effects <$> y' a.effects :=
    fun a => (hx' a a rfl).symm.trans (hx' a a.effects rfl)
  have hsame : ∀ a, WalkState.effects <$> x' a = WalkState.effects <$> y' a :=
    fun a => hx' a a rfl
  intro s s' hs
  rw [hstart hleft, hstart hright, hx s s' hs]
  exact bind_congr hsame

theorem step {α : Type} (n : m α) {x y : α → WalkState → m WalkState}
    (h : ∀ a, Agree (x a) (y a)) :
    Agree (fun s => n >>= fun a => x a s) fun s => n >>= fun a => y a s := by
  intro s s' hs
  simp only [map_bind]
  exact bind_congr fun a => h a s s' hs

/-- A step that only tells what is no effect may be left out. -/
theorem of_idle {f : Report → Report} (h : ∀ r : Report, (f r).effects = r.effects) :
    Agree (fun s => (pure (onReport s f) : m WalkState)) pure :=
  of_report (g := id) fun r _ hr => (h r).trans hr

/-- Entering a directory, for what is done inside. -/
theorem enter (w : Walker m) (dir : Path) (h : Agree x y) :
    Agree (fun s => do if ← w.makeDir dir then x s else return onReport s Report.fail)
      fun s => do if ← w.makeDir dir then y s else return onReport s Report.fail := by
  refine step (w.makeDir dir) fun made => ?_
  cases made with
  | true => exact h
  | false =>
    refine of_report fun r r' hr => ?_
    rw [Report.effects_eq_iff] at hr ⊢
    exact hr

section Steps

variable {w : Walker m} (hsilent : w.host.Silent)
include hsilent

theorem output (path : Path) (content : String) :
    Agree (w.output path content) (w.output path content) := by
  have hput := step (w.host.put w.overwrite path content) fun result =>
    of_report (m := m) (f := (·.record result)) (g := (·.record result)) fun r r' hr => by
      rw [Report.effects_eq_iff] at hr ⊢
      rcases result with _ | ⟨_ | _⟩ <;> simpa [Report.record, Report.fail] using hr
  simp only [bind_pure_comp] at hput
  intro s s' hs
  rw [output_eq_put hsilent, output_eq_put hsilent]
  exact hput s s' hs

theorem fetchTo (path : Path) (url : String) :
    Agree (w.fetchTo path url) (w.fetchTo path url) := by
  have hkept : Agree (m := m)
      (fun s => pure (onReport s fun r => { r with kept := r.kept ++ [path] })) fun s =>
        pure (onReport s fun r => { r with kept := r.kept ++ [path] }) :=
    of_report fun r r' hr => by
      rw [Report.effects_eq_iff] at hr ⊢
      simpa using hr
  have hasked : Agree (m := m)
      (fun s => pure (onReport s fun r => { r with downloads := r.downloads ++ [path] })) fun s =>
        pure (onReport s fun r => { r with downloads := r.downloads ++ [path] }) :=
    of_report fun r r' hr => by
      rw [Report.effects_eq_iff] at hr ⊢
      simpa using hr
  intro s s' hs
  rw [fetchTo_eq hsilent, fetchTo_eq hsilent]
  simp only [map_bind]
  refine bind_congr fun found => ?_
  cases found with
  | true => exact hkept s s' hs
  | false =>
    exact step (w.host.ensureParent path)
      (fun _ => step (w.host.download url path) fun _ => hasked) s s' hs

end Steps

end Agree

variable [LawfulMonad m] {w : Walker m}

mutual

theorem carryOut_agrees (hsilent : w.host.Silent) (hpurge : w.policy.purgeGenerated = false)
    (dir : Path) : ∀ p : Plan,
    Agree (w.carryOut dir p) (w.carryOutAll dir (Plan.effects p))
  | .enter rendered inside => by
    have hinside := carryOutAll_agrees hsilent hpurge (dir.joinRendered rendered) inside
    intro s s' hs
    rw [Plan.effects, carryOutAll_singleton, carryOut, carryOut]
    exact Agree.enter w (dir.joinRendered rendered) hinside s s' hs
  | .prepare => by
    simp only [Plan.effects, carryOutAll_nil, carryOut, prepare_of_not_purging hpurge]
    exact Agree.of_idle fun _ => rfl
  | .put rendered content => by
    intro s s' hs
    rw [Plan.effects, carryOutAll_singleton, carryOut, carryOut]
    exact Agree.output hsilent (dir.joinRendered rendered) content s s' hs
  | .fetch rendered url => by
    intro s s' hs
    rw [Plan.effects, carryOutAll_singleton, carryOut, carryOut]
    exact Agree.fetchTo hsilent (dir.joinRendered rendered) url s s' hs
  | .suppress => by
    simp only [Plan.effects, carryOutAll_nil, carryOut]
    exact Agree.of_idle fun _ => rfl
  | .fail => by
    simp only [Plan.effects, carryOutAll_nil, carryOut]
    exact Agree.of_idle fun _ => rfl

/-- A plan does to the host what its effects do. -/
theorem carryOutAll_agrees (hsilent : w.host.Silent) (hpurge : w.policy.purgeGenerated = false)
    (dir : Path) : ∀ ps : List Plan,
    Agree (w.carryOutAll dir ps) (w.carryOutAll dir (Plan.effectsAll ps))
  | [] => by
    rw [Plan.effectsAll, carryOutAll_nil]
    exact .skip
  | p :: ps => by
    have hseq := (carryOut_agrees hsilent hpurge dir p).seq
      (carryOutAll_agrees hsilent hpurge dir ps)
    intro s s' hs
    rw [Plan.effectsAll, carryOutAll_cons, carryOutAll_append]
    exact hseq s s' hs

end

end Walker

end Scaffold

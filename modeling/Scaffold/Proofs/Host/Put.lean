import Mathlib
import Scaffold.Mock.Writer
import Scaffold.Output.Walk
import Scaffold.Proofs.Host.Simulation

/-!
# Putting files

Walks and mock data come down to one operation: create the directory that a file is to lie in,
write the file unless it is kept, and count what came of it. Where nothing is told, that is all
they do.
-/

namespace Scaffold

/-- Steps of state programs, one after the other. -/
@[simp] theorem stateM_bind {σ α β : Type} (x : StateM σ α) (f : α → StateM σ β) (s : σ) :
    (x >>= f) s = f (x s).1 (x s).2 := rfl

@[simp] theorem stateM_pure {σ α : Type} (a : α) (s : σ) :
    (pure a : StateM σ α) s = (a, s) := rfl

@[simp] theorem stateM_map {σ α β : Type} (f : α → β) (x : StateM σ α) (s : σ) :
    (f <$> x) s = (f (x s).1, (x s).2) := rfl

theorem exceptT_lift_bind {σ ε α β : Type} (x : StateM σ α) (f : α → ExceptT ε (StateM σ) β)
    (s : σ) : (ExceptT.lift x >>= f).run s = (f (x s).1).run (x s).2 := rfl

theorem exceptT_bind {σ ε α β : Type} (x : ExceptT ε (StateM σ) α)
    (f : α → ExceptT ε (StateM σ) β) (s : σ) :
    (x >>= f).run s =
      match (x.run s).1 with
      | .ok a => (f a).run (x.run s).2
      | .error e => (.error e, (x.run s).2) := by
  rw [ExceptT.run_bind, stateM_bind]
  cases (x.run s).1 <;> rfl

namespace Report

@[simp] theorem record_none (r : Report) : r.record none = r.fail := rfl

end Report

namespace Host

variable {m : Type → Type} [Monad m]

/-- Write a file, with the directories above it; `none` is a failure of either. -/
def put (host : Host m) (overwrite : Bool) (path : Path) (content : String) :
    m (Option WriteOutcome) := do
  if ← host.ensureParent path then host.writeOutput overwrite path content else return none

/-- The directory of a path is there anyway, or it is asked for. -/
theorem ensureParent_cases (host : Host m) (path : Path) :
    host.ensureParent path = pure true ∨
      ∃ dir, (WriteDirective.target path).parent? = some dir ∧ dir.isEmpty = false ∧
        host.ensureParent path = host.createDirAll dir := by
  unfold ensureParent
  cases (WriteDirective.target path).parent? with
  | none => exact .inl rfl
  | some dir =>
    cases hempty : dir.isEmpty with
    | true => exact .inl (by simp [hempty])
    | false => exact .inr ⟨dir, rfl, hempty, by simp [hempty]⟩

theorem ensureParent_of_parent {host : Host m} {path dir : Path}
    (h : (WriteDirective.target path).parent? = some dir) :
    host.ensureParent path = if dir.isEmpty then pure true else host.createDirAll dir := by
  rw [ensureParent, h]

/-- Nothing is told. -/
def Silent (host : Host m) : Prop :=
  ∀ e, host.log e = pure ()

section Silent

variable [LawfulMonad m] {host : Host m}

theorem Silent.recordWrite (h : host.Silent) (r : Report) (path : Path)
    (result : Option WriteOutcome) : host.recordWrite r path result = pure (r.record result) := by
  cases result with
  | some outcome => rfl
  | none =>
    have hlog := h (.error "Failed to write file" [("path", .str path.shown)])
    simp only [Host.recordWrite, hlog, pure_bind]

theorem Silent.writeTarget (h : host.Silent) (target : Path) (content : String) :
    host.writeTarget target content =
      (fun ok : Bool => if ok then some (.written target) else none) <$>
        host.write target content := by
  have hlog := h (.debug "Wrote file" [("path", .str target.shown)])
  rw [Host.writeTarget, map_eq_bind_pure_comp]
  refine bind_congr fun ok => ?_
  cases ok with
  | false => rfl
  | true => simp [hlog]

theorem Silent.writeOutput (h : host.Silent) (overwrite : Bool) (path : Path) (content : String) :
    host.writeOutput overwrite path content =
      if WriteDirective.overwrites (WriteDirective.first? path.chars) overwrite then
        host.writeTarget (WriteDirective.target path) content
      else
        host.pathExists (WriteDirective.target path) >>= fun found =>
          if found then pure (some (.keptExisting (WriteDirective.target path)))
          else host.writeTarget (WriteDirective.target path) content := by
  have hlog := h (.debug "File exists, not overwritten"
    [("path", .str (WriteDirective.target path).shown)])
  have hkept : (do
      host.log (.debug "File exists, not overwritten"
        [("path", .str (WriteDirective.target path).shown)])
      return some (.keptExisting (WriteDirective.target path)) : m (Option WriteOutcome)) =
        pure (some (.keptExisting (WriteDirective.target path))) := by
    rw [hlog, pure_bind]
  rw [← hkept]
  rfl

end Silent

/-- Where looking changes nothing, the writer writes unless it keeps what it finds. -/
theorem Silent.writeOutput_apply {σ : Type} {host : Host (StateM σ)} (h : host.Silent)
    {found : Path → σ → Bool} (hread : ∀ p t, host.pathExists p t = (found p t, t))
    (overwrite : Bool) (path : Path) (content : String) (t : σ) :
    host.writeOutput overwrite path content t =
      if WriteDirective.overwrites (WriteDirective.first? path.chars) overwrite = false ∧
          found (WriteDirective.target path) t = true then
        (some (.keptExisting (WriteDirective.target path)), t)
      else host.writeTarget (WriteDirective.target path) content t := by
  rw [h.writeOutput]
  cases WriteDirective.overwrites (WriteDirective.first? path.chars) overwrite with
  | true => simp
  | false =>
    rw [if_neg Bool.false_ne_true, stateM_bind, hread]
    cases found (WriteDirective.target path) t with
    | true => simp
    | false => simp

end Host

variable {m : Type → Type} [Monad m] [LawfulMonad m]

/-- A walk's output is a file put and counted. -/
theorem Walker.output_eq_put {w : Walker m} (h : w.host.Silent) (path : Path) (content : String)
    (s : WalkState) :
    w.output path content s =
      (fun result => onReport s (·.record result)) <$> w.host.put w.overwrite path content := by
  have hlog := h (.error "Failed to create parent directory" [("path", .str path.shown)])
  simp only [output, Host.put, map_bind]
  refine bind_congr fun created => ?_
  cases created with
  | true => simp [h.recordWrite, onReport]
  | false => simp [hlog, onReport]

theorem Walker.makeDir_eq {w : Walker m} (h : w.host.Silent) (dir : Path) :
    w.makeDir dir = w.host.createDirAll dir := by
  have hlog := h (.error "Failed to create directory, subtree skipped" [("dir", .str dir.shown)])
  have hsame : ∀ made : Bool, (if made then pure true else do
      w.host.log (.error "Failed to create directory, subtree skipped" [("dir", .str dir.shown)])
      return false : m Bool) = pure made := by
    intro made
    cases made with
    | true => rfl
    | false => simp [hlog]
  unfold makeDir
  simp only [hsame, bind_pure]

/-- Where nothing is told, whether the directory for an asset could be created does not matter. -/
theorem Walker.fetchTo_eq {w : Walker m} (h : w.host.Silent) (path : Path) (url : String)
    (s : WalkState) :
    w.fetchTo path url s = (do
      if ← w.host.pathExists path then
        return onReport s fun r => { r with kept := r.kept ++ [path] }
      else
        let _ ← w.host.ensureParent path
        w.host.download url path
        return onReport s fun r => { r with downloads := r.downloads ++ [path] }) := by
  have hkept := h (.debug "Binary exists, not downloaded" [("path", .str path.shown)])
  have hfailed := h (.error "Failed to create directory for download"
    [("path", .str path.shown)])
  unfold fetchTo
  refine bind_congr fun found => ?_
  cases found with
  | true => simp [hkept]
  | false =>
    refine bind_congr fun created => ?_
    cases created with
    | true => rfl
    | false => simp [hfailed]

theorem Walker.prepare_of_not_purging {w : Walker m} (h : w.policy.purgeGenerated = false)
    (dir : Path) (s : WalkState) : w.prepare dir s = pure (onReport s fun r => r.track dir) := by
  simp [prepare, h]

theorem Mock.writeOne_eq_put {w : Mock.Setup m} (h : w.host.Silent) (path : Path)
    (content : String) (r : Report) :
    Mock.writeOne w path content r = r.record <$> w.host.put w.overwrite path content := by
  have hlog := h (.error "Failed to create mock directory" [("path", .str path.shown)])
  simp only [Mock.writeOne, Host.put, map_bind]
  refine bind_congr fun created => ?_
  cases created with
  | true => simp [h.recordWrite]
  | false => simp [hlog]

end Scaffold

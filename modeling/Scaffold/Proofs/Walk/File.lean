import Mathlib
import Scaffold.Proofs.Host.Preservation
import Scaffold.Proofs.Plan.Unit

/-!
# Work on single files

A file node is rendered in one context after another, and each time one outcome is added to the
report. Beside that a node may have its directory purged and tracked before; nothing else of the
state is touched. What the render functions and the host do plays no part in this.
-/

namespace Scaffold

variable {σ : Type}

/-- What comes of a unit of a document tree. -/
inductive Outcome where
  | written (path : Path)
  | kept (path : Path)
  | suppressed
  | failed
  | downloaded (path : Path)
deriving DecidableEq

namespace Report

def count (r : Report) : Outcome → Report
  | .written p => { r with written := r.written ++ [p] }
  | .kept p => { r with kept := r.kept ++ [p] }
  | .suppressed => { r with suppressed := r.suppressed + 1 }
  | .failed => { r with failed := r.failed + 1 }
  | .downloaded p => { r with downloads := r.downloads ++ [p] }

@[simp] theorem purged_count (r : Report) (o : Outcome) : (r.count o).purged = r.purged := by
  cases o <;> rfl

@[simp] theorem tracked_count (r : Report) (o : Outcome) : (r.count o).tracked = r.tracked := by
  cases o <;> rfl

end Report

namespace Walker

/-- The only change is one more outcome. -/
def CountsOne (s s' : WalkState) : Prop :=
  ∃ o, s' = onReport s (·.count o)

theorem CountsOne.context {s s' : WalkState} (h : CountsOne s s') : s'.context = s.context := by
  obtain ⟨o, rfl⟩ := h
  rfl

variable {w : Walker (StateM σ)}

theorem output_countsOne (path : Path) (content : String) (s : WalkState) (t : σ) :
    CountsOne s (w.output path content s t).1 := by
  rw [output, stateM_bind]
  cases (w.host.ensureParent path t).1 with
  | false => exact ⟨.failed, rfl⟩
  | true =>
    simp only [if_true, stateM_bind, stateM_pure]
    cases (w.host.writeOutput w.overwrite path content (w.host.ensureParent path t).2).1 with
    | none => exact ⟨.failed, rfl⟩
    | some outcome =>
      cases outcome with
      | written p => exact ⟨.written p, rfl⟩
      | keptExisting p => exact ⟨.kept p, rfl⟩

theorem fetchTo_countsOne (path : Path) (url : String) (s : WalkState) (t : σ) :
    CountsOne s (w.fetchTo path url s t).1 := by
  rw [fetchTo, stateM_bind]
  cases (w.host.pathExists path t).1 with
  | true => exact ⟨.kept path, rfl⟩
  | false =>
    refine ⟨.downloaded path, ?_⟩
    simp only [Bool.false_eq_true, if_false, stateM_bind]
    split <;> rfl

theorem emit_countsOne (f : DocFile) (dir : Path) (s : WalkState) (t : σ) :
    CountsOne s (w.emit f dir s t).1 := by
  rw [emit, stateM_bind]
  cases (w.renderName f.nameTemplate s t).1 with
  | none => exact ⟨.suppressed, rfl⟩
  | some rendered =>
    simp only [stateM_bind]
    cases (w.render f.content s.context.data (w.renderName f.nameTemplate s t).2).1 with
    | none => exact ⟨.failed, rfl⟩
    | some content => exact output_countsOne _ content s _

theorem fetchAsset_countsOne (f : DocFile) (dir : Path) (s : WalkState) (t : σ) :
    CountsOne s (w.fetchAsset f dir s t).1 := by
  rw [fetchAsset, stateM_bind]
  cases (w.renderName f.name s t).1 with
  | none => exact ⟨.suppressed, rfl⟩
  | some rendered => exact fetchTo_countsOne _ _ s _

/-! ## What files preserve -/

section Preserves

variable {I : σ → Prop}

theorem output_preserves (H : w.host.Preserves I) (path : Path) (content : String)
    (s : WalkState) : Preserves I (w.output path content s) := by
  unfold output
  refine (H.ensureParent path).bind fun _ => .ite ?_ ((H.log _).bind fun _ => .pure _)
  exact (H.writeOutput _ _ _).bind fun _ => (H.recordWrite _ _ _).bind fun _ => .pure _

theorem fetchTo_preserves (H : w.host.Preserves I) (path : Path) (url : String)
    (s : WalkState) : Preserves I (w.fetchTo path url s) := by
  unfold fetchTo
  refine (H.pathExists path).bind fun _ => .ite ((H.log _).bind fun _ => .pure _) ?_
  have hasked := (H.download url path).bind fun _ =>
    .pure (I := I) (onReport s fun r => { r with downloads := r.downloads ++ [path] })
  exact (H.ensureParent path).bind fun _ => .ite ((H.log _).bind fun _ => hasked) hasked

theorem makeDir_preserves (H : w.host.Preserves I) (path : Path) :
    Preserves I (w.makeDir path) := by
  unfold makeDir
  exact (H.createDirAll path).bind fun _ => .ite (.pure _) ((H.log _).bind fun _ => .pure _)

/-- What holds once a directory has been removed and created anew, as far as that succeeds, still
holds when its purge is done. -/
theorem purge_of_emptied (hlog : ∀ e, Preserves I (w.host.log e)) {dir : Path} {t : σ}
    (h : I (if (w.host.removeDirAll dir t).1 then
      (w.host.createDirAll dir (w.host.removeDirAll dir t).2).2 else (w.host.removeDirAll dir t).2))
    (s : WalkState) : I (w.purge dir s t).2 := by
  have htold : ∀ (emptied : Bool) (e e' : LogEvent) (a b : WalkState), Preserves I
      (if emptied = true then do w.host.log e; pure a else do w.host.log e'; pure b) :=
    fun _ e e' a b => .ite ((hlog e).bind fun _ => .pure a) ((hlog e').bind fun _ => .pure b)
  rw [purge, stateM_bind]
  cases hremoved : (w.host.removeDirAll dir t).1 with
  | true =>
    rw [hremoved, if_pos rfl] at h
    rw [if_pos rfl, stateM_bind]
    exact htold _ _ _ _ _ _ h
  | false =>
    rw [hremoved, if_neg Bool.false_ne_true] at h
    exact ((Preserves.pure false).bind fun emptied => htold emptied _ _ _ _) _ h

theorem purge_of_removed (H : w.host.Preserves I) {dir : Path} {t : σ}
    (h : I (w.host.removeDirAll dir t).2) (s : WalkState) : I (w.purge dir s t).2 := by
  apply purge_of_emptied H.log
  split
  · exact H.createDirAll dir _ h
  · exact h

theorem prepare_of_purge {dir : Path} (hpurge : ∀ s, Preserves I (w.purge dir s))
    (s : WalkState) : Preserves I (w.prepare dir s) := by
  unfold prepare
  exact .ite ((hpurge s).bind fun _ => .pure _) ((Preserves.pure s).bind fun _ => .pure _)

theorem prepare_preserves (H : w.host.Preserves I)
    (hremove : ∀ p, Preserves I (w.host.removeDirAll p)) (dir : Path) (s : WalkState) :
    Preserves I (w.prepare dir s) :=
  prepare_of_purge (fun s t ht => purge_of_removed H (hremove dir t ht) s) s

theorem renderName_preserves_of_log (hlog : ∀ e, Preserves I (w.host.log e))
    (hrender : ∀ template data, Preserves I (w.render template data)) (name : String)
    (s : WalkState) : Preserves I (w.renderName name s) := by
  unfold renderName
  refine (hrender name _).bind fun rendered => ?_
  cases rendered with
  | none => exact (hlog _).bind fun _ => .pure _
  | some rendered => exact .ite ((hlog _).bind fun _ => .pure _) (.pure _)

variable (H : w.host.Preserves I) (hrender : ∀ template data, Preserves I (w.render template data))
include H hrender

theorem renderName_preserves (name : String) (s : WalkState) :
    Preserves I (w.renderName name s) :=
  renderName_preserves_of_log H.log hrender name s

theorem emit_preserves (f : DocFile) (dir : Path) (s : WalkState) :
    Preserves I (w.emit f dir s) := by
  unfold emit
  refine (renderName_preserves H hrender _ s).bind fun rendered => ?_
  cases rendered with
  | none => exact .pure _
  | some rendered =>
    refine (hrender f.content _).bind fun content => ?_
    cases content with
    | none => exact .pure _
    | some content => exact output_preserves H _ content s

theorem fetchAsset_preserves (f : DocFile) (dir : Path) (s : WalkState) :
    Preserves I (w.fetchAsset f dir s) := by
  unfold fetchAsset
  refine (renderName_preserves H hrender _ s).bind fun rendered => ?_
  cases rendered with
  | none => exact .pure _
  | some rendered => exact fetchTo_preserves H _ _ s

theorem enter_preserves (name : String) (dir : Path) (s : WalkState) :
    Preserves I (w.enter name dir s) := by
  unfold enter
  refine (hrender name _).bind fun rendered => ?_
  cases rendered with
  | none => exact .pure _
  | some rendered => exact (makeDir_preserves H _).bind fun _ => .ite (.pure _) (.pure _)

end Preserves

/-! ## One context after another -/

/-- Write a file in each of some contexts; the state keeps its own. -/
def emitEach {m : Type → Type} [Monad m] (w : Walker m) (f : DocFile) (dir : Path) :
    List RenderContext → WalkState → m WalkState
  | [], s => return s
  | c :: cs, s => do
    let s' ← w.emit f dir (inContext c s)
    w.emitEach f dir cs (inContext s.context s')

theorem emitEach_cons_apply (f : DocFile) (dir : Path) (c : RenderContext)
    (cs : List RenderContext) (s : WalkState) (t : σ) :
    w.emitEach f dir (c :: cs) s t =
      w.emitEach f dir cs (inContext s.context (w.emit f dir (inContext c s) t).1)
        (w.emit f dir (inContext c s) t).2 := by
  rw [emitEach, stateM_bind]

theorem emitEach_singleton_apply (f : DocFile) (dir : Path) (s : WalkState) (t : σ) :
    w.emitEach f dir [s.context] s t = w.emit f dir s t := by
  rw [emitEach_cons_apply, emitEach, stateM_pure, show inContext s.context s = s from rfl,
    ← (emit_countsOne f dir s t).context]
  rfl

/-- Bindings are undone by what they have replaced, so each entity is bound on top of the context
that the expansion starts with. -/
theorem expandOver_apply (f : DocFile) (key : String) (dir : Path) (entities : List Json)
    (s : WalkState) (t : σ) :
    w.expandOver f key dir entities s t =
      w.emitEach f dir (entities.map fun e => s.context.insert key e) s t := by
  induction entities generalizing s t with
  | nil => rfl
  | cons e rest ih =>
    set bound := s.context.insert key e with hbound
    obtain ⟨emitted, hemitted⟩ : ∃ r, r = w.emit f dir (inContext bound s) t := ⟨_, rfl⟩
    have hundone : emitted.1.context.unbind key (s.context.get? key) = s.context := by
      rw [hemitted, (emit_countsOne f dir (inContext bound s) t).context, inContext, hbound]
      exact RenderContext.unbind_insert key e s.context
    rw [List.map_cons, ← hbound, emitEach_cons_apply, ← hemitted]
    calc w.expandOver f key dir (e :: rest) s t
        = w.expandOver f key dir rest
            (inContext (emitted.1.context.unbind key (s.context.get? key)) emitted.1)
            emitted.2 := by rw [expandOver, hemitted]; rfl
      _ = w.expandOver f key dir rest (inContext s.context emitted.1) emitted.2 := by
          rw [hundone]
      _ = _ := ih (inContext s.context emitted.1) emitted.2

/-! ## What a purge notes -/

theorem purge_fst (dir : Path) (s : WalkState) (t : σ) :
    ∃ emptied : Bool, (w.purge dir s t).1 =
      { s with
        purged := s.purged ++ [dir]
        report := { s.report with
          purged := s.report.purged ++ if emptied then [dir] else [] } } := by
  rw [purge, stateM_bind]
  cases (w.host.removeDirAll dir t).1 with
  | false => exact ⟨false, by simp⟩
  | true =>
    simp only [if_true, stateM_bind]
    cases (w.host.createDirAll dir (w.host.removeDirAll dir t).2).1 with
    | true => exact ⟨true, rfl⟩
    | false => exact ⟨false, by simp⟩

theorem prepare_context (dir : Path) (s : WalkState) (t : σ) :
    (w.prepare dir s t).1.context = s.context := by
  unfold prepare
  split
  · obtain ⟨emptied, hpurged⟩ := purge_fst (w := w) dir s t
    rw [stateM_bind, hpurged]
    rfl
  · rfl

/-- Make the directory ready for a file: where it is generated, prepare it. -/
def ready {m : Type → Type} [Monad m] (w : Walker m) (f : DocFile) (dir : Path)
    (s : WalkState) : m WalkState :=
  if f.dataSource.isTracked then w.prepare dir s else pure s

/-- The work on a file: an asset is fetched, anything else is rendered in its contexts in turn. -/
theorem walkFile_apply (f : DocFile) (dir : Path) (s : WalkState) (t : σ) :
    w.walkFile f dir s t =
      if !f.isText && w.policy.normalDocs then w.fetchAsset f dir s t
      else
        w.emitEach f dir (FileUnit.contexts w.policy.normalDocs s.context f)
          (w.ready f dir s t).1 (w.ready f dir s t).2 := by
  unfold walkFile FileUnit.contexts ready
  split
  · rfl
  · have hexpand : ∀ key, f.dataSource.bindingKey? = some key → ∀ s t,
        w.expand f dir s t = w.emitEach f dir
          ((s.context.entities f.dataSource f.isEnumsOnly).map fun e => s.context.insert key e)
          s t := by
      intro key hkey s t
      rw [expand]
      simp only [hkey]
      exact expandOver_apply f key dir _ s t
    have hprepare : ∀ key, f.dataSource.bindingKey? = some key →
        (w.prepare dir s >>= fun s => w.expand f dir s) t = w.emitEach f dir
          ((s.context.entities f.dataSource f.isEnumsOnly).map fun e => s.context.insert key e)
          (w.prepare dir s t).1 (w.prepare dir s t).2 := by
      intro key hkey
      rw [stateM_bind, hexpand key hkey, prepare_context]
    cases hsource : f.dataSource with
    | handlebarHelper => simp [DataSource.bindingKey?, DataSource.isTracked, emitEach]
    | none =>
      cases w.policy.normalDocs with
      | false => simp [DataSource.bindingKey?, DataSource.isTracked, emitEach]
      | true =>
        simpa [DataSource.bindingKey?, DataSource.isTracked] using
          (emitEach_singleton_apply f dir s t).symm
    | interface | dataType =>
      rw [hsource] at hprepare
      simpa [DataSource.bindingKey?, DataSource.isTracked] using hprepare _ rfl
    | template | webView =>
      rw [hsource] at hexpand
      simpa [DataSource.bindingKey?, DataSource.isTracked] using hexpand _ rfl s t

section Preserves

variable {I : σ → Prop} (H : w.host.Preserves I)
include H

theorem ready_preserves (hremove : ∀ p, Preserves I (w.host.removeDirAll p)) (f : DocFile)
    (dir : Path) (s : WalkState) : Preserves I (w.ready f dir s) :=
  .ite (prepare_preserves H hremove dir s) (.pure s)

variable (hrender : ∀ template data, Preserves I (w.render template data))
include hrender

theorem emitEach_preserves (f : DocFile) (dir : Path) (cs : List RenderContext) (s : WalkState) :
    Preserves I (w.emitEach f dir cs s) := by
  induction cs generalizing s with
  | nil => exact .pure s
  | cons c cs ih => exact (emit_preserves H hrender f dir _).bind fun _ => ih _

/-- A file preserves what its purge preserves. -/
theorem walkFile_of_purge {dir : Path} (hpurge : ∀ s, Preserves I (w.purge dir s)) (f : DocFile)
    (s : WalkState) : Preserves I (w.walkFile f dir s) := by
  have hready : Preserves I (w.ready f dir s) := .ite (prepare_of_purge hpurge s) (.pure s)
  intro t ht
  rw [walkFile_apply]
  split
  · exact fetchAsset_preserves H hrender f dir s t ht
  · exact emitEach_preserves H hrender f dir _ _ _ (hready t ht)

theorem walkFile_preserves (hremove : ∀ p, Preserves I (w.host.removeDirAll p)) (f : DocFile)
    (dir : Path) (s : WalkState) : Preserves I (w.walkFile f dir s) :=
  walkFile_of_purge H hrender (fun s t ht => purge_of_removed H (hremove dir t ht) s) f s

end Preserves

end Walker

end Scaffold

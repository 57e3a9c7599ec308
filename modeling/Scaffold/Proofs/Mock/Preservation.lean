import Mathlib
import Scaffold.Mock.Writer
import Scaffold.Proofs.Host.Preservation

/-!
# What mock data leaves alone

Writing mock data removes nothing, so what the other operations of the host preserve stays. Its
report tells of files, and of no directories that are purged or tracked.
-/

namespace Scaffold

variable {σ : Type} {I : σ → Prop}

/-- No directory is purged or tracked. -/
def Report.OnlyFiles (r : Report) : Prop :=
  r.purged = [] ∧ r.tracked = []

theorem Report.OnlyFiles.record {r : Report} (h : r.OnlyFiles) (result : Option WriteOutcome) :
    (r.record result).OnlyFiles := by
  rcases result with _ | (p | p) <;> exact h

theorem Host.Preserves.recordWrite_onlyFiles {h : Host (StateM σ)} (H : h.Preserves I) {r : Report}
    (hr : r.OnlyFiles) (path : Path) (result : Option WriteOutcome) :
    Ensures I Report.OnlyFiles (h.recordWrite r path result) := by
  unfold Host.recordWrite
  cases result with
  | some outcome => exact .pure (hr.record _)
  | none => exact .step (H.log _) fun _ => .pure (hr.record none)

namespace Mock

variable {w : Setup (StateM σ)} (H : w.host.Preserves I)
include H

theorem tell_preserves (data : MockData) (subject : String) :
    Preserves I (tell w.host data subject) := by
  unfold tell
  exact (H.logAll _).bind fun _ => .ite (H.log _) (.pure _)

theorem writeOne_ensures (path : Path) (content : String) {r : Report} (hr : r.OnlyFiles) :
    Ensures I Report.OnlyFiles (writeOne w path content r) := by
  unfold writeOne
  refine .step (H.ensureParent path) fun _ => .ite ?_ ?_
  · exact .step (H.writeOutput _ _ _) fun result => H.recordWrite_onlyFiles hr path result
  · exact .step (H.log _) fun _ => .pure (hr.record none)

theorem writePair_ensures (stem : Path) (json : Json) {r : Report} (hr : r.OnlyFiles) :
    Ensures I Report.OnlyFiles (writePair w stem json r) :=
  (writeOne_ensures H _ _ hr).bind fun _ hr => writeOne_ensures H _ _ hr

theorem writeInterfaces_ensures (s : Spec) (root : Path) (is : List Interface) {r : Report}
    (hr : r.OnlyFiles) :
    Ensures I (fun a => a.2.OnlyFiles) (writeInterfaces w s root is r) := by
  induction is generalizing r with
  | nil => exact .pure hr
  | cons i is ih =>
    unfold writeInterfaces interfacePayload
    rw [bind_assoc]
    refine .step (tell_preserves H _ _) fun _ => ?_
    rw [bind_assoc]
    refine .step (tell_preserves H _ _) fun _ => ?_
    rw [pure_bind]
    refine (writePair_ensures H _ _ hr).bind fun r hr => ?_
    exact (ih hr).bind fun _ hr => .pure hr

theorem templatePayload_preserves (s : Spec) (t : PageTemplate) :
    Preserves I (templatePayload w s t) := by
  unfold templatePayload
  exact .ite (.pure _) ((tell_preserves H _ _).bind fun _ => .pure _)

theorem writeTemplates_ensures (s : Spec) (root : Path) (ts : List PageTemplate) {r : Report}
    (hr : r.OnlyFiles) : Ensures I Report.OnlyFiles (writeTemplates w s root ts r) := by
  induction ts generalizing r with
  | nil => exact .pure hr
  | cons t ts ih =>
    unfold writeTemplates
    refine .ite ?_ (ih hr)
    refine .step (templatePayload_preserves H s t) fun _ => ?_
    exact (writePair_ensures H _ _ hr).bind fun _ hr => ih hr

theorem writeAll_ensures (s : Spec) (apiRoot viewRoot : Option Path) :
    Ensures I (fun a => a.2.OnlyFiles) (writeAll w s apiRoot viewRoot) := by
  have hempty : ({} : Report).OnlyFiles := ⟨rfl, rfl⟩
  unfold writeAll
  cases viewRoot with
  | none =>
    cases apiRoot with
    | none => exact .pure hempty
    | some root =>
      exact (writeInterfaces_ensures H s root s.interfaces hempty).bind fun _ hr => .pure hr
  | some viewRoot =>
    have htemplates : ∀ (rules : List MockRule) (r : Report), r.OnlyFiles →
        Ensures I (fun a : List MockRule × Report => a.2.OnlyFiles)
          (do return (rules, ← writeTemplates w s viewRoot s.templates r)) :=
      fun _ _ hr => (writeTemplates_ensures H s viewRoot s.templates hr).bind fun _ hr => .pure hr
    cases apiRoot with
    | none => exact htemplates [] {} hempty
    | some root =>
      exact (writeInterfaces_ensures H s root s.interfaces hempty).bind fun a hr =>
        htemplates a.1 a.2 hr

end Mock

end Scaffold

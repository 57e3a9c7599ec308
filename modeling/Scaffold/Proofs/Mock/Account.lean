import Mathlib
import Scaffold.Mock.Writer
import Scaffold.Proofs.Host.Put

/-!
# Every mock file is accounted for

Whatever the host answers, each attempt to write a file is recorded once: as written, as kept or
as failed. An interface makes two attempts, and so does a template that a page shows; nothing that
goes wrong with one of them keeps the others from being made.
-/

namespace Scaffold

/-- How many attempts to write a report tells of. -/
def Report.attempts (r : Report) : Nat :=
  r.written.length + r.kept.length + r.failed

theorem Report.attempts_record (r : Report) (result : Option WriteOutcome) :
    (r.record result).attempts = r.attempts + 1 := by
  rcases result with _ | (p | p)
  · rfl
  · simp only [record, attempts, List.length_append, List.length_singleton]
    omega
  · simp only [record, attempts, List.length_append, List.length_singleton]
    omega

namespace Mock

variable {σ : Type} (w : Setup (StateM σ))

theorem attempts_writeOne (path : Path) (content : String) (r : Report) (t : σ) :
    (writeOne w path content r t).1.attempts = r.attempts + 1 := by
  rw [writeOne, stateM_bind]
  cases (w.host.ensureParent path t).1 with
  | false => exact r.attempts_record none
  | true =>
    rw [if_pos rfl, stateM_bind]
    unfold Host.recordWrite
    cases (w.host.writeOutput w.overwrite path content (w.host.ensureParent path t).2).1 with
    | none => exact r.attempts_record none
    | some outcome => exact r.attempts_record (some outcome)

theorem attempts_writePair (stem : Path) (json : Json) (r : Report) (t : σ) :
    (writePair w stem json r t).1.attempts = r.attempts + 2 := by
  rw [writePair, stateM_bind, attempts_writeOne, attempts_writeOne]

/-! ## Interfaces -/

theorem writeInterfaces_cons_apply (s : Spec) (root : Path) (i : Interface) (is : List Interface)
    (r : Report) (t : σ) :
    writeInterfaces w s root (i :: is) r t =
      let json := interfacePayload w s i t
      let pair := writePair w (root.joinRendered (mockFile i)) json.1 r json.2
      let rest := writeInterfaces w s root is pair.1 pair.2
      ((ruleOf i :: rest.1.1, rest.1.2), rest.2) := by
  rw [writeInterfaces]
  simp only [stateM_bind, stateM_pure]

theorem rules_writeInterfaces (s : Spec) (root : Path) (is : List Interface) (r : Report) (t : σ) :
    (writeInterfaces w s root is r t).1.1 = is.map ruleOf := by
  induction is generalizing r t with
  | nil => rfl
  | cons i is ih =>
    rw [writeInterfaces_cons_apply]
    exact congrArg (ruleOf i :: ·) (ih _ _)

theorem attempts_writeInterfaces (s : Spec) (root : Path) (is : List Interface) (r : Report)
    (t : σ) :
    (writeInterfaces w s root is r t).1.2.attempts = r.attempts + 2 * is.length := by
  induction is generalizing r t with
  | nil => rfl
  | cons i is ih =>
    rw [writeInterfaces_cons_apply]
    dsimp only
    rw [ih, attempts_writePair, List.length_cons]
    omega

/-! ## Templates -/

theorem isShown_iff {s : Spec} {u : PageTemplate} :
    isShown s u = true ↔ ∃ page ∈ s.pages, ∃ used ∈ page.templates,
      used.path = u.path ∨ used.path = u.path ++ "." ++ s.info.viewExt.getD "" := by
  simp only [isShown, refersTo, List.any_eq_true, Bool.or_eq_true, beq_iff_eq,
    eq_comm (a := u.path ++ "." ++ s.info.viewExt.getD "")]

theorem attempts_writeTemplates (s : Spec) (root : Path) (us : List PageTemplate) (r : Report)
    (t : σ) :
    (writeTemplates w s root us r t).1.attempts = r.attempts + 2 * us.countP (isShown s) := by
  induction us generalizing r t with
  | nil => rfl
  | cons u us ih =>
    rw [writeTemplates]
    cases hshown : isShown s u with
    | false =>
      rw [if_neg Bool.false_ne_true, ih, List.countP_cons_of_neg (by simp [hshown])]
    | true =>
      rw [if_pos rfl, stateM_bind, stateM_bind, ih, attempts_writePair,
        List.countP_cons_of_pos hshown]
      omega

/-- Every interface has its rule, whatever becomes of its files, and what is written, kept or
failed in the end are two files for each interface and each template that some page lists, with
or without the extension of views. -/
theorem mock_files_accounted (s : Spec) (apiRoot viewRoot : Path) (t : σ) :
    let interfaces := writeInterfaces w s apiRoot s.interfaces {} t
    let templates := writeTemplates w s viewRoot s.templates interfaces.1.2 interfaces.2
    let report := templates.1
    let extended := fun path : String => path ++ "." ++ s.info.viewExt.getD ""
    interfaces.1.1.map (fun rule => (rule.id, rule.path)) =
        s.interfaces.map (fun i => (i.id, i.path)) ∧
      report.written.length + report.kept.length + report.failed =
        2 * s.interfaces.length +
          2 * s.templates.countP fun u => ∃ page ∈ s.pages, ∃ used ∈ page.templates,
            used.path = u.path ∨ used.path = extended u.path := by
  intro interfaces templates report extended
  have hrules : interfaces.1.1 = s.interfaces.map ruleOf :=
    rules_writeInterfaces w s apiRoot s.interfaces {} t
  have hinterfaces : interfaces.1.2.attempts = 0 + 2 * s.interfaces.length :=
    attempts_writeInterfaces w s apiRoot s.interfaces {} t
  have htemplates : report.attempts = interfaces.1.2.attempts + 2 * s.templates.countP (isShown s) :=
    attempts_writeTemplates w s viewRoot s.templates interfaces.1.2 interfaces.2
  have hshown : s.templates.countP (isShown s) = s.templates.countP fun u =>
      ∃ page ∈ s.pages, ∃ used ∈ page.templates,
        used.path = u.path ∨ used.path = extended u.path := by
    apply List.countP_congr
    intro u _
    rw [isShown_iff, decide_eq_true_iff]
  refine ⟨?_, ?_⟩
  · rw [hrules, List.map_map]
    rfl
  · rw [hinterfaces, hshown, Nat.zero_add] at htemplates
    exact htemplates

end Mock

end Scaffold

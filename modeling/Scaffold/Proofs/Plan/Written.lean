import Mathlib
import Scaffold.Proofs.Host.Journal
import Scaffold.Proofs.Plan.Induction
import Scaffold.Proofs.Plan.Mock

/-!
# What a plan writes

By the journal, a plan writes some of its outputs to their targets, in its own order, and
nothing else. The report lists just these targets.
-/

namespace Scaffold

/-- The journal goes on with some of the entries, and the report with their targets. -/
def Writes {S : Type} (report : S → Report) (entries : List (Path × String))
    (x : S → StateM Journal S) : Prop :=
  ∀ s j, ∃ done : List (Path × String), done.Sublist entries ∧
    (x s j).2.writes = j.writes ++ done.map (fun e => (WriteDirective.target e.1, e.2)) ∧
    (report (x s j).1).written =
      (report s).written ++ done.map (fun e => WriteDirective.target e.1)

namespace Writes

section Steps

variable {S : Type} {report : S → Report} {xs ys : List (Path × String)}
  {x y : S → StateM Journal S}

/-- Steps that write nothing and report nothing written. -/
theorem of_none (entries : List (Path × String))
    (h : ∀ s j, (x s j).2.writes = j.writes ∧
      (report (x s j).1).written = (report s).written) : Writes report entries x := by
  intro s j
  obtain ⟨hwrites, hreport⟩ := h s j
  exact ⟨[], List.nil_sublist _, by simpa using hwrites, by simpa using hreport⟩

theorem seq (hx : Writes report xs x) (hy : Writes report ys y) :
    Writes report (xs ++ ys) fun s => x s >>= y := by
  intro s j
  obtain ⟨done, hsub, hwrites, hreport⟩ := hx s j
  obtain ⟨done', hsub', hwrites', hreport'⟩ := hy (x s j).1 (x s j).2
  refine ⟨done ++ done', hsub.append hsub', ?_, ?_⟩
  · simp only [stateM_bind, hwrites', hwrites, List.map_append, List.append_assoc]
  · simp only [stateM_bind, hreport', hreport, List.map_append, List.append_assoc]

theorem put (r : Refusals) (overwrite : Bool) (path : Path) (content : String)
    (count : S → Option WriteOutcome → S)
    (hcount : ∀ s result, (report (count s result)) = (report s).record result) :
    Writes report [(path, content)] fun s =>
      count s <$> (Journal.host r).put overwrite path content := by
  intro s j
  rcases Journal.put_recorded r overwrite path content j with ⟨hresult, hwrites⟩ |
    ⟨hresult | hresult, hwrites⟩
  · refine ⟨[(path, content)], List.Sublist.refl _, hwrites, ?_⟩
    simp [hcount, hresult, Report.record]
  · refine ⟨[], List.nil_sublist _, by simpa using hwrites, ?_⟩
    simp [hcount, hresult, Report.fail]
  · refine ⟨[], List.nil_sublist _, by simpa using hwrites, ?_⟩
    simp [hcount, hresult, Report.record]

/-- Files that are put one after the other. -/
theorem putAll (r : Refusals) (overwrite : Bool) (entries : List (Path × String)) :
    Writes id entries ((Journal.host r).putAll overwrite entries) := by
  induction entries with
  | nil => exact of_none [] fun _ _ => ⟨rfl, rfl⟩
  | cons e entries ih =>
    have hfirst : Writes id [e] fun s =>
        Report.record s <$> (Journal.host r).put overwrite e.1 e.2 :=
      put r overwrite e.1 e.2 Report.record fun _ _ => rfl
    have hall := hfirst.seq ih
    simp only [bind_map_left, List.singleton_append] at hall
    exact hall

end Steps

variable {w : Walker (StateM Journal)} {r : Refusals}

theorem prepare (hw : w.host = Journal.host r) (dir : Path) :
    Writes WalkState.report [] (w.prepare dir) := by
  refine of_none [] fun s j => ?_
  have hlog := Journal.silent r
  unfold Walker.prepare Walker.purge
  rw [hw]
  by_cases hpurge : (w.policy.purgeGenerated && !s.purged.any (Path.same dir)) = true
  · cases hremoved : ((Journal.host r).removeDirAll dir j).1 with
    | false => simp [hpurge, hremoved, hlog _, Walker.onReport, Report.track]
    | true =>
      cases hcreated : ((Journal.host r).createDirAll dir
          ((Journal.host r).removeDirAll dir j).2).1 with
      | false => simp [hpurge, hremoved, hcreated, hlog _, Walker.onReport, Report.track]
      | true => simp [hpurge, hremoved, hcreated, hlog _, Walker.onReport, Report.track]
  · simp [hpurge, Walker.onReport, Report.track]

theorem fetchTo (hw : w.host = Journal.host r) (path : Path) (url : String) :
    Writes WalkState.report [] (w.fetchTo path url) := by
  refine of_none [] fun s j => ?_
  rw [Walker.fetchTo_eq (hw ▸ Journal.silent r), hw]
  cases hfound : ((Journal.host r).pathExists path j).1 with
  | true => simp [hfound, Walker.onReport]
  | false => simp [hfound, Walker.onReport]

theorem enter (hw : w.host = Journal.host r) (dir : Path) {xs : List (Path × String)}
    {x : WalkState → StateM Journal WalkState} (hx : Writes WalkState.report xs x) :
    Writes WalkState.report xs fun s => do
      if ← w.makeDir dir then x s else return Walker.onReport s Report.fail := by
  intro s j
  have hmake : (w.makeDir dir j).2.writes = j.writes := by
    rw [Walker.makeDir_eq (hw ▸ Journal.silent r), hw, Journal.writes_createDirAll]
  cases hmade : (w.makeDir dir j).1 with
  | true =>
    obtain ⟨done, hsub, hwrites, hreport⟩ := hx s (w.makeDir dir j).2
    refine ⟨done, hsub, ?_, ?_⟩
    · simp [hmade, hwrites, hmake]
    · simp [hmade, hreport]
  | false => exact ⟨[], List.nil_sublist _, by simp [hmade, hmake], by
      simp [hmade, Walker.onReport, Report.fail]⟩

end Writes

/-- A plan on a journal writes outputs of its own and reports just these. -/
theorem Walker.writes_compositional {w : Walker (StateM Journal)} {r : Refusals}
    (hw : w.host = Journal.host r) :
    w.Compositional (fun _ => True) (Writes WalkState.report) where
  skip := .of_none [] fun _ _ => ⟨rfl, rfl⟩
  seq hx hy := hx.seq hy
  enter _ hx := .enter hw _ hx
  put path content := by
    have heq : w.output path content = fun s =>
        (fun result => onReport s (·.record result)) <$>
          (Journal.host r).put w.overwrite path content := by
      funext s
      rw [output_eq_put (hw ▸ Journal.silent r), hw]
    rw [heq]
    exact .put r w.overwrite path content _ fun _ _ => rfl
  prepare dir := .prepare hw dir
  fetch path url := .fetchTo hw path url
  suppress := .of_none [] fun _ _ => ⟨rfl, rfl⟩
  fail := .of_none [] fun _ _ => ⟨rfl, rfl⟩

end Scaffold

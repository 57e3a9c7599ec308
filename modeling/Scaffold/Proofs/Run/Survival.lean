import Mathlib
import Scaffold.Proofs.Host.Journal
import Scaffold.Proofs.Plan.Written
import Scaffold.Proofs.Run.Invariant

/-!
# What survives a run

A run reports the files it has written. Nothing but a purge takes them away again; but a purge
comes when generated sources are met for the first time in a directory, and does not ask what
the same run has put there before.
-/

namespace Scaffold

namespace Journal

/-- If the operations of a journal preserve `I`, runs on it preserve `I`. -/
theorem guarded {m : Type → Type} {u : RunSetup m} {c : RunConfig} {I : Journal → Prop}
    (r : Refusals) (s : Spec) (hcreate : ∀ p, Preserves I ((host r).createDirAll p))
    (hwrite : ∀ p content, Preserves I ((host r).write p content))
    (hdownload : ∀ url p, Preserves I ((host r).download url p))
    (hremove : (u.policy c).purgeGenerated = true → ∀ p, Preserves I ((host r).removeDirAll p)) :
    u.Guarded (host r) c s I where
  silent := silent r
  put e _ := .put (silent r) hcreate (fun _ => .of_reads fun _ => rfl) (hwrite _ e.2) _
  replace _ _ _ content := .writeTarget (silent r) (hwrite _ content)
  createDirAll := hcreate
  removeDirAll := hremove
  download := hdownload
  pathExists _ := .of_reads fun _ => rfl
  readText _ := .of_reads fun _ => rfl
  names _ := .of_reads fun _ => rfl
  updateProject _ _ := .of_reads fun _ => rfl

theorem sound_guarded {m : Type → Type} (u : RunSetup m) (c : RunConfig) (r : Refusals)
    (s : Spec) (wd : Location) : u.Guarded (host r) c s (Sound wd) :=
  guarded r s (fun p _ h => h.createDirAll r p) (fun p content _ h => h.write r p content)
    (fun url p _ h => h.download r url p) fun _ p _ h => h.removeDirAll r p

theorem intact_guarded {m : Type → Type} {u : RunSetup m} {c : RunConfig} (r : Refusals)
    (s : Spec) (hpurge : (u.policy c).purgeGenerated = false) : u.Guarded (host r) c s Intact :=
  guarded r s (fun p _ h => h.createDirAll r p) (fun p content _ h => h.write r p content)
    (fun url p _ h => h.download r url p) fun h => by simp [hpurge] at h

/-- Calls are only ever added. -/
theorem calls_guarded {m : Type → Type} (u : RunSetup m) (c : RunConfig) (r : Refusals)
    (s : Spec) (calls : List Call) :
    u.Guarded (host r) c s fun j => calls <:+ j.calls :=
  guarded r s (fun _ _ h => h.trans (List.suffix_cons _ _))
    (fun _ _ _ h => h.trans (List.suffix_cons _ _))
    (fun _ _ _ h => h.trans (List.suffix_cons _ _))
    fun _ _ _ h => h.trans (List.suffix_cons _ _)

theorem mem_writes_of_suffix {j j' : Journal} (h : j.calls <:+ j'.calls) {e : Path × String}
    (he : e ∈ j.writes) : e ∈ j'.writes := by
  obtain ⟨c, hc, hwritten⟩ := List.mem_filterMap.1 he
  rw [List.mem_reverse] at hc
  exact List.mem_filterMap.2 ⟨c, List.mem_reverse.2 (h.subset hc), hwritten⟩

end Journal

/-- Targets in a report that grew with the journal were written. -/
theorem mem_writes_of_done {j : Journal} {old : List (Path × String)}
    {done : List (Path × String)}
    (hwrites : j.writes = old ++ done.map fun e => (WriteDirective.target e.1, e.2)) {p : Path}
    (hp : p ∈ done.map fun e => WriteDirective.target e.1) :
    ∃ content, (p, content) ∈ j.writes := by
  obtain ⟨e, he, rfl⟩ := List.mem_map.1 hp
  refine ⟨e.2, ?_⟩
  rw [hwrites, List.mem_append]
  exact .inr (List.mem_map.2 ⟨e, he, rfl⟩)

namespace RunSetup

variable {m : Type → Type} {u : RunSetup m} {c : RunConfig} {s : Spec} {r : Refusals}

/-- What a run reports as written, it has written, by the journal. -/
theorem mem_writes_of_reported {j : Journal} {rep : RunReport}
    (hok : ((u.carryOut (Journal.host r) c s).run j).1 = .ok rep) {p : Path}
    (hp : p ∈ rep.files.written) :
    ∃ content, (p, content) ∈ ((u.carryOut (Journal.host r) c s).run j).2.writes := by
  rw [carryOut_run] at hok ⊢
  split at hok
  · rename_i hcreated
    rw [if_pos hcreated]
    dsimp only at hok ⊢
    set j' := ((Journal.host r).createDirAll c.outputRoot j).2
    set mocks := (Journal.host r).putAll c.args.overwrite (u.mocks c s) {} j' with hmocks
    set walked := (u.walker (Journal.host r) c s).carryOutAll c.outputRoot (plan c s)
      { context := context c s } mocks.2 with hwalked
    rw [finish_files _ _ _ _ _ _ hok] at hp
    have hp : p ∈ mocks.1.written ++ walked.1.report.written := by
      simpa [report, Report.merge] using hp
    obtain ⟨done, -, hwrites, hreport⟩ :=
      Writes.putAll r c.args.overwrite (u.mocks c s) {} j'
    obtain ⟨done', -, hwrites', hreport'⟩ :=
      (Walker.writes_compositional (w := u.walker (Journal.host r) c s) rfl).carryOutAll
        (fun _ _ _ => trivial) c.outputRoot trivial (plan c s) { context := context c s } mocks.2
    rw [← hmocks] at hwrites hreport
    rw [← hwalked] at hwrites' hreport'
    have hcalls := (Journal.calls_guarded u c r s walked.2.calls).finish u s
      ((u.known c).getD {}) (mockRules c s) (viewRules c s)
      (u.report c s mocks.1 walked.1.report) walked.2 (List.suffix_refl _)
    have hthere : ∃ content, (p, content) ∈ walked.2.writes := by
      rcases List.mem_append.1 hp with hp | hp
      · rw [show mocks.1.written = _ from hreport] at hp
        obtain ⟨content, hmem⟩ := mem_writes_of_done hwrites (by simpa using hp)
        exact ⟨content, by rw [hwrites']; exact List.mem_append_left _ hmem⟩
      · rw [hreport'] at hp
        exact mem_writes_of_done hwrites' (by simpa using hp)
    obtain ⟨content, hmem⟩ := hthere
    exact ⟨content, Journal.mem_writes_of_suffix hcalls hmem⟩
  · simp at hok

/-- A run that succeeds has written every file it reports as written. At the end the path leads to
the last content that the run has written to its place, just if no removal has taken that away
since and the way there still exists. Both are so if the run does not purge. -/
theorem run_written_names_iff {σ : Type} {view : σ → Journal} {u : RunSetup (StateM σ)}
    (hhost : u.host.Follows view (Journal.host r)) (c : RunConfig) (s : Spec) (w : σ)
    (hstart : (view w).calls = []) (rep : RunReport) (hok : ((u.run c s).run w).1 = .ok rep)
    (p : Path) (hp : p ∈ rep.files.written) :
    let j := view ((u.run c s).run w).2
    let place := j.files.destination p
    ∃ content, Journal.lastContent? place j.calls = some content ∧
      (j.files.get? p = some (place, .file content) ↔
        Journal.lost place j.calls = false ∧ j.files.locate p = .ok place) ∧
      ((RegenerationPolicy.ofArgs c.args u.change).purgeGenerated = false →
        j.files.get? p = some (place, .file content)) := by
  intro j place
  have hview := (run_settles hhost (fun _ _ => rfl) c s w).1
  have hcarried := carryOut_ok hhost (fun _ _ => rfl) hok
  obtain ⟨written, hmem⟩ := mem_writes_of_reported hcarried hp
  rw [← hview] at hmem
  have hsound : j.Sound (view w).files.cwd := by
    refine run_preserves hhost (fun _ _ => rfl) (Journal.sound_guarded u c r s _) ?_
    exact ⟨rfl, by simp [hstart], by simp [hstart],
      by simp [hstart, Journal.lastContent?]⟩
  obtain ⟨content, hlast⟩ := hsound.exists_last hmem
  have hiff := hsound.get?_iff hmem hlast
  refine ⟨content, hlast, hiff, fun hpurge => hiff.2 ?_⟩
  have hintact : j.Intact := by
    refine run_preserves hhost (fun _ _ => rfl)
      (Journal.intact_guarded r s (policy_not_purging hpurge)) ?_
    exact ⟨fun loc => by simp [hstart, Journal.lost], by simp [hstart]⟩
  exact ⟨hintact.kept place, hintact.located_of_mem_writes hmem⟩

/-- Without a purge, what was written is there in the end. -/
theorem run_written_file_stays :
    let u : RunSetup (StateM Journal) :=
      { host := Journal.host {}, provider := .ofTypes 3, change := {} }
    let c : RunConfig :=
      { args := { action := .build }, outputRoot := .ofString "out"
        configRoot := .ofString "conf" }
    let s : Spec := { docs := [.file ⟨1, "a.txt", none, .none, "new"⟩] }
    ∃ content, ((u.run c s).run ⟨{}, []⟩).2.files.get? (.ofString "out/a.txt") =
      some (((u.run c s).run ⟨{}, []⟩).2.files.destination (.ofString "out/a.txt"),
        .file content) := by
  intro u c s
  have hfollows := Journal.host_follows_self {}
  have hresult := run_result (u := u) hfollows (fun _ _ => rfl)
    (Journal.not_refusesUpdate {}) c s ⟨{}, []⟩
  have hwritten : ((u.carryOut (Journal.host {}) c s).run (id ⟨{}, []⟩)).1.toOption.any
      (fun rep => decide (Path.ofString "out/a.txt" ∈ rep.files.written)) = true := by
    decide +kernel
  obtain ⟨rep, hrep, hmem⟩ := exists_ok_of_any hwritten
  obtain ⟨content, -, -, hstays⟩ := run_written_names_iff (u := u) hfollows c s ⟨{}, []⟩ rfl rep
    (hresult.trans hrep) (.ofString "out/a.txt") (of_decide_eq_true hmem)
  simp only [id_eq] at hstays
  exact ⟨content, hstays rfl⟩

/-- A purge does not ask what the same run has written: documents that stand before the first
interface file of their directory are reported as written, and gone. -/
theorem run_purges_written_file :
    let u : RunSetup (StateM Workspace) :=
      { host := Workspace.host.refusing {}, provider := .ofTypes 3
        change := { interfaces := true } }
    let c : RunConfig :=
      { args := { action := .build, key := some "k", platform := .ios }
        outputRoot := .ofString "out", configRoot := .ofString "conf" }
    let s : Spec :=
      { docs := [.directory 1 "gen" [.file ⟨2, "a.txt", none, .none, "A"⟩,
          .file ⟨3, "{{interface.name}}.txt", none, .interface, "I"⟩]]
        interfaces := [{ id := 1, name := "getA", method := "GET", path := "/a" }] }
    ∃ rep, ((u.run c s).run {}).1 = .ok rep ∧
      Path.ofString "out/gen/a.txt" ∈ rep.files.written ∧
      ((u.run c s).run {}).2.files.get? (.ofString "out/gen/a.txt") = none := by
  intro u c s
  have hfollows := Workspace.host_refusing_follows {}
  have hresult := run_result (u := u) hfollows (fun _ _ => rfl)
    (Workspace.not_refusesUpdate {}) c s {}
  have hfiles := (run_settles (u := u) hfollows (fun _ _ => rfl) c s {}).1
  have hwritten : ((u.carryOut (FileTree.host {}) c s).run (Workspace.files {})).1.toOption.any
      (fun rep => decide (Path.ofString "out/gen/a.txt" ∈ rep.files.written)) = true := by
    decide +kernel
  have hgone : ((u.carryOut (FileTree.host {}) c s).run (Workspace.files {})).2.get?
      (.ofString "out/gen/a.txt") = none := by
    decide +kernel
  obtain ⟨rep, hrep, hmem⟩ := exists_ok_of_any hwritten
  rw [← hfiles] at hgone
  exact ⟨rep, hresult.trans hrep, of_decide_eq_true hmem, hgone⟩

end RunSetup

end Scaffold

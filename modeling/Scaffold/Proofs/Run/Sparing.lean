import Mathlib
import Scaffold.Proofs.FileTree.Content
import Scaffold.Proofs.Plan.Unit
import Scaffold.Proofs.Run.Keeping
import Scaffold.Proofs.Run.Survival

/-!
# Files that a run has no business with

A run writes to the targets of its entries and to its configuration. A file at any other place is
left alone, unless a purge removes a directory above it. So it is with the plain documents of an
update, which writes the files of entities only.
-/

namespace Scaffold

open WriteDirective (target)

namespace Journal

/-- At `loc` is the file that was there before, or none if a removal has taken it away. Where
`purges` is false, nothing is removed. -/
structure Spared (purges : Bool) (before : FileTree) (loc : Location) (j : Journal) : Prop where
  cwd : j.files.cwd = before.cwd
  file : j.files.fileAt? loc =
    if j.calls.any (Call.takesAway loc) then none else before.fileAt? loc
  above : ∀ call ∈ j.calls, call.takesAway loc = true →
    purges = true ∧ ∃ p, call.request = .removeDirAll p ∧ before.destination p <+: loc

namespace Spared

variable {purges : Bool} {before : FileTree} {loc : Location} {j : Journal}

theorem start (hstart : j.calls = []) : Spared purges j.files loc j := by
  refine ⟨rfl, ?_, ?_⟩
  · rw [hstart]
    rfl
  · simp [hstart]

/-- Requests that are about something else. -/
theorem perform (h : Spared purges before loc j) {request : Request}
    {op : StateM FileTree Bool} (hcwd : (op j.files).2.cwd = j.files.cwd)
    (hfile : (op j.files).2.fileAt? loc = j.files.fileAt? loc)
    (htakes : ∀ p, request = .removeDirAll p → (op j.files).2.find? loc = j.files.find? loc) :
    Spared purges before loc (perform request op j).2 := by
  have hstays : Call.takesAway loc
      ⟨request, j.files, (op j.files).2, (op j.files).1⟩ = false := by
    cases request with
    | removeDirAll p =>
      simp only [Call.takesAway, htakes p rfl]
      cases j.files.find? loc <;> rfl
    | _ => rfl
  refine ⟨hcwd.trans h.cwd, ?_, fun call hcall htaken => ?_⟩
  · refine hfile.trans (h.file.trans ?_)
    simp only [Journal.perform, List.any_cons, hstays, Bool.false_or]
  · rcases List.mem_cons.1 hcall with rfl | hcall
    · rw [hstays] at htaken
      exact absurd htaken Bool.false_ne_true
    · exact h.above call hcall htaken

variable (r : Refusals)

theorem createDirAll (h : Spared purges before loc j) (p : Path) :
    Spared purges before loc ((host r).createDirAll p j).2 := by
  have hbuilt := FileTree.createDirAll_cases r p j.files
  exact h.perform hbuilt.cwd (hbuilt.fileAt? loc) (by simp)

theorem download (h : Spared purges before loc j) (url : String) (p : Path) :
    Spared purges before loc ((host r).download url p j).2 :=
  have hcwd : ((pure true : StateM FileTree Bool) j.files).2.cwd = j.files.cwd := rfl
  h.perform hcwd rfl (by simp)

theorem write (h : Spared purges before loc j) {p : Path} (hp : before.destination p ≠ loc)
    (content : String) : Spared purges before loc ((host r).write p content j).2 := by
  rcases FileTree.write_cases r p content j.files with ⟨-, -, l, hwrote⟩ | hfailed
  · have hne : loc ≠ l := by
      rw [← FileTree.destination_of_locate h.cwd hwrote.locate]
      exact hp.symm
    exact h.perform hwrote.cwd (hwrote.fileAt?_of_ne hne) (by simp)
  · have hsame : ((FileTree.host r).write p content j.files).2 = j.files := by rw [hfailed]
    exact h.perform (congrArg FileTree.cwd hsame) (by rw [hsame]) (by simp)

theorem removeDirAll (h : Spared purges before loc j) (hpurges : purges = true) (p : Path) :
    Spared purges before loc ((host r).removeDirAll p j).2 := by
  have hpruned := FileTree.host_removeDirAll_pruned r p j.files
  -- a removal that changes what is at the place takes it away, and so starts above it
  by_cases hsame : ((FileTree.host r).removeDirAll p j.files).2.find? loc = j.files.find? loc
  · exact h.perform hpruned.cwd (FileTree.fileAt?_of_find? hsame) fun _ _ => hsame
  · have hnone := (hpruned.find? loc).resolve_left hsame
    have hthere : (j.files.find? loc).isSome = true := by
      cases hfind : j.files.find? loc with
      | none => exact absurd (hnone.trans hfind.symm) hsame
      | some e => rfl
    have habove : before.destination p <+: loc := by
      by_contra hoff
      apply hsame
      rw [← FileTree.destination_of_cwd h.cwd] at hoff
      simp only [FileTree.host]
      split
      · rfl
      · exact FileTree.removeDirAll_spares hoff
    have htaken : Call.takesAway loc ⟨.removeDirAll p, j.files,
        ((FileTree.host r).removeDirAll p j.files).2,
        ((FileTree.host r).removeDirAll p j.files).1⟩ = true := by
      simp [Call.takesAway, hthere, hnone]
    refine ⟨hpruned.cwd.trans h.cwd, ?_, fun call hcall htakes => ?_⟩
    · simp only [host, Journal.perform, List.any_cons, htaken, Bool.true_or, if_true]
      exact FileTree.fileAt?_of_none hnone
    · rcases List.mem_cons.1 hcall with rfl | hcall
      · exact ⟨hpurges, p, rfl, habove⟩
      · exact h.above call hcall htakes

end Spared

end Journal

namespace RunSetup

variable {m : Type → Type} {u : RunSetup m} {c : RunConfig} {s : Spec} {before : FileTree}
  {loc : Location}

/-- Until it finishes, a run spares a place that is no target of its entries. -/
theorem spared_work (r : Refusals)
    (hentries : ∀ e ∈ u.entries c s, before.destination (target e.1) ≠ loc) :
    u.GuardedWork (Journal.host r) c s
      (Journal.Spared (u.policy c).purgeGenerated before loc) where
  silent := Journal.silent r
  put e he := .put (Journal.silent r) (fun p _ h => h.createDirAll r p)
    (fun _ => .of_reads fun _ => rfl) (fun _ h => h.write r (hentries e he) e.2) _
  createDirAll p _ h := h.createDirAll r p
  removeDirAll hpurge p _ h := h.removeDirAll r hpurge p
  download url p _ h := h.download r url p
  pathExists _ := .of_reads fun _ => rfl

theorem spared_guarded (r : Refusals)
    (hentries : ∀ e ∈ u.entries c s, before.destination (target e.1) ≠ loc)
    (hconfig : ¬ ConfigPlace c before loc) :
    u.Guarded (Journal.host r) c s
      (Journal.Spared (u.policy c).purgeGenerated before loc) where
  toGuardedWork := spared_work r hentries
  replace hincremental name hname content := by
    refine .writeTarget (Journal.silent r) fun _ h => h.write r (fun hdest => hconfig ?_) content
    refine ⟨hincremental, ?_⟩
    rcases hname with rfl | rfl
    · exact .inl hdest
    · exact .inr hdest
  readText _ := .of_reads fun _ => rfl
  names _ := .of_reads fun _ => rfl
  updateProject _ _ := .of_reads fun _ => rfl

end RunSetup

/-! ## Plain documents -/

namespace DocFile

/-- A text document that stands for no entity. -/
def isPlain (f : DocFile) : Bool :=
  f.isText && f.dataSource == .none

/-- A document with one file for each entity of its source. -/
def isBound (f : DocFile) : Bool :=
  f.dataSource.bindingKey?.isSome

end DocFile

theorem FileUnit.ofFile_of_not_isBound {render : Rendering} {overwrite : Bool} {f : DocFile}
    (h : f.isBound = false) (c : RenderContext) (dir : Path) :
    ofFile render overwrite false c dir f = [] := by
  have hkey : f.dataSource.bindingKey? = none := by
    rw [DocFile.isBound, Option.isSome_eq_false_iff] at h
    exact Option.isNone_iff_eq_none.1 h
  simp [ofFile, contexts, hkey]

namespace RunSetup

variable {m : Type → Type} {u : RunSetup m} {c : RunConfig} {s : Spec}

/-- Where plain documents go whose names render, whether the run is to write them or not. -/
def plainTargets (c : RunConfig) (s : Spec) : List Path :=
  ((DocNode.placedFiles (rendering s) (context c s).data c.outputRoot s.docs).filter fun p =>
    p.2.isPlain).filterMap fun p =>
      (Plan.fileName? (rendering s) (context c s).data p.2.name).map fun rendered =>
        target (p.1.joinRendered rendered)

/-- The files of documents that are bound to entities. -/
def boundUnits (c : RunConfig) (s : Spec) : List FileUnit :=
  FileUnit.ofNodes (rendering s) c.args.overwrite false (context c s) c.outputRoot
    (DocNode.keepFiles DocFile.isBound s.docs)

/-- Without plain documents, a run puts mock data and files of entities. -/
theorem target_of_mem_entries (hnormal : c.args.normalDocs = false) {e : Path × String}
    (he : e ∈ u.entries c s) :
    e ∈ u.mocks c s ∨ ∃ other ∈ boundUnits c s, other.target = target e.1 := by
  rw [entries, List.mem_append] at he
  refine he.imp_right fun he => ?_
  obtain ⟨o, ho, rfl⟩ := List.mem_map.1 he
  have hunits : FileUnit.ofOutputs c.args.overwrite c.outputRoot (plan c s) = boundUnits c s := by
    have hkeep : ∀ f ctx dir, DocFile.isBound f = false →
        FileUnit.ofFile (rendering s) c.args.overwrite false ctx dir f = [] :=
      fun f ctx dir hf => FileUnit.ofFile_of_not_isBound hf ctx dir
    rw [plan, hnormal, FileUnit.ofOutputs_ofNodes, boundUnits, FileUnit.ofNodes_keepFiles hkeep]
  refine ⟨FileUnit.ofEntry c.args.overwrite o.entry, ?_, rfl⟩
  rw [← hunits]
  exact List.mem_map_of_mem ho

/-- An update that is not told to regenerate plain documents leaves each of them as it was, just
if it was not there or no removal takes it away; else it is gone. Only a purge removes anything,
and then a directory that the document lies in. -/
theorem run_keeps_plain_document_iff {σ : Type} {view : σ → Journal} {u : RunSetup (StateM σ)}
    {r : Refusals} (hhost : u.host.Follows view (Journal.host r)) (c : RunConfig) (s : Spec)
    (w : σ) (hstart : (view w).calls = []) (hupdate : c.args.action = .update)
    (hspec : c.args.spec = false) :
    let before := (view w).files
    let after := view ((u.run c s).run w).2
    ∀ doc ∈ plainTargets c s,
      let loc := before.destination doc
      (∀ other ∈ boundUnits c s, before.destination other.target ≠ loc) →
      (∀ e ∈ u.mocks c s, before.destination (target e.1) ≠ loc) →
      ¬ ConfigPlace c before loc →
        (after.files.fileAt? loc = before.fileAt? loc ↔
          before.fileAt? loc = none ∨ ∀ call ∈ after.calls, call.takesAway loc = false) ∧
        (after.files.fileAt? loc = before.fileAt? loc ∨ after.files.fileAt? loc = none) ∧
        ∀ call ∈ after.calls, call.takesAway loc = true →
          (u.policy c).purgeGenerated = true ∧
            ∃ p, call.request = .removeDirAll p ∧ before.destination p <+: loc := by
  intro before after doc _ loc hbound hmocks hconfig
  have hnormal : c.args.normalDocs = false := by
    simp [RunArgs.normalDocs, RunArgs.isBuild, hupdate, hspec]
  have hentries : ∀ e ∈ u.entries c s, before.destination (target e.1) ≠ loc := by
    intro e he
    rcases target_of_mem_entries hnormal he with hmock | ⟨other, hother, htarget⟩
    · exact hmocks e hmock
    · rw [← htarget]
      exact hbound other hother
  have hspared : Journal.Spared (u.policy c).purgeGenerated before loc after :=
    run_preserves hhost (fun _ _ => rfl) (spared_guarded r hentries hconfig)
      (Journal.Spared.start hstart)
  have hfile := hspared.file
  cases htaken : after.calls.any (Call.takesAway loc) with
  | true =>
    rw [htaken, if_pos rfl] at hfile
    obtain ⟨call, hcall, htakes⟩ := List.any_eq_true.1 htaken
    refine ⟨⟨fun hsame => .inl (hsame.symm.trans hfile), ?_⟩, .inr hfile, hspared.above⟩
    rintro (hnone | hnever)
    · rw [hfile, hnone]
    · rw [hnever call hcall] at htakes
      exact absurd htakes Bool.false_ne_true
  | false =>
    rw [htaken, if_neg Bool.false_ne_true] at hfile
    have hnever : ∀ call ∈ after.calls, call.takesAway loc = false := by
      simpa using htaken
    exact ⟨⟨fun _ => .inr hnever, fun _ => hfile⟩, .inl hfile, hspared.above⟩

/-- Hand-edited documents are left alone where nothing is purged, also one whose content does not
render any more. -/
theorem run_update_keeps_plain_document :
    let u : RunSetup (StateM Journal) :=
      { host := Journal.host {}, provider := .ofTypes 3, change := .all }
    let c : RunConfig :=
      { args := { action := .update, key := some "k" }
        outputRoot := .ofString "out", configRoot := .ofString "conf" }
    let s : Spec :=
      { docs := [.file ⟨1, "a.txt", none, .none, "new"⟩,
          .file ⟨2, "b.txt", none, .none, "\x7b\x7bname"⟩] }
    let before : FileTree :=
      { entries := [(["out".toList], .directory),
          (["out".toList, "a.txt".toList], .file "mine"),
          (["out".toList, "b.txt".toList], .file "mine")] }
    let after := ((u.run c s).run ⟨before, []⟩).2.files
    rendering s "\x7b\x7bname" (context c s).data = none ∧
      after.fileAt? ["out".toList, "a.txt".toList] = some "mine" ∧
      after.fileAt? ["out".toList, "b.txt".toList] = some "mine" := by
  intro u c s before after
  have hpurges : (u.policy c).purgeGenerated = false := by decide +kernel
  -- each of the two places is that of a plain document, and of nothing else
  have hplaces : ∀ name ∈ ["a.txt".toList, "b.txt".toList],
      (∃ doc ∈ plainTargets c s, before.destination doc = ["out".toList, name]) ∧
        (∀ other ∈ boundUnits c s, before.destination other.target ≠ ["out".toList, name]) ∧
        (∀ e ∈ u.mocks c s, before.destination (target e.1) ≠ ["out".toList, name]) ∧
        ¬ ConfigPlace c before ["out".toList, name] := by
    unfold ConfigPlace
    decide +kernel
  have hkept : ∀ name ∈ ["a.txt".toList, "b.txt".toList],
      after.fileAt? ["out".toList, name] = before.fileAt? ["out".toList, name] := by
    intro name hname
    obtain ⟨⟨doc, hmem, hplace⟩, hbound, hmocks, hconfig⟩ := hplaces name hname
    have hdoc := run_keeps_plain_document_iff (u := u) (Journal.host_follows_self {}) c s
      ⟨before, []⟩ rfl rfl rfl doc hmem
    simp only [id_eq, hplace] at hdoc
    obtain ⟨hiff, -, habove⟩ := hdoc hbound hmocks hconfig
    refine hiff.2 (.inr fun call hcall => Bool.eq_false_iff.2 fun htakes => ?_)
    exact absurd (habove call hcall htakes).1 (by simp [hpurges])
  exact ⟨by decide +kernel, hkept _ (by simp), hkept _ (by simp)⟩

/-- An update for a platform that tracks generated files removes the directory of an interface
node, and with it a plain document that it does not write again. -/
theorem run_purges_plain_document :
    let u : RunSetup (StateM Workspace) :=
      { host := Workspace.host.refusing {}, provider := .ofTypes 3
        change := { interfaces := true } }
    let c : RunConfig :=
      { args := { action := .update, key := some "k", platform := .ios }
        outputRoot := .ofString "out", configRoot := .ofString "conf" }
    let s : Spec :=
      { docs := [.directory 1 "gen" [.file ⟨2, "a.txt", none, .none, "A"⟩,
          .file ⟨3, "{{interface.name}}.txt", none, .interface, "I"⟩]]
        interfaces := [{ id := 1, name := "getA", method := "GET", path := "/a" }] }
    let before : FileTree :=
      { entries := [(["out".toList], .directory), (["out".toList, "gen".toList], .directory),
          (["out".toList, "gen".toList, "a.txt".toList], .file "mine")] }
    let place : Location := ["out".toList, "gen".toList, "a.txt".toList]
    (∃ doc ∈ plainTargets c s, before.destination doc = place) ∧
      (∀ other ∈ boundUnits c s, before.destination other.target ≠ place) ∧
      (∀ e ∈ u.mocks c s, before.destination (target e.1) ≠ place) ∧
      ¬ ConfigPlace c before place ∧ before.fileAt? place = some "mine" ∧
      ((u.run c s).run { files := before }).2.files.fileAt? place = none := by
  intro u c s before place
  have hconfig : ¬ ConfigPlace c before place := by
    unfold ConfigPlace
    decide +kernel
  have hfiles := (run_settles (u := u) (Workspace.host_refusing_follows {}) (fun _ _ => rfl) c s
    { files := before }).1
  have hgone : ((u.carryOut (FileTree.host {}) c s).run before).2.fileAt? place = none := by
    decide +kernel
  rw [← hfiles] at hgone
  exact ⟨by decide +kernel, by decide +kernel, by decide +kernel, hconfig, by decide +kernel,
    hgone⟩

end RunSetup

end Scaffold

import Mathlib
import Scaffold.Proofs.FileTree.Growth

/-!
# What a journal says

By its journal a host tells which files were written, and what came of them. The last content
that was written to a place is there as long as no removal has taken it away since; whatever else
is done does no harm to it.
-/

namespace Scaffold

/-- The file that a call has written, if it has. -/
def Call.written? (c : Call) : Option (Path × String) :=
  match c.request with
  | .write path content => if c.answer then some (path, content) else none
  | _ => none

namespace Journal

/-- The files that were written, first one first. -/
def writes (j : Journal) : List (Path × String) :=
  j.calls.reverse.filterMap Call.written?

theorem writes_perform (request : Request) (op : StateM FileTree Bool) (j : Journal) :
    (perform request op j).2.writes =
      j.writes ++
        (Call.written? ⟨request, j.files, (op j.files).2, (op j.files).1⟩).toList :=
  filterMap_perform _ request op j

section Host

variable (r : Refusals)

theorem silent : (host r).Silent := fun _ => rfl

theorem writeOutput_apply (overwrite : Bool) (path : Path) (content : String) (j : Journal) :
    (host r).writeOutput overwrite path content j =
      if WriteDirective.overwrites (WriteDirective.first? path.chars) overwrite = false ∧
          j.files.pathExists (WriteDirective.target path) = true then
        (some (.keptExisting (WriteDirective.target path)), j)
      else (host r).writeTarget (WriteDirective.target path) content j :=
  (silent r).writeOutput_apply (fun _ _ => rfl) overwrite path content j

@[simp] theorem writes_createDirAll (p : Path) (j : Journal) :
    ((host r).createDirAll p j).2.writes = j.writes := by
  simp [host, writes_perform, Call.written?]

@[simp] theorem writes_removeDirAll (p : Path) (j : Journal) :
    ((host r).removeDirAll p j).2.writes = j.writes := by
  simp [host, writes_perform, Call.written?]

@[simp] theorem writes_download (url : String) (p : Path) (j : Journal) :
    ((host r).download url p j).2.writes = j.writes := by
  simp [host, writes_perform, Call.written?]

@[simp] theorem writes_pathExists (p : Path) (j : Journal) :
    ((host r).pathExists p j).2.writes = j.writes := rfl

@[simp] theorem writes_ensureParent (p : Path) (j : Journal) :
    ((host r).ensureParent p j).2.writes = j.writes := by
  rcases (host r).ensureParent_cases p with h | ⟨dir, -, -, h⟩
  · rw [h]
    rfl
  · rw [h, writes_createDirAll]

/-- The report of a path that was written, and no other, is that it was written. -/
def Recorded (target : Path) (content : String) (result : Option WriteOutcome)
    (j j' : Journal) : Prop :=
  (result = some (.written target) ∧ j'.writes = j.writes ++ [(target, content)]) ∨
    ((result = none ∨ result = some (.keptExisting target)) ∧ j'.writes = j.writes)

theorem writeTarget_recorded (target : Path) (content : String) (j : Journal) :
    Recorded target content ((host r).writeTarget target content j).1 j
      ((host r).writeTarget target content j).2 := by
  rw [(silent r).writeTarget]
  have hwrites : ((host r).write target content j).2.writes = j.writes ++
      (if ((host r).write target content j).1 then some (target, content) else none).toList := by
    simp only [host, writes_perform, Call.written?]
    rfl
  simp only [stateM_map]
  cases hok : ((host r).write target content j).1 with
  | true => exact .inl ⟨rfl, by simpa [hok] using hwrites⟩
  | false => exact .inr ⟨.inl rfl, by simpa [hok] using hwrites⟩

theorem put_recorded (overwrite : Bool) (path : Path) (content : String) (j : Journal) :
    Recorded (WriteDirective.target path) content ((host r).put overwrite path content j).1 j
      ((host r).put overwrite path content j).2 := by
  have hparent := writes_ensureParent r path j
  simp only [Host.put, stateM_bind]
  set j' := ((host r).ensureParent path j).2
  have hback : ∀ result j'', Recorded (WriteDirective.target path) content result j' j'' →
      Recorded (WriteDirective.target path) content result j j'' := by
    intro result j'' h
    rwa [Recorded, hparent] at h
  split
  · refine hback _ _ ?_
    rw [writeOutput_apply]
    split
    · exact .inr ⟨.inr rfl, rfl⟩
    · exact writeTarget_recorded r _ content j'
  · exact .inr ⟨.inl rfl, hparent⟩

end Host

end Journal

/-! ## The last content of a place -/

namespace Call

/-- The content that a call has written to a location. -/
def contentAt? (loc : Location) (c : Call) : Option String :=
  c.written?.bind fun e => if c.before.destination e.1 = loc then some e.2 else none

/-- Whether a call has removed what was at a location. -/
def takesAway (loc : Location) (c : Call) : Bool :=
  match c.request with
  | .removeDirAll _ => (c.before.find? loc).isSome && (c.after.find? loc).isNone
  | _ => false

end Call

namespace Journal

/-- The last content that was written to a location; last calls come first. -/
def lastContent? (loc : Location) (calls : List Call) : Option String :=
  calls.findSome? (Call.contentAt? loc)

/-- Whether what was last written to a location has been removed since. -/
def lost (loc : Location) : List Call → Bool
  | [] => false
  | c :: older => (c.contentAt? loc).isNone && (c.takesAway loc || lost loc older)

/-- The tree agrees with the journal, seen from the directory `wd`. -/
structure Sound (wd : Location) (j : Journal) : Prop where
  cwd : j.files.cwd = wd
  before : ∀ c ∈ j.calls, c.before.cwd = wd
  means : ∀ c ∈ j.calls, ∀ e, c.written? = some e → FileTree.meansDirectory e.1 = false
  last : ∀ loc content, lastContent? loc j.calls = some content →
    (lost loc j.calls = false ∧ j.files.find? loc = some (.file content)) ∨
      (lost loc j.calls = true ∧ ∀ old, j.files.find? loc ≠ some (.file old))

theorem Sound.exists_last {wd : Location} {j : Journal} (h : j.Sound wd) {e : Path × String}
    (he : e ∈ j.writes) :
    ∃ content, lastContent? (j.files.destination e.1) j.calls = some content := by
  obtain ⟨c, hc, hwritten⟩ := List.mem_filterMap.1 he
  rw [List.mem_reverse] at hc
  have hdest : c.before.destination e.1 = j.files.destination e.1 := by
    rw [FileTree.destination, FileTree.destination, h.before c hc, h.cwd]
  rw [← Option.isSome_iff_exists, lastContent?, List.findSome?_isSome_iff]
  exact ⟨c, hc, by simp [Call.contentAt?, hwritten, hdest]⟩

theorem Sound.means_of_mem_writes {wd : Location} {j : Journal} (h : j.Sound wd)
    {e : Path × String} (he : e ∈ j.writes) : FileTree.meansDirectory e.1 = false := by
  obtain ⟨c, hc, hwritten⟩ := List.mem_filterMap.1 he
  exact h.means c (List.mem_reverse.1 hc) e hwritten

/-- What a written path leads to: its last content, if that is not lost and the way to it is
still there. -/
theorem Sound.get?_iff {wd : Location} {j : Journal} (h : j.Sound wd) {e : Path × String}
    (he : e ∈ j.writes) {content : String}
    (hlast : lastContent? (j.files.destination e.1) j.calls = some content) :
    j.files.get? e.1 = some (j.files.destination e.1, .file content) ↔
      lost (j.files.destination e.1) j.calls = false ∧
        j.files.locate e.1 = .ok (j.files.destination e.1) := by
  rw [FileTree.get?_eq_some_iff]
  have hsuits : FileTree.Suits e.1 (.file content) := .inr (h.means_of_mem_writes he)
  rcases h.last _ content hlast with ⟨hkept, hfind⟩ | ⟨hlost, hnone⟩
  · simp [hkept, hfind, hsuits]
  · simp [hlost, hnone content]

/-- Calls that write nothing keep the agreement if they leave files alone or take them away. -/
theorem Sound.call {wd : Location} {j : Journal} (h : j.Sound wd) {c : Call}
    (hbefore : c.before = j.files) (hcwd : c.after.cwd = j.files.cwd)
    (hwritten : c.written? = none)
    (hfile : ∀ loc content, j.files.find? loc = some (.file content) →
      (c.takesAway loc = false ∧ c.after.find? loc = some (.file content)) ∨
        (c.takesAway loc = true ∧ c.after.find? loc = none))
    (hnew : ∀ loc content, c.after.find? loc = some (.file content) →
      j.files.find? loc = some (.file content)) :
    Sound wd ⟨c.after, c :: j.calls⟩ := by
  have hcontent : ∀ loc, c.contentAt? loc = none := by simp [Call.contentAt?, hwritten]
  refine ⟨hcwd.trans h.cwd, ?_, ?_, ?_⟩
  · intro c' hc'
    rcases List.mem_cons.1 hc' with rfl | hc'
    · rw [hbefore, h.cwd]
    · exact h.before c' hc'
  · intro c' hc' e he
    rcases List.mem_cons.1 hc' with rfl | hc'
    · rw [hwritten] at he
      simp at he
    · exact h.means c' hc' e he
  · intro loc content hlast
    have hlast' : lastContent? loc j.calls = some content := by
      simpa [lastContent?, hcontent] using hlast
    simp only [lost, hcontent, Option.isNone_none, Bool.true_and]
    rcases h.last loc content hlast' with ⟨hkept, hfind⟩ | ⟨hlost, hnone⟩
    · rcases hfile loc content hfind with ⟨hstays, hafter⟩ | ⟨htaken, hafter⟩
      · exact .inl ⟨by simp [hstays, hkept], hafter⟩
      · exact .inr ⟨by simp [htaken], by simp [hafter]⟩
    · exact .inr ⟨by simp [hlost], fun old hold => hnone old (hnew loc old hold)⟩

section Host

variable (r : Refusals) {wd : Location} {j : Journal}

theorem Sound.createDirAll (h : j.Sound wd) (p : Path) :
    ((host r).createDirAll p j).2.Sound wd := by
  have hbuilt := FileTree.createDirAll_cases r p j.files
  exact h.call (c := ⟨.createDirAll p, j.files, _, _⟩) rfl hbuilt.cwd rfl
    (fun _ _ hfile => .inl ⟨rfl, hbuilt.find?_of_some hfile⟩)
    fun _ _ hfile => hbuilt.find?_of_file hfile

theorem Sound.removeDirAll (h : j.Sound wd) (p : Path) :
    ((host r).removeDirAll p j).2.Sound wd := by
  have hpruned := FileTree.host_removeDirAll_pruned r p j.files
  refine h.call (c := ⟨.removeDirAll p, j.files, _, _⟩) rfl hpruned.cwd rfl
    (fun loc content hfile => ?_) fun loc content hfile => ?_
  · rcases hpruned.find? loc with heq | hnone
    · refine .inl ⟨?_, heq.trans hfile⟩
      simp [Call.takesAway, heq.trans hfile]
    · exact .inr ⟨by simp [Call.takesAway, hfile, hnone], hnone⟩
  · rcases hpruned.find? loc with heq | hnone
    · exact heq ▸ hfile
    · rw [hnone] at hfile
      simp at hfile

theorem Sound.download (h : j.Sound wd) (url : String) (p : Path) :
    ((host r).download url p j).2.Sound wd :=
  h.call (c := ⟨.download url p, j.files, j.files, true⟩) rfl rfl rfl
    (fun _ _ hfile => .inl ⟨rfl, hfile⟩) fun _ _ hfile => hfile

theorem Sound.write (h : j.Sound wd) (p : Path) (content : String) :
    ((host r).write p content j).2.Sound wd := by
  rcases FileTree.write_cases r p content j.files with ⟨hok, -, loc, hwrote⟩ | hfailed
  · have hloc := FileTree.locate_eq_destination hwrote.locate
    have hc : ((host r).write p content j).2 =
        ⟨((FileTree.host r).write p content j.files).2, ⟨.write p content, j.files,
          ((FileTree.host r).write p content j.files).2, true⟩ :: j.calls⟩ := by
      simp only [host, perform, hok]
    rw [hc]
    refine ⟨hwrote.cwd.trans h.cwd, ?_, ?_, fun l old hlast => ?_⟩
    · intro c' hc'
      rcases List.mem_cons.1 hc' with rfl | hc'
      · exact h.cwd
      · exact h.before c' hc'
    · intro c' hc' e he
      rcases List.mem_cons.1 hc' with rfl | hc'
      · obtain rfl : (p, content) = e := by simpa [Call.written?] using he
        exact hwrote.means
      · exact h.means c' hc' e he
    · by_cases hl : l = loc
      · have hnow : j.files.destination p = l := (hl.trans hloc).symm
        have heq : old = content := by
          simpa [lastContent?, Call.contentAt?, Call.written?, hnow, eq_comm] using hlast
        refine .inl ⟨by simp [lost, Call.contentAt?, Call.written?, hnow], ?_⟩
        rw [heq, hl, hwrote.find?_self]
      · have hother : j.files.destination p ≠ l := fun hd => hl (hd.symm.trans hloc.symm)
        have hlast' : lastContent? l j.calls = some old := by
          simpa [lastContent?, Call.contentAt?, Call.written?, hother] using hlast
        simpa [lost, Call.contentAt?, Call.written?, Call.takesAway, hother,
          hwrote.find?_of_ne hl] using h.last l old hlast'
  · have hc : ((host r).write p content j).2 =
        ⟨j.files, ⟨.write p content, j.files, j.files, false⟩ :: j.calls⟩ := by
      simp only [host, perform, hfailed]
    rw [hc]
    exact h.call (c := ⟨.write p content, j.files, j.files, false⟩) rfl rfl rfl
      (fun _ _ hfile => .inl ⟨rfl, hfile⟩) fun _ _ hfile => hfile

end Host

/-! ## Where nothing is removed -/

/-- Nothing that was written is lost, and the ways to it are there. -/
structure Intact (j : Journal) : Prop where
  kept : ∀ loc, lost loc j.calls = false
  located : ∀ c ∈ j.calls, ∀ e, c.written? = some e →
    j.files.locate e.1 = .ok (j.files.destination e.1)

theorem Intact.located_of_mem_writes {j : Journal} (h : j.Intact) {e : Path × String}
    (he : e ∈ j.writes) : j.files.locate e.1 = .ok (j.files.destination e.1) := by
  obtain ⟨c, hc, hwritten⟩ := List.mem_filterMap.1 he
  exact h.located c (List.mem_reverse.1 hc) e hwritten

/-- Calls that let the tree grow, and write where their path leads, leave it intact. -/
theorem Intact.call {j : Journal} (h : j.Intact) {c : Call}
    (hgrown : FileTree.Grown j.files c.after) (htakes : ∀ loc, c.takesAway loc = false)
    (hlocated : ∀ e, c.written? = some e →
      c.after.locate e.1 = .ok (c.after.destination e.1)) :
    Intact ⟨c.after, c :: j.calls⟩ := by
  refine ⟨fun loc => by simp [lost, htakes loc, h.kept loc], ?_⟩
  intro c' hc' e he
  rcases List.mem_cons.1 hc' with rfl | hc'
  · exact hlocated e he
  · have hthere := hgrown.locate (h.located c' hc' e he)
    rwa [FileTree.locate_eq_destination hthere] at hthere

section Host

variable (r : Refusals) {j : Journal}

theorem Intact.createDirAll (h : j.Intact) (p : Path) :
    ((host r).createDirAll p j).2.Intact :=
  h.call (c := ⟨.createDirAll p, j.files, _, _⟩) (FileTree.createDirAll_cases r p j.files).grown
    (fun _ => rfl) (by simp [Call.written?])

theorem Intact.download (h : j.Intact) (url : String) (p : Path) :
    ((host r).download url p j).2.Intact :=
  h.call (c := ⟨.download url p, j.files, j.files, true⟩) (.refl _) (fun _ => rfl)
    (by simp [Call.written?])

theorem Intact.write (h : j.Intact) (p : Path) (content : String) :
    ((host r).write p content j).2.Intact := by
  refine h.call (c := ⟨.write p content, j.files, ((FileTree.host r).write p content j.files).2,
    ((FileTree.host r).write p content j.files).1⟩)
    (FileTree.write_grown r p content j.files) (fun _ => rfl) fun e he => ?_
  rcases FileTree.write_cases r p content j.files with ⟨hok, -, loc, hwrote⟩ | hfailed
  · obtain rfl : (p, content) = e := by simpa [Call.written?, hok] using he
    have hthere := hwrote.grown.locate hwrote.locate
    rwa [FileTree.locate_eq_destination hthere] at hthere
  · simp [Call.written?, hfailed] at he

end Host

end Journal

end Scaffold

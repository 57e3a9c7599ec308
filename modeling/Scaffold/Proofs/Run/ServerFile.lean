import Mathlib
import Scaffold.Proofs.FileTree.Rooted
import Scaffold.Proofs.Output.Join
import Scaffold.Proofs.Run.Idempotence
import Scaffold.Proofs.Run.Sparing

/-!
# The configuration of the server

The run reads the configuration of the server after all else is done, and writes it right then.
What it finds is what was there before, unless a purge has removed it; and it only replaces what
it finds if it writes to the place that it reads.
-/

namespace Scaffold

open WriteDirective (target first? withoutMarkers)

namespace ServerConfig

theorem isPlain_engineFile : Path.IsPlain engineFile.chars := by
  simp [Path.IsPlain, engineFile, Path.ofString, Path.isSlash]

theorem isPlain_serverFile : Path.IsPlain serverFile.chars := by
  simp [Path.IsPlain, serverFile, Path.ofString, Path.isSlash]

theorem first?_engineFile : first? engineFile.chars = none := by
  decide

theorem isName_serverFile : FileTree.isName serverFile.chars = true := by
  decide

end ServerConfig

namespace FileTree

variable {t t' : FileTree} {loc : Location} {dir : Path} {name : List Char}

theorem readText_of_locate {p : Path} (hmeans : meansDirectory p = false)
    (hlocate : t.locate p = .ok loc) : t.readText p = t.fileAt? loc := by
  have hget : t.get? p = (t.find? loc).map fun e => (loc, e) := by
    unfold get?
    simp only [hlocate]
    cases t.find? loc with
    | none => rfl
    | some e => cases e <;> simp [hmeans]
  rw [readText, hget, fileAt?]
  cases t.find? loc with
  | none => rfl
  | some e => cases e <;> rfl

theorem fileAt?_of_readText {p : Path} {content : String} (h : t.readText p = some content) :
    isUsable p = true ∧ t.fileAt? (t.destination p) = some content := by
  unfold readText at h
  split at h
  · rename_i loc content' hget
    obtain rfl : content' = content := by simpa using h
    obtain ⟨hlocate, hfind, -⟩ := (get?_eq_some_iff t p loc _).1 hget
    exact ⟨(locate_eq_ok_iff.1 hlocate).2.1, locate_eq_destination hlocate ▸ fileAt?_of_file hfind⟩
  · simp at h

theorem destination_join (t : FileTree) (dir : Path) (h : Path.IsPlain name) :
    t.destination (dir.join ⟨name⟩) = t.destination dir ++ [name] := by
  rw [destination, Path.components_join_of_plain dir h, along_concat_name, destination]

theorem destination_target_join (t : FileTree) (dir : Path) (h : Path.IsPlain name)
    (hunmarked : first? name = none) :
    t.destination (target (dir.join ⟨name⟩)) =
      t.destination ⟨withoutMarkers dir.lead⟩ ++ [name] := by
  rw [Path.target_join dir h hunmarked, destination,
    Path.components_lead_append (Path.isLead_withoutMarkers dir) h, along_concat_name, destination]

/-- A relative path is followed from the working directory. -/
theorem cwd_of_locate {p : Path} (hrel : p.isAbsolute = false) (hlocate : t.locate p = .ok loc) :
    t.find? t.cwd = some .directory := by
  obtain ⟨hne, -, hfollow⟩ := locate_eq_ok_iff.1 hlocate
  obtain ⟨c, cs, hcomponents, hroot⟩ :=
    Path.exists_component_of_relative (Path.chars_ne_nil hne) hrel
  rw [hcomponents] at hfollow
  exact ((passable_of_follow hfollow).resolve_left hroot).1

/-- A relative path that starts with a name is created in the working directory. -/
theorem cwd_of_createDirAll (r : Refusals) {n : List Char} {cs : List Path.Component}
    (hcomponents : dir.components = .name n :: cs)
    (hcreated : ((host r).createDirAll dir t).1 = true) : t.find? t.cwd = some .directory := by
  have halong : ∀ cs', cs' <+: dir.components → (t.createAlong t.cwd cs').1 = true →
      t.find? t.cwd = some .directory := by
    intro cs' hfront hmade
    rw [hcomponents, List.prefix_cons_iff] at hfront
    rcases hfront with rfl | ⟨front, rfl, -⟩
    · exact (isDirectory_iff t t.cwd).1 hmade
    · exact directory_of_createAlong hmade
  rcases createDirAll_of_true r hcreated with ⟨rfl, -⟩ | ⟨-, -, -, hmade, -⟩ | ⟨-, -, hmade⟩
  · cases hcomponents
  · exact halong _ (List.dropLast_prefix dir.components) (congrArg Prod.fst hmade)
  · exact halong _ (List.prefix_refl dir.components) (congrArg Prod.fst hmade)

/-- The way to a file is open if something can be written beside it, where its directory has
just been created. -/
theorem locate_beside (h : t.Rooted) (r : Refusals) (hname : Path.IsPlain name)
    (hcreated : ((host r).createDirAll dir t).1 = true)
    (husable : isUsable (dir.join ⟨name⟩) = true) (hfits : isName name = true)
    {other : List Char} (hother : Path.IsPlain other)
    (hbeside : ((host r).createDirAll dir t).2.locate (target (dir.join ⟨other⟩)) = .ok loc) :
    ((host r).createDirAll dir t).2.locate (dir.join ⟨name⟩) =
      .ok (t.destination (dir.join ⟨name⟩)) := by
  have hbuilt := createDirAll_cases r dir t
  set t' := ((host r).createDirAll dir t).2
  have hstart : dir.isAbsolute = true ∨ t'.find? t.cwd = some .directory := by
    cases hrel : dir.isAbsolute with
    | true => exact .inl rfl
    | false =>
      right
      cases htarget : (target (dir.join ⟨other⟩)).isAbsolute with
      | true =>
        obtain ⟨n, cs, hcomponents⟩ := Path.exists_name_of_isAbsolute_target hrel hother htarget
        exact hbuilt.find?_of_some (cwd_of_createDirAll r hcomponents hcreated)
      | false =>
        rw [← hbuilt.cwd]
        exact cwd_of_locate htarget hbeside
  obtain ⟨l, hfollow, hdir⟩ := h.follow_createDirAll r hcreated hstart
  have hne : dir.join ⟨name⟩ ≠ ⟨[]⟩ := by
    rw [Path.join_eq dir (Path.isAbsolute_of_plain hname)]
    simp [hname.1]
  have hlocate : t'.locate (dir.join ⟨name⟩) = .ok (l ++ [name]) := by
    rw [locate_eq_ok_iff, hbuilt.cwd, Path.components_join_of_plain dir hname, follow_concat_iff]
    exact ⟨hne, husable, l, hfollow, hdir, hfits, rfl⟩
  rw [destination_of_locate hbuilt.cwd hlocate, hlocate]

end FileTree

namespace RunSetup

variable {m : Type → Type} {u : RunSetup m} {c : RunConfig} {s : Spec}

/-- Where the configuration of the server is read. -/
def serverPath (c : RunConfig) : Path :=
  c.configRoot.join ServerConfig.serverFile

/-- What is found as the configuration of the server when the run has ended, given what was found
there before it was written. -/
def serverLeft (c : RunConfig) (s : Spec) (roots : StructuralRoots) (views : List ViewRule)
    (mocks : List MockRule) (t : FileTree) (found : Option String) : Option String :=
  if t.destination (target (serverPath c)) = t.destination (serverPath c) then
    some (serverText c s roots views mocks (found.bind ServerConfig.ofText?))
  else found

/-- Keeping the configuration writes that of the server by what is found. -/
theorem readText_writeConfig {r : Refusals} {t : FileTree} (h : t.Rooted)
    (husable : FileTree.isUsable (serverPath c) = true) (roots : StructuralRoots)
    (views : List ViewRule) (mocks : List MockRule)
    (hok : ∃ files,
      (((u.onHost (FileTree.host r)).writeConfig c s roots views mocks).run t).1 = .ok files) :
    (((u.onHost (FileTree.host r)).writeConfig c s roots views mocks).run t).2.readText
        (serverPath c) =
      serverLeft c s roots views mocks t (t.fileAt? (t.destination (serverPath c))) := by
  have hsteps := writeConfig_steps (u := u) (c := c) (s := s) (r := r) roots views mocks t
  obtain ⟨hcreated, hengine, hserver⟩ := hsteps.1 hok
  have htree := (hsteps.2 hcreated hengine hserver).2
  have hmeans : FileTree.meansDirectory (serverPath c) = false :=
    Path.not_meansDirectory_join c.configRoot ServerConfig.isPlain_serverFile
  have hbuilt := FileTree.createDirAll_cases r c.configRoot t
  obtain ⟨loc, hwrote, -⟩ := FileTree.replaceOutput_again r hengine
  obtain ⟨loc', hwrote', -⟩ := FileTree.replaceOutput_again r hserver
  have hlocate := FileTree.locate_beside h r ServerConfig.isPlain_serverFile hcreated husable
    ServerConfig.isName_serverFile ServerConfig.isPlain_engineFile hwrote.locate
  set t₁ := ((FileTree.host r).createDirAll c.configRoot t).2
  set t₂ := ((FileTree.host r).replaceOutput (c.configRoot.join ServerConfig.engineFile)
    (ServerConfig.text c.engineConfig) t₁).2
  have hlocate₂ : t₂.locate (serverPath c) = .ok (t.destination (serverPath c)) :=
    hwrote.grown.locate hlocate
  -- the other file has another name
  have hother : t.destination (serverPath c) ≠ loc := by
    have hloc := FileTree.destination_of_locate hbuilt.cwd hwrote.locate
    rw [← hloc, serverPath]
    have hleft := FileTree.destination_join t c.configRoot ServerConfig.isPlain_serverFile
    have hright := FileTree.destination_target_join t c.configRoot ServerConfig.isPlain_engineFile
      ServerConfig.first?_engineFile
    intro heq
    have hnames := List.append_inj_right' (hleft.symm.trans (heq.trans hright)) rfl
    revert hnames
    decide
  -- so what is read is what was there
  have hfound : t₂.readText (serverPath c) = t.fileAt? (t.destination (serverPath c)) := by
    rw [FileTree.readText_of_locate hmeans hlocate₂, hwrote.fileAt?_of_ne hother, hbuilt.fileAt?]
  have hloc' : t.destination (target (serverPath c)) = loc' :=
    FileTree.destination_of_locate (hwrote.cwd.trans hbuilt.cwd) hwrote'.locate
  rw [htree, FileTree.readText_of_locate hmeans (hwrote'.grown.locate hlocate₂), serverLeft,
    hloc']
  split
  · rename_i hsame
    rw [← hsame, hwrote'.fileAt?_self, serverContent, ← serverPath, hfound, hsame]
  · rename_i hdiff
    rw [hwrote'.fileAt?_of_ne (Ne.symm hdiff), hwrote.fileAt?_of_ne hother, hbuilt.fileAt?]

/-- Until it finishes, a run leaves the tree rooted. -/
theorem rooted_work (r : Refusals) :
    u.GuardedWork (Journal.host r) c s fun j => j.files.Rooted where
  silent := Journal.silent r
  put e _ := .put (Journal.silent r) (fun p _ h => h.host_createDirAll r p)
    (fun _ => .of_reads fun _ => rfl) (fun _ h => h.host_write r _ e.2) _
  createDirAll p _ h := h.host_createDirAll r p
  removeDirAll _ p _ h := h.host_removeDirAll r p
  download _ _ _ h := h
  pathExists _ := .of_reads fun _ => rfl

/-- Nothing is removed when a run finishes. -/
theorem takesAway_finish (r : Refusals) (loc : Location) (taken : List Call) :
    GuardedFinish (Journal.host r) c fun j => j.calls.filter (Call.takesAway loc) = taken where
  silent := Journal.silent r
  replace _ _ _ _ := .writeTarget (Journal.silent r) fun _ h => h
  createDirAll _ _ h := h
  pathExists _ := .of_reads fun _ => rfl
  readText _ := .of_reads fun _ => rfl
  names _ := .of_reads fun _ => rfl
  updateProject _ _ := .of_reads fun _ => rfl

/-- The end of a run writes the configuration of the server by what is found, and removes
nothing. -/
theorem finish_readText_serverPath {r : Refusals} {j : Journal} (h : j.files.Rooted)
    (husable : FileTree.isUsable (serverPath c) = true)
    (hincremental : c.args.isIncremental = true) (change : Change) (mocks : List MockRule)
    (views : List ViewRule) (rep : RunReport) {rep' : RunReport}
    (hok : (((u.onHost (Journal.host r)).finish c s change mocks views rep).run j).1 = .ok rep') :
    let j' := (((u.onHost (Journal.host r)).finish c s change mocks views rep).run j).2
    j'.files.readText (serverPath c) = serverLeft c s rep.roots views mocks j.files
        (j.files.fileAt? (j.files.destination (serverPath c))) ∧
      ∀ loc, j'.calls.filter (Call.takesAway loc) = j.calls.filter (Call.takesAway loc) := by
  intro j'
  obtain ⟨hfiles, hresult⟩ := finish_settles (u := u.onHost (Journal.host r))
    (Journal.host_follows r) (fun _ _ => rfl) c s change mocks views rep j
  obtain ⟨htree, hkept⟩ := finish_run (u := u) (c := c) (s := s) (r := r) change mocks views rep
    hincremental j.files
  have hsame := hresult.resolve_right fun hrefused => Journal.not_refusesUpdate r hrefused.1
  rw [hok] at hsame
  refine ⟨?_, fun loc => ?_⟩
  · exact (congrArg (FileTree.readText · (serverPath c)) (hfiles.trans htree)).trans
      (readText_writeConfig h husable rep.roots views mocks (hkept.1 ⟨rep', hsame.symm⟩))
  · have hguarded : GuardedFinish (Journal.host r) c fun j' =>
        j'.calls.filter (Call.takesAway loc) = j.calls.filter (Call.takesAway loc) :=
      takesAway_finish r loc _
    exact hguarded.finish u s change mocks views rep j rfl

/-- What is found as the configuration of the server after a run that keeps its configuration: what
was found before, or nothing if a purge has removed it on the way, and what is made of it where it
is written to the place at which it is read. -/
theorem run_readText_serverPath {σ : Type} {view : σ → Journal} {u : RunSetup (StateM σ)}
    {r : Refusals} (hhost : u.host.Follows view (Journal.host r)) (c : RunConfig) (s : Spec) (w : σ)
    (hstart : (view w).calls = []) (hrooted : (view w).files.Rooted)
    (hincremental : c.args.isIncremental = true)
    (husable : FileTree.isUsable (serverPath c) = true)
    (hentries : ∀ e ∈ u.entries c s,
      (view w).files.destination (target e.1) ≠ (view w).files.destination (serverPath c))
    {rep : RunReport} (hok : ((u.run c s).run w).1 = .ok rep) :
    let before := (view w).files
    let after := view ((u.run c s).run w).2
    let loc := before.destination (serverPath c)
    after.files.readText (serverPath c) =
        serverLeft c s (roots c s) (viewRules c s) (mockRules c s) before
          (if after.calls.any (Call.takesAway loc) then none else before.fileAt? loc) ∧
      ∀ call ∈ after.calls, call.takesAway loc = true →
        (u.policy c).purgeGenerated = true ∧
          ∃ p, call.request = .removeDirAll p ∧ before.destination p <+: loc := by
  intro before after loc
  have hcarried := carryOut_ok hhost (fun _ _ => rfl) hok
  have hafter : after = ((u.carryOut (Journal.host r) c s).run (view w)).2 :=
    (run_settles hhost (fun _ _ => rfl) c s w).1
  rw [carryOut_run] at hcarried hafter
  split at hcarried
  · rename_i hcreated
    rw [if_pos hcreated] at hafter
    have hspared := (spared_work r hentries).work _ (Journal.Spared.start hstart)
    have hstays := (rooted_work (u := u) (c := c) (s := s) r).work _ hrooted
    obtain ⟨hread, htaken⟩ :=
      finish_readText_serverPath hstays husable hincremental _ _ _ _ hcarried
    dsimp only at hafter hread htaken
    rw [← hafter] at hread htaken
    -- all removals are those of the walk
    have hself : ∀ calls : List Call, calls.any (Call.takesAway loc) =
        (calls.filter (Call.takesAway loc)).any (Call.takesAway loc) := by simp
    have hany := hself after.calls
    rw [htaken loc, ← hself] at hany
    refine ⟨?_, fun call hcall htakes => ?_⟩
    · rw [hread, hany, FileTree.destination_of_cwd hspared.cwd, hspared.file, serverLeft,
        serverLeft, FileTree.destination_of_cwd hspared.cwd,
        FileTree.destination_of_cwd hspared.cwd]
      rfl
    · have hmem : call ∈ after.calls.filter (Call.takesAway loc) :=
        List.mem_filter.2 ⟨hcall, htakes⟩
      rw [htaken loc] at hmem
      exact hspared.above call (List.mem_filter.1 hmem).1 htakes
  · simp at hcarried

end RunSetup

end Scaffold

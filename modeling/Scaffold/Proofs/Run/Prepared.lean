import Mathlib
import Scaffold.Proofs.FileTree.Parent
import Scaffold.Proofs.Run.ServerFile
import Scaffold.Proofs.Run.Survival

/-!
# Whether there is a directory for what is written

The writer relies on others for the directory of a file. Mock data and the walk create the
directory of the path that is meant. But the directory of the configuration is created under the
name that it is given, while the writer cuts the markers out; so it is another one if there are
any.
-/

namespace Scaffold

open WriteDirective (target first? withoutMarkers)

namespace RunConfig

/-- Where the configuration is written. -/
def configDir (c : RunConfig) : Path :=
  (⟨withoutMarkers c.configRoot.lead⟩ : Path).trimmed

variable {c : RunConfig} {t : FileTree}

theorem parent?_configFile {name : Path}
    (hname : name = ServerConfig.engineFile ∨ name = ServerConfig.serverFile) :
    (target (c.configRoot.join name)).parent? = some c.configDir := by
  have hplain : Path.IsPlain name.chars ∧ first? name.chars = none := by
    rcases hname with rfl | rfl
    · exact ⟨ServerConfig.isPlain_engineFile, ServerConfig.first?_engineFile⟩
    · exact ⟨ServerConfig.isPlain_serverFile, by decide⟩
  rw [Path.target_join c.configRoot hplain.1 hplain.2]
  exact Path.parent?_append (Path.isLead_withoutMarkers c.configRoot) hplain.1

theorem holdsParent_configFile_iff {name : Path}
    (hname : name = ServerConfig.engineFile ∨ name = ServerConfig.serverFile) :
    t.HoldsParent (target (c.configRoot.join name)) ↔ t.LeadsToDirectory c.configDir := by
  have hparent := parent?_configFile (c := c) hname
  constructor
  · intro h
    exact h _ hparent
  · intro h dir hdir
    rw [hparent] at hdir
    exact Option.some.inj hdir ▸ h

theorem configDir_of_unmarked (h : first? c.configRoot.chars = none) :
    c.configDir = c.configRoot.trimmed := by
  rw [← Path.first?_lead] at h
  rw [configDir, WriteDirective.withoutMarkers_of_first?_eq_none h, Path.trimmed_lead]

/-- A root without markers is where the configuration is written. -/
theorem leadsToDirectory_configDir_iff (hunmarked : first? c.configRoot.chars = none)
    (hthere : t.HasStart c.configRoot → t.LeadsToDirectory c.configRoot) :
    t.LeadsToDirectory c.configDir ↔ t.HasStart c.configRoot := by
  rw [configDir_of_unmarked hunmarked]
  constructor
  · intro h
    refine h.hasStart.imp_left fun habs => ?_
    obtain ⟨cs, hcs⟩ := (Path.isAbsolute_iff _).1 habs
    obtain ⟨rest, hrest⟩ := Path.trimmed_isPrefix c.configRoot
    exact (Path.isAbsolute_iff _).2 ⟨cs ++ rest, by rw [← hrest, hcs, List.cons_append]⟩
  · intro h
    exact (hthere h).of_isPrefix (Path.trimmed_isPrefix _) (Path.components_trimmed _)

end RunConfig

namespace Call

/-- A call that writes, writes an entry. It finds the directory for it, if there is a place from
which to look for that. -/
def PutsEntry (entries : List (Path × String)) (call : Call) : Prop :=
  ∀ p content, call.request = .write p content →
    (∃ e ∈ entries, target e.1 = p ∧ e.2 = content) ∧
      (call.before.HoldsParent p ↔ ∀ dir, p.parent? = some dir → call.before.HasStart dir)

/-- A call that writes, writes one of the two files of the configuration. It finds the directory
for it just if the root without its markers is there; so it does if the root has none. -/
def KeepsConfig (c : RunConfig) (call : Call) : Prop :=
  ∀ p content, call.request = .write p content →
    (p = target (c.configRoot.join ServerConfig.engineFile) ∨
        p = target (c.configRoot.join ServerConfig.serverFile)) ∧
      (call.before.HoldsParent p ↔ call.before.LeadsToDirectory c.configDir) ∧
      (first? c.configRoot.chars = none →
        (call.before.HoldsParent p ↔ call.before.HasStart c.configRoot))

theorem keepsConfig_write {c : RunConfig} {t : FileTree} {name : Path}
    (hname : name = ServerConfig.engineFile ∨ name = ServerConfig.serverFile)
    (hthere : t.HasStart c.configRoot → t.LeadsToDirectory c.configRoot) {content : String}
    (after : FileTree) (answer : Bool) :
    KeepsConfig c ⟨.write (target (c.configRoot.join name)) content, t, after, answer⟩ := by
  intro p content hrequest
  obtain ⟨rfl, rfl⟩ := Request.write.inj hrequest
  have hholds := RunConfig.holdsParent_configFile_iff (t := t) (c := c) hname
  refine ⟨?_, hholds, fun hunmarked => ?_⟩
  · rcases hname with rfl | rfl
    · exact .inl rfl
    · exact .inr rfl
  · exact hholds.trans (RunConfig.leadsToDirectory_configDir_iff hunmarked hthere)

end Call

namespace Journal

variable {P : Call → Prop} {old : List Call} {j : Journal}

/-- The calls since `old` satisfy `P`. -/
structure Since (P : Call → Prop) (old : List Call) (j : Journal) : Prop where
  rooted : j.files.Rooted
  calls : ∃ new, j.calls = new ++ old ∧ ∀ call ∈ new, P call

namespace Since

theorem start (h : j.files.Rooted) : Since P j.calls j :=
  ⟨h, [], rfl, by simp⟩

theorem perform (h : Since P old j) {request : Request} {op : StateM FileTree Bool}
    (hrooted : (op j.files).2.Rooted)
    (hcall : P ⟨request, j.files, (op j.files).2, (op j.files).1⟩) :
    Since P old (Journal.perform request op j).2 := by
  obtain ⟨new, hnew, hall⟩ := h.calls
  refine ⟨hrooted, _ :: new, congrArg (List.cons _) hnew, fun call hmem => ?_⟩
  rcases List.mem_cons.1 hmem with rfl | hmem
  · exact hcall
  · exact hall call hmem

variable (r : Refusals)

theorem writeTarget (h : Since P old j) {p : Path} {content : String}
    (hcall : ∀ after answer, P ⟨.write p content, j.files, after, answer⟩) :
    Since P old ((host r).writeTarget p content j).2 := by
  rw [(silent r).writeTarget]
  exact h.perform (h.rooted.host_write r p content) (hcall _ _)

end Since

/-! ## Entries -/

variable (r : Refusals) {entries : List (Path × String)}

/-- A file is put into a directory that is there. -/
theorem Since.put (h : Since (Call.PutsEntry entries) old j) {e : Path × String}
    (he : e ∈ entries) (overwrite : Bool) :
    Since (Call.PutsEntry entries) old ((host r).put overwrite e.1 e.2 j).2 := by
  have hcreate : ∀ p, Preserves (Since (Call.PutsEntry entries) old) ((host r).createDirAll p) := by
    intro p j hj
    exact hj.perform (hj.rooted.host_createDirAll r p) (by simp [Call.PutsEntry])
  have hensured := Preserves.ensureParent hcreate e.1 j h
  obtain ⟨hmade, hfiles⟩ := (host_follows r).ensureParent e.1 j
  unfold Host.put
  rw [stateM_bind]
  cases hanswer : ((host r).ensureParent e.1 j).1 with
  | false => exact hensured
  | true =>
    rw [if_pos rfl, writeOutput_apply]
    split
    · exact hensured
    · refine hensured.writeTarget r fun after answer p content hrequest => ?_
      obtain ⟨rfl, rfl⟩ := Request.write.inj hrequest
      refine ⟨⟨e, he, rfl, rfl⟩, fun hholds dir hdir => (hholds dir hdir).hasStart, ?_⟩
      intro hstart dir hdir
      have hthere := hstart dir hdir
      dsimp only at hthere ⊢
      rw [hfiles] at hthere ⊢
      exact FileTree.leadsToDirectory_of_ensured h.rooted r (hmade.symm.trans hanswer) hdir hthere

theorem putsEntry_work {m : Type → Type} (u : RunSetup m) (c : RunConfig) (s : Spec) :
    u.GuardedWork (host r) c s (Since (Call.PutsEntry (u.entries c s)) old) where
  silent := silent r
  put _ he _ h := h.put r he _
  createDirAll p _ h := h.perform (h.rooted.host_createDirAll r p) (by simp [Call.PutsEntry])
  removeDirAll _ p _ h := h.perform (h.rooted.host_removeDirAll r p) (by simp [Call.PutsEntry])
  download _ _ _ h := h.perform h.rooted (by simp [Call.PutsEntry])
  pathExists _ := .of_reads fun _ => rfl

/-! ## The configuration -/

variable {c : RunConfig}

/-- The calls are those of a run that keeps its configuration, and its directory is there. -/
structure Configuring (c : RunConfig) (old : List Call) (j : Journal) : Prop
    extends Since (Call.KeepsConfig c) old j where
  there : j.files.HasStart c.configRoot → j.files.LeadsToDirectory c.configRoot

theorem Configuring.replaceOutput (h : Configuring c old j) {name : Path}
    (hname : name = ServerConfig.engineFile ∨ name = ServerConfig.serverFile) (content : String) :
    Configuring c old ((host r).replaceOutput (c.configRoot.join name) content j).2 := by
  refine ⟨h.toSince.writeTarget r fun _ _ => Call.keepsConfig_write hname h.there _ _, ?_⟩
  unfold Host.replaceOutput
  rw [(silent r).writeTarget]
  intro hstart
  exact (h.there (FileTree.HasStart.of_write hstart)).of_grown (FileTree.write_grown r _ _ _)

/-- The directory of the configuration is created before anything is written. -/
theorem Since.writeConfig {m : Type → Type} (u : RunSetup m) (s : Spec) (roots : StructuralRoots)
    (views : List ViewRule) (mocks : List MockRule) :
    Preserves (Since (Call.KeepsConfig c) old)
      ((u.onHost (host r)).writeConfig c s roots views mocks).run := by
  intro j h
  have hcreated : Since (Call.KeepsConfig c) old ((host r).createDirAll c.configRoot j).2 :=
    h.perform (h.rooted.host_createDirAll r c.configRoot) (by simp [Call.KeepsConfig])
  rw [RunSetup.writeConfig_run (silent r)]
  split
  · rename_i hmade
    have hthere : Configuring c old ((host r).createDirAll c.configRoot j).2 :=
      ⟨hcreated, FileTree.leadsToDirectory_of_created h.rooted r hmade⟩
    have hengine := hthere.replaceOutput r (.inl rfl) (ServerConfig.text c.engineConfig)
    dsimp only
    split
    · exact hengine.toSince
    · have hread := Preserves.readExisting (I := Configuring c old) (.log (silent r))
        (fun _ => .of_reads fun _ => rfl) (c.configRoot.join ServerConfig.serverFile) _ hengine
      have hserver := fun content => hread.replaceOutput r (.inr rfl) content
      split
      · exact (hserver _).toSince
      · exact (hserver _).toSince
  · exact hcreated

theorem Since.finish {m : Type → Type} (u : RunSetup m) (s : Spec) (change : Change)
    (mocks : List MockRule) (views : List ViewRule) (rep : RunReport) :
    Preserves (Since (Call.KeepsConfig c) old)
      ((u.onHost (host r)).finish c s change mocks views rep).run :=
  RunSetup.finish_preserves (u := u.onHost (host r)) (fun _ => Since.writeConfig r u s _ _ _)
    (.log (silent r)) (fun _ => .of_reads fun _ => rfl) (fun _ => .of_reads fun _ => rfl)
    (fun _ _ => .of_reads fun _ => rfl) change

/-- A run puts its entries, then it keeps its configuration. -/
theorem calls_carryOut {m : Type → Type} (u : RunSetup m) (s : Spec) (h : j.files.Rooted) :
    ∃ config work, ((u.carryOut (host r) c s).run j).2.calls = config ++ work ++ j.calls ∧
      (∀ call ∈ work, call.PutsEntry (u.entries c s)) ∧ ∀ call ∈ config, call.KeepsConfig c := by
  have hguarded : u.GuardedWork (host r) c s (Since (Call.PutsEntry (u.entries c s)) j.calls) :=
    putsEntry_work r u c s
  have hready : Since (Call.PutsEntry (u.entries c s)) j.calls j := .start h
  rw [RunSetup.carryOut_run]
  split
  · have hworked := hguarded.work j hready
    obtain ⟨work, hcalls, hputs⟩ := hworked.calls
    obtain ⟨config, hcalls', hkeeps⟩ :=
      (Since.finish r u s _ _ _ _ _ (.start (P := Call.KeepsConfig c) hworked.rooted)).calls
    rw [hcalls, ← List.append_assoc] at hcalls'
    exact ⟨config, work, hcalls', hputs, hkeeps⟩
  · obtain ⟨work, hcalls, hputs⟩ := (hguarded.createDirAll c.outputRoot j hready).calls
    exact ⟨[], work, hcalls, hputs, by simp⟩

/-! ## The working directory -/

/-- The working directory `wd` is there, now and in what each call has found, unless a removal has
taken it away. -/
def KeepsCwd (wd : Location) (j : Journal) : Prop :=
  (∃ call ∈ j.calls, call.takesAway wd = true) ∨
    (j.files.cwd = wd ∧ j.files.find? wd = some .directory ∧
      ∀ call ∈ j.calls, call.before.cwd = wd ∧ call.before.find? wd = some .directory)

namespace KeepsCwd

variable {wd : Location}

theorem perform (h : KeepsCwd wd j) {request : Request} {op : StateM FileTree Bool}
    (hcwd : (op j.files).2.cwd = j.files.cwd)
    (hstays : j.files.find? wd = some .directory → (op j.files).2.find? wd = some .directory ∨
      Call.takesAway wd ⟨request, j.files, (op j.files).2, (op j.files).1⟩ = true) :
    KeepsCwd wd (Journal.perform request op j).2 := by
  rcases h with ⟨call, hcall, htakes⟩ | ⟨hwd, hthere, hall⟩
  · exact .inl ⟨call, List.mem_cons_of_mem _ hcall, htakes⟩
  · rcases hstays hthere with hstays | htakes
    · refine .inr ⟨hcwd.trans hwd, hstays, fun call hcall => ?_⟩
      rcases List.mem_cons.1 hcall with rfl | hcall
      · exact ⟨hwd, hthere⟩
      · exact hall call hcall
    · exact .inl ⟨_, List.mem_cons_self, htakes⟩

theorem grow (h : KeepsCwd wd j) {request : Request} {op : StateM FileTree Bool}
    (hgrown : FileTree.Grown j.files (op j.files).2) :
    KeepsCwd wd (Journal.perform request op j).2 :=
  h.perform hgrown.cwd fun hthere => .inl (hgrown.directory wd hthere)

theorem removeDirAll (h : KeepsCwd wd j) (p : Path) :
    KeepsCwd wd ((host r).removeDirAll p j).2 := by
  have hpruned := FileTree.host_removeDirAll_pruned r p j.files
  refine h.perform hpruned.cwd fun hthere => ?_
  rcases hpruned.find? wd with hsame | hnone
  · exact .inl (hsame.trans hthere)
  · exact .inr (by simp [Call.takesAway, hthere, hnone])

end KeepsCwd

theorem keepsCwd_guarded {m : Type → Type} (u : RunSetup m) (c : RunConfig) (s : Spec)
    (wd : Location) : u.Guarded (host r) c s (KeepsCwd wd) :=
  guarded r s (fun p j h => h.grow (FileTree.createDirAll_cases r p j.files).grown)
    (fun p content j h => h.grow (FileTree.write_grown r p content j.files))
    (fun _ _ j h => h.grow (.refl j.files)) fun _ p _ h => h.removeDirAll r p

/-- A call of the writer writes, or it finds the file and so the directory for it. -/
theorem writeOutput_writes_or_finds (overwrite : Bool) (path : Path) (content : String)
    (j : Journal) :
    let left := ((host r).writeOutput overwrite path content j).2
    (∃ call, call.request = .write (target path) content ∧ call.before = j.files ∧
        left.calls = call :: j.calls) ∨
      left = j ∧ j.files.HoldsParent (target path) := by
  dsimp only
  rw [writeOutput_apply, (silent r).writeTarget]
  split
  · rename_i hkept
    exact .inr ⟨rfl, .of_pathExists hkept.2⟩
  · exact .inl ⟨_, rfl, rfl, rfl⟩

end Journal

namespace RunSetup

/-- Each call of the writer finds the directory for its file, but for one that writes the
configuration to a root whose marker-free text leads to no directory, and for calls that look for
it from a working directory which a purge has removed. A root without markers is there. -/
theorem run_prepares_parents_iff {σ : Type} {view : σ → Journal} {u : RunSetup (StateM σ)}
    {r : Refusals} (hhost : u.host.Follows view (Journal.host r)) (c : RunConfig) (s : Spec) (w : σ)
    (hstart : (view w).calls = []) (hrooted : (view w).files.Rooted) :
    let before := (view w).files
    let after := view ((u.run c s).run w).2
    (∀ overwrite path content j,
      let left := ((Journal.host r).writeOutput overwrite path content j).2
      (∃ call : Call, call.request = .write (target path) content ∧ call.before = j.files ∧
          left.calls = call :: j.calls) ∨
        left = j ∧ j.files.HoldsParent (target path)) ∧
    (∃ config work, after.calls = config ++ work ∧
      (∀ call ∈ work, call.PutsEntry (u.entries c s)) ∧ ∀ call ∈ config, call.KeepsConfig c) ∧
    (before.find? before.cwd = some .directory →
      (∃ call ∈ after.calls, call.takesAway before.cwd = true) ∨
        ∀ call ∈ after.calls, ∀ p, call.before.HasStart p) := by
  intro before after
  have hafter : after = ((u.carryOut (Journal.host r) c s).run (view w)).2 :=
    (run_settles hhost (fun _ _ => rfl) c s w).1
  refine ⟨Journal.writeOutput_writes_or_finds r, ?_, fun hcwd => ?_⟩
  · obtain ⟨config, work, hcalls, hcalls'⟩ := Journal.calls_carryOut r (c := c) u s hrooted
    rw [hstart, List.append_nil] at hcalls
    exact ⟨config, work, hafter ▸ hcalls, hcalls'⟩
  · have hkept : (view w).KeepsCwd before.cwd := .inr ⟨rfl, hcwd, by simp [hstart]⟩
    have hkeeps := (Journal.keepsCwd_guarded r u c s before.cwd).carryOut _ hkept
    rw [hafter]
    refine hkeeps.imp_right fun hall call hcall p => .inr ?_
    obtain ⟨hwd, hthere⟩ := hall.2.2 call hcall
    rwa [hwd]

/-- A file below a new directory and both files of the configuration are written into directories
that are there. -/
theorem run_prepares_hidden_directory :
    let u : RunSetup (StateM Journal) :=
      { host := Journal.host {}, provider := .ofTypes 3, change := {} }
    let c : RunConfig :=
      { args := { action := .build, key := some "k", platform := .web }
        outputRoot := .ofString "out", configRoot := .ofString "out/.cfg" }
    let s : Spec := { docs := [.directory 1 "src" [.file ⟨2, "a!!w.txt", none, .none, "A"⟩]] }
    let after := ((u.run c s).run { files := {} }).2
    after.writes.map Prod.fst = [.ofString "out/src/a.txt", .ofString "out/.cfg/stubsmith.json",
        .ofString "out/.cfg/server.config.json"] ∧
      ∀ call ∈ after.calls, ∀ p content, call.request = .write p content →
        call.before.HoldsParent p := by
  intro u c s after
  have hrooted : FileTree.Rooted {} := FileTree.Rooted.of_entries (by simp)
  have hprepares := run_prepares_parents_iff (u := u) (Journal.host_follows_self {}) c s
    { files := {} } rfl hrooted
  have hrun := (run_settles (u := u) (Journal.host_follows_self {}) (fun _ _ => rfl) c s
    { files := {} }).1
  have hwrites : ((u.carryOut (Journal.host {}) c s).run { files := {} }).2.writes.map Prod.fst =
      [.ofString "out/src/a.txt", .ofString "out/.cfg/stubsmith.json",
        .ofString "out/.cfg/server.config.json"] := by
    decide +kernel
  have hstays : ((u.carryOut (Journal.host {}) c s).run { files := {} }).2.calls.any
      (Call.takesAway []) = false := by
    decide +kernel
  simp only [id_eq] at hprepares hrun
  rw [hrun] at hprepares
  rw [show after = _ from hrun]
  generalize ((u.carryOut (Journal.host {}) c s).run { files := {} }).2 = j at *
  rw [List.any_eq_false] at hstays
  obtain ⟨-, ⟨config, work, hcalls, hputs, hkeeps⟩, hcwd⟩ := hprepares
  have hstart := (hcwd rfl).resolve_left fun ⟨call, hcall, htakes⟩ => hstays call hcall htakes
  refine ⟨hwrites, fun call hcall p content hrequest => ?_⟩
  rw [hcalls] at hcall
  have hhas := hstart call (hcalls ▸ hcall)
  rcases List.mem_append.1 hcall with hcall | hcall
  · exact ((hkeeps call hcall p content hrequest).2.2 (by decide)).2 (hhas _)
  · exact (hputs call hcall p content hrequest).2.2 fun dir _ => hhas dir

/-- A directory that is asked for is created. -/
def createsAsked (call : Call) : Bool :=
  match call.request with
  | .createDirAll _ => call.answer
  | _ => true

/-- A file is to be written to `path` while `dir` is not there. -/
def writesWithout (dir path : Path) (call : Call) : Bool :=
  match call.request with
  | .write p _ => p == path && (call.before.get? dir).isNone
  | _ => false

/-- The directory of the configuration is created with its marker, and its files are to be written
without. -/
theorem run_misses_directory :
    let u : RunSetup (StateM Journal) :=
      { host := Journal.host {}, provider := .ofTypes 3, change := {} }
    let c : RunConfig :=
      { args := { action := .build, key := some "k", platform := .web }
        outputRoot := .ofString "out", configRoot := .ofString "out/.cfg!!w" }
    let after := ((u.run c {}).run { files := {} }).2
    (∀ call ∈ after.calls, ∀ p, call.request = .createDirAll p → call.answer = true) ∧
      ∃ call ∈ after.calls, ∃ content,
        call.request = .write (.ofString "out/.cfg/stubsmith.json") content ∧
          ¬ call.before.HoldsParent (.ofString "out/.cfg/stubsmith.json") := by
  intro u c after
  have hrun := (run_settles (u := u) (Journal.host_follows_self {}) (fun _ _ => rfl) c {}
    { files := {} }).1
  simp only [id_eq] at hrun
  have hcreated : ((u.carryOut (Journal.host {}) c {}).run { files := {} }).2.calls.all
      createsAsked = true := by
    decide +kernel
  have hmisses : ((u.carryOut (Journal.host {}) c {}).run { files := {} }).2.calls.any
      (writesWithout (.ofString "out/.cfg") (.ofString "out/.cfg/stubsmith.json")) = true := by
    decide +kernel
  rw [show after = _ from hrun]
  constructor
  · intro call hcall p hrequest
    have hmade := List.all_eq_true.1 hcreated call hcall
    simpa only [createsAsked, hrequest] using hmade
  · obtain ⟨call, hcall, hmissed⟩ := List.any_eq_true.1 hmisses
    unfold writesWithout at hmissed
    split at hmissed
    · rename_i p content hrequest
      rw [Bool.and_eq_true, beq_iff_eq, Option.isNone_iff_eq_none] at hmissed
      obtain ⟨rfl, hnone⟩ := hmissed
      refine ⟨call, hcall, content, hrequest, fun hholds => ?_⟩
      obtain ⟨loc, -, -, hget⟩ := hholds (.ofString "out/.cfg") (by decide)
      rw [hget (by decide)] at hnone
      cases hnone
    · exact absurd hmissed Bool.false_ne_true

end RunSetup

end Scaffold

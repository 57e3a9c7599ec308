import Mathlib
import Scaffold.Proofs.FileTree.Put
import Scaffold.Proofs.Run.Invariant

/-!
# Runs that overwrite nothing

Without overwriting and without purges, a file that is there stays as it is, unless a marker asks
for it to be overwritten. Only the run's own configuration is written anew in any case.
-/

namespace Scaffold

open WriteDirective (target first?)

namespace FileTree

/-- What was a file in `t` is the same file in `t'`, except at `exempt` locations. -/
structure Keeps (exempt : Location → Prop) (t t' : FileTree) : Prop where
  cwd : t'.cwd = t.cwd
  file : ∀ loc content, t.find? loc = some (.file content) → ¬ exempt loc →
    t'.find? loc = some (.file content)

variable {exempt : Location → Prop} {t t' t'' : FileTree}

theorem Keeps.refl (t : FileTree) : Keeps exempt t t :=
  ⟨rfl, fun _ _ h _ => h⟩

theorem Keeps.trans (h : Keeps exempt t t') (h' : Keeps exempt t' t'') : Keeps exempt t t'' :=
  ⟨h'.cwd.trans h.cwd, fun loc content hfile hloc =>
    h'.file loc content (h.file loc content hfile hloc) hloc⟩

theorem Built.keeps (h : Built t t') : Keeps exempt t t' :=
  ⟨h.cwd, fun _ _ hfile _ => h.find?_of_some hfile⟩

/-- A write touches no file but the one it is about. -/
theorem Wrote.keeps {p : Path} {content : String} {loc : Location}
    (h : Wrote t t' p content loc) (hloc : exempt loc ∨ t.find? loc = none) :
    Keeps exempt t t' := by
  refine ⟨h.cwd, fun l old hfile hl => ?_⟩
  by_cases heq : l = loc
  · subst heq
    rcases hloc with hexempt | hnone
    · exact absurd hexempt hl
    · rw [hnone] at hfile
      simp at hfile
  · rw [h.find?_of_ne heq, hfile]

end FileTree

namespace RunSetup

variable {m : Type → Type}

/-- The places of the configuration of an incremental run. -/
def ConfigPlace (c : RunConfig) (t : FileTree) (loc : Location) : Prop :=
  c.args.isIncremental = true ∧
    (t.destination (target (c.configRoot.join ServerConfig.engineFile)) = loc ∨
      t.destination (target (c.configRoot.join ServerConfig.serverFile)) = loc)

/-- The places of a run where files may change although nothing is overwritten. -/
def Exempt (u : RunSetup m) (c : RunConfig) (s : Spec) (t : FileTree) (loc : Location) : Prop :=
  ConfigPlace c t loc ∨
    ∃ e ∈ u.entries c s, first? e.1.chars = some .overwrite ∧ t.destination (target e.1) = loc

theorem configPlace_of_cwd {c : RunConfig} {t t' : FileTree} (h : t'.cwd = t.cwd) :
    ConfigPlace c t' = ConfigPlace c t := by
  funext loc
  simp only [ConfigPlace, FileTree.destination_of_cwd h]

/-- No operation of a run that neither overwrites nor purges changes a file it may not change. -/
theorem keeps_guarded {u : RunSetup m} {c : RunConfig} (r : Refusals)
    (hoverwrite : c.args.overwrite = false) (hpurge : (u.policy c).purgeGenerated = false)
    (s : Spec) (t₀ : FileTree) :
    u.Guarded (FileTree.host r) c s (FileTree.Keeps (u.Exempt c s t₀) t₀) where
  silent := FileTree.silent r
  put e he t ht := by
    refine ht.trans ?_
    obtain ⟨t', hbuilt, hput⟩ := FileTree.put_cases r c.args.overwrite e.1 e.2 t
    refine hbuilt.keeps.trans ?_
    rcases hput with ⟨heq, -⟩ | ⟨-, loc, hwrote, hover⟩
    · rw [heq]
      exact .refl t'
    · refine hwrote.keeps ?_
      rcases hover with hover | hnone
      · refine .inl (.inr ⟨e, he, ?_, ?_⟩)
        · rw [hoverwrite] at hover
          exact (WriteDirective.overwrites_false_iff _).1 hover
        · exact FileTree.destination_of_locate (hbuilt.cwd.trans ht.cwd) hwrote.locate
      · exact .inr hnone
  replace hincremental name hname content t ht := by
    refine ht.trans ?_
    rcases FileTree.writeTarget_cases r (target (c.configRoot.join name)) content t with
      ⟨-, loc, hwrote⟩ | hfailed
    · refine hwrote.keeps (.inl (.inl ⟨hincremental, ?_⟩))
      rw [← FileTree.destination_of_locate ht.cwd hwrote.locate]
      exact hname.imp (fun h => by rw [h]) fun h => by rw [h]
    · rw [show (FileTree.host r).replaceOutput (c.configRoot.join name) content t = (none, t)
        from hfailed]
      exact .refl t
  createDirAll p t ht := ht.trans (FileTree.createDirAll_cases r p t).keeps
  removeDirAll hpurges := by simp [hpurge] at hpurges
  download _ _ := .of_reads fun _ => rfl
  pathExists _ := .of_reads fun _ => rfl
  readText _ := .of_reads fun _ => rfl
  names _ := .of_reads fun _ => rfl
  updateProject _ _ := .of_reads fun _ => rfl

/-- If nothing is overwritten and nothing purged, every file that was there before a run is
there after it, with the same content, however the run ends. Only the configuration of an
incremental run and files at paths whose first marker asks for it are written anew. -/
theorem run_keeps_files {σ : Type} {view : σ → FileTree} {u : RunSetup (StateM σ)} {r : Refusals}
    (hhost : u.host.Follows view (FileTree.host r)) (c : RunConfig) (s : Spec)
    (hoverwrite : c.args.overwrite = false)
    (hpurge : (RegenerationPolicy.ofArgs c.args u.change).purgeGenerated = false) (w : σ)
    (loc : Location) (content : String)
    (hfile : (view w).find? loc = some (.file content)) (hexempt : ¬ u.Exempt c s (view w) loc) :
    (view ((u.run c s).run w).2).find? loc = some (.file content) := by
  have hkeeps := run_preserves hhost (fun _ _ => rfl)
    (keeps_guarded r hoverwrite (policy_not_purging hpurge) s (view w)) (.refl (view w))
  exact hkeeps.file loc content hfile hexempt

set_option maxRecDepth 5000 in
/-- A file of the user's at the place of an output stays the user's. -/
theorem run_keeps_user_file :
    let u : RunSetup (StateM Workspace) :=
      { host := Workspace.host.refusing {}, provider := .ofTypes 3, change := .all }
    let c : RunConfig :=
      { args := { action := .build }, outputRoot := .ofString "out"
        configRoot := .ofString "conf" }
    let s : Spec := { docs := [.file ⟨1, "a.txt", none, .none, "new"⟩] }
    let w : Workspace :=
      { files := { entries := [(["out".toList], .directory),
          (["out".toList, "a.txt".toList], .file "mine")] } }
    ((u.run c s).run w).2.files.find? ["out".toList, "a.txt".toList] = some (.file "mine") := by
  intro u c s w
  have hentries : u.entries c s = [(.ofString "out/a.txt", "new")] := by
    have hplan : ∀ context : RenderContext,
        Plan.ofNodes (rendering s) true context s.docs = [.put "a.txt" "new"] := by
      intro context
      cbv
    rw [entries, plan, show c.args.normalDocs = true from rfl, hplan]
    cbv
  refine run_keeps_files (Workspace.host_refusing_follows {}) c s rfl rfl w _ "mine" rfl ?_
  rintro (⟨hincremental, -⟩ | ⟨e, he, hmarker, -⟩)
  · simp [c, RunArgs.isIncremental] at hincremental
  · rw [hentries, List.mem_singleton] at he
    subst he
    revert hmarker
    decide

end RunSetup

end Scaffold

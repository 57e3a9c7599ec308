import Mathlib
import Scaffold.Proofs.FileTree.Put

/-!
# Trees that only grow

As long as nothing is removed, directories stay directories and files stay files, whatever is
written into them. A path that leads somewhere leads there for good.
-/

namespace Scaffold.FileTree

/-- Whatever `t` holds is in `t'` too; files may have another content. -/
structure Grown (t t' : FileTree) : Prop where
  cwd : t'.cwd = t.cwd
  directory : ∀ loc, t.find? loc = some .directory → t'.find? loc = some .directory
  file : ∀ loc content, t.find? loc = some (.file content) →
    ∃ content', t'.find? loc = some (.file content')

variable {t t' t'' : FileTree}

namespace Grown

theorem refl (t : FileTree) : Grown t t :=
  ⟨rfl, fun _ h => h, fun _ content h => ⟨content, h⟩⟩

theorem trans (h : Grown t t') (h' : Grown t' t'') : Grown t t'' := by
  refine ⟨h'.cwd.trans h.cwd, fun loc hdir => h'.directory loc (h.directory loc hdir), ?_⟩
  intro loc content hfile
  obtain ⟨content', hfile'⟩ := h.file loc content hfile
  exact h'.file loc content' hfile'

theorem passable (h : Grown t t') {loc : Location} {c : Path.Component}
    (hpass : Passable t loc c) : Passable t' loc c :=
  hpass.imp_right fun ⟨hdir, hname⟩ => ⟨h.directory loc hdir, hname⟩

theorem follow (h : Grown t t') {loc l : Location} {cs : List Path.Component}
    (hfollow : t.follow loc cs = .ok l) : t'.follow loc cs = .ok l := by
  induction cs generalizing loc with
  | nil => simpa only [FileTree.follow] using hfollow
  | cons c cs ih =>
    have hpass := passable_of_follow hfollow
    rw [hpass.follow] at hfollow
    rw [(h.passable hpass).follow]
    exact ih hfollow

theorem locate (h : Grown t t') {p : Path} {loc : Location} (hlocate : t.locate p = .ok loc) :
    t'.locate p = .ok loc := by
  obtain ⟨hne, husable, hfollow⟩ := locate_eq_ok_iff.1 hlocate
  exact locate_eq_ok_iff.2 ⟨hne, husable, h.cwd ▸ h.follow hfollow⟩

theorem pathExists (h : Grown t t') {p : Path} (hexists : t.pathExists p = true) :
    t'.pathExists p = true := by
  obtain ⟨loc, e, hlocate, hfind, hsuits⟩ := (pathExists_iff t p).1 hexists
  rw [pathExists_iff]
  cases e with
  | directory => exact ⟨loc, .directory, h.locate hlocate, h.directory loc hfind, .inl rfl⟩
  | file content =>
    obtain ⟨content', hfile⟩ := h.file loc content hfind
    refine ⟨loc, .file content', h.locate hlocate, hfile, ?_⟩
    rcases hsuits with hdir | hmeans
    · simp at hdir
    · exact .inr hmeans

end Grown

theorem Built.grown (h : Built t t') : Grown t t' :=
  ⟨h.cwd, fun _ hdir => h.find?_of_some hdir,
    fun _ content hfile => ⟨content, h.find?_of_some hfile⟩⟩

theorem Wrote.grown {p : Path} {content : String} {loc : Location}
    (h : Wrote t t' p content loc) : Grown t t' := by
  refine ⟨h.cwd, fun l hdir => ?_, fun l old hfile => ?_⟩
  · have hne : l ≠ loc := by
      rintro rfl
      exact h.free hdir
    rw [h.find?_of_ne hne, hdir]
  · by_cases hl : l = loc
    · exact ⟨content, hl ▸ h.find?_self⟩
    · exact ⟨old, by rw [h.find?_of_ne hl, hfile]⟩

theorem write_grown (r : Refusals) (p : Path) (content : String) (t : FileTree) :
    Grown t ((host r).write p content t).2 := by
  rcases write_cases r p content t with ⟨-, -, loc, hwrote⟩ | hfailed
  · exact hwrote.grown
  · rw [hfailed]
    exact .refl t

end Scaffold.FileTree

import Mathlib
import Scaffold.Proofs.FileTree.Growth
import Scaffold.Proofs.Path.Parent

/-!
# Creating and writing again

Once directories have been created along a path, nothing is left to create there; where that has
failed, a file or an impossible name is in the way for good. What could be written can be written
again, and what could not still cannot, if the directory for it was there.
-/

namespace Scaffold

open Host (refused)
open WriteDirective (target)

namespace FileTree

/-- The location is a directory, with all above it. -/
def Standing (t : FileTree) (loc : Location) : Prop :=
  ∀ l, l <+: loc → t.find? l = some .directory

variable {t t' g : FileTree} {loc : Location}

namespace Standing

theorem self (h : Standing t loc) : t.find? loc = some .directory :=
  h loc (List.prefix_refl loc)

theorem nil (t : FileTree) : Standing t [] := by
  intro l hl
  rw [List.prefix_nil.1 hl, find?_nil]

theorem dropLast (h : Standing t loc) : Standing t loc.dropLast :=
  fun l hl => h l (hl.trans (List.dropLast_prefix loc))

theorem concat (h : Standing t loc) {n : List Char}
    (hn : t.find? (loc ++ [n]) = some .directory) : Standing t (loc ++ [n]) := by
  intro l hl
  rcases List.prefix_concat_iff.1 hl with rfl | hl
  · exact hn
  · exact h l hl

theorem grown (h : Standing t loc) (hgrown : Grown t t') : Standing t' loc :=
  fun l hl => hgrown.directory l (h l hl)

end Standing

/-! ## Creating -/

/-- Creating stops at a name that cannot be a directory, or goes on in a directory that is there
or new. -/
theorem createAlong_name (h : Standing t loc) (n : List Char) (cs : List Path.Component) :
    (t.createAlong loc (.name n :: cs) = (false, t) ∧
        (isName n = false ∨ ∃ content, t.find? (loc ++ [n]) = some (.file content))) ∨
      (isName n = true ∧ ∃ t', Grown t t' ∧ Standing t' (loc ++ [n]) ∧
        t.createAlong loc (.name n :: cs) = t'.createAlong (loc ++ [n]) cs) := by
  simp only [createAlong, isDirectory, h.self]
  cases isName n with
  | false => exact .inl ⟨rfl, .inl rfl⟩
  | true =>
    simp only [Bool.not_true, beq_self_eq_true, Bool.or_self, Bool.false_eq_true, if_false]
    cases hfind : t.find? (loc ++ [n]) with
    | none =>
      have hgrown := (built_insert_directory hfind).grown
      have hnew := (h.grown hgrown).concat (find?_insert_self t (by simp) .directory)
      exact .inr ⟨trivial, _, hgrown, hnew, rfl⟩
    | some e =>
      cases e with
      | directory => exact .inr ⟨trivial, t, .refl t, h.concat hfind, rfl⟩
      | file content => exact .inl ⟨rfl, .inr ⟨content, rfl⟩⟩

/-- Directories are created once and for all, as far as they can be. -/
theorem createAlong_again {cs : List Path.Component} (h : Standing t loc)
    (hgrown : Grown (t.createAlong loc cs).2 g) :
    g.createAlong loc cs = ((t.createAlong loc cs).1, g) := by
  induction cs generalizing t loc with
  | nil =>
    have hdir := hgrown.directory loc h.self
    simp [createAlong, isDirectory, h.self, hdir]
  | cons c cs ih =>
    cases c with
    | root => exact ih (.nil t) hgrown
    | here => exact ih h hgrown
    | up => exact ih h.dropLast hgrown
    | name n =>
      have hbefore := (createAlong_built t loc (.name n :: cs)).grown.trans hgrown
      have hdir := hbefore.directory loc h.self
      rcases createAlong_name h n cs with ⟨heq, hstop⟩ | ⟨hname, t', -, hnew, heq⟩
      · rw [heq]
        rcases hstop with hname | ⟨content, hfile⟩
        · simp [createAlong, hname]
        · obtain ⟨content', hfile'⟩ := hbefore.file _ content hfile
          simp [createAlong, isDirectory, hdir, hfile']
      · rw [heq] at hgrown ⊢
        rw [← ih hnew hgrown]
        have hthere := ((createAlong_built t' _ cs).grown.trans hgrown).directory _ hnew.self
        simp [createAlong, isDirectory, hname, hdir, hthere]

/-- What has been created along components can be followed, and is there. -/
theorem follow_createAlong {cs : List Path.Component} (h : Standing t loc)
    (hcreated : (t.createAlong loc cs).1 = true) :
    (t.createAlong loc cs).2.follow loc cs = .ok (loc.along cs) ∧
      (t.createAlong loc cs).2.find? (loc.along cs) = some .directory := by
  induction cs generalizing t loc with
  | nil => exact ⟨rfl, h.self⟩
  | cons c cs ih =>
    have hafter := (createAlong_built t loc (c :: cs)).grown.directory loc h.self
    cases c with
    | root => exact ih (.nil t) hcreated
    | here =>
      simp only [follow, hafter]
      exact ih h hcreated
    | up =>
      simp only [follow, hafter]
      exact ih h.dropLast hcreated
    | name n =>
      rcases createAlong_name h n cs with ⟨heq, -⟩ | ⟨hname, t', -, hnew, heq⟩
      · simp [heq] at hcreated
      · simp only [follow, hafter, hname, if_true]
        rw [heq] at hcreated ⊢
        exact ih hnew hcreated

section Host

variable (r : Refusals)

theorem createDirAll_again {p : Path} (h : Standing t t.cwd)
    (hgrown : Grown ((host r).createDirAll p t).2 g) :
    ((host r).createDirAll p g).2 = g ∧
      (((host r).createDirAll p t).1 = true → ((host r).createDirAll p g).1 = true) ∧
      (lastSegment p ≠ ['.'] →
        ((host r).createDirAll p g).1 = ((host r).createDirAll p t).1) := by
  have hcwd : g.cwd = t.cwd := hgrown.cwd.trans (createDirAll_cases r p t).cwd
  simp only [host] at hgrown ⊢
  cases hrefused : refused r.createDirAll p with
  | true => simp
  | false =>
    simp only [hrefused, Bool.false_eq_true, if_false, createDirAll] at hgrown ⊢
    cases hempty : p.isEmpty with
    | true => simp
    | false =>
      cases husable : isUsable p with
      | false => simp
      | true =>
        simp only [hempty, husable, Bool.false_eq_true, if_false, Bool.not_true] at hgrown ⊢
        rw [hcwd]
        by_cases hlast : lastSegment p = ['.']
        · simp only [hlast, if_true] at hgrown ⊢
          generalize p.components.dropLast = cs at hgrown ⊢
          have hagain : Grown (t.createAlong t.cwd cs).2 g →
              g.createAlong t.cwd cs = ((t.createAlong t.cwd cs).1, g) := createAlong_again h
          generalize t.createAlong t.cwd cs = created at hgrown hagain ⊢
          obtain ⟨made, t'⟩ := created
          cases made with
          | true =>
            rw [hagain hgrown]
            exact ⟨rfl, fun hthere => hgrown.pathExists hthere, by simp⟩
          | false =>
            rw [hagain hgrown]
            simp
        · simp only [hlast, if_false] at hgrown ⊢
          rw [createAlong_again h hgrown]
          simp

/-- The working directory is created by being there. -/
theorem createDirAll_here {dir : Path} (h : Standing t t.cwd) (hne : dir.isEmpty = false)
    (hlast : lastSegment dir = ['.']) (hhere : dir.components = [.here]) :
    ((host r).createDirAll dir t).1 = (!refused r.createDirAll dir && isUsable dir) := by
  simp only [host]
  cases refused r.createDirAll dir with
  | true => simp
  | false =>
    cases husable : isUsable dir with
    | false => simp [createDirAll, hne, husable]
    | true =>
      simp [createDirAll, hne, husable, hlast, hhere, createAlong, isDirectory, h.self, get?,
        locate, follow]

/-- Creating the directory for a file a second time changes nothing. -/
theorem ensureParent_again (path : Path) (h : Standing t t.cwd)
    (hgrown : Grown ((host r).ensureParent path t).2 g) :
    ((host r).ensureParent path g).2 = g ∧
      (((host r).ensureParent path t).1 = true → ((host r).ensureParent path g).1 = true) ∧
      (meansDirectory (target path) = false →
        ((host r).ensureParent path g).1 = ((host r).ensureParent path t).1) := by
  rcases (host r).ensureParent_cases path with heq | ⟨dir, hparent, hne, heq⟩
  · rw [heq]
    exact ⟨rfl, fun _ => rfl, fun _ => rfl⟩
  · rw [heq] at hgrown ⊢
    obtain ⟨hsame, htrue, hanswer⟩ := createDirAll_again r h hgrown
    refine ⟨hsame, htrue, fun hmeans => ?_⟩
    by_cases hlast : lastSegment dir = ['.']
    · have hfile : (target path).chars ≠ [] := by
        intro hnil
        simp [Path.parent?, hnil, Path.trimReversed] at hparent
      obtain ⟨dir', name, hparent', -, hhere⟩ := Path.exists_parent hfile hmeans
      obtain rfl : dir = dir' := Option.some.inj (hparent.symm.trans hparent')
      have hstanding : Standing g g.cwd := by
        have hall := (createDirAll_cases r dir t).grown.trans hgrown
        exact hall.cwd ▸ h.grown hall
      rw [createDirAll_here r h hne hlast (hhere hlast),
        createDirAll_here r hstanding hne hlast (hhere hlast)]
    · exact hanswer hlast

/-- The directory that was created for a file can be reached. -/
theorem ensureParent_reaches (path : Path) (h : Standing t t.cwd)
    (hcreated : ((host r).ensureParent path t).1 = true) (hne : (target path).chars ≠ [])
    (hmeans : meansDirectory (target path) = false) :
    ∃ cs name l, (target path).components = cs ++ [.name name] ∧
      ((host r).ensureParent path t).2.follow t.cwd cs = .ok l ∧
      ((host r).ensureParent path t).2.find? l = some .directory := by
  obtain ⟨dir, name, hparent, hcomponents, hhere⟩ := Path.exists_parent hne hmeans
  refine ⟨dir.components, name, t.cwd.along dir.components, hcomponents, ?_⟩
  rw [Host.ensureParent_of_parent hparent] at hcreated ⊢
  cases hempty : dir.isEmpty with
  | true =>
    obtain rfl := Path.isEmpty_iff.1 hempty
    exact ⟨rfl, h.self⟩
  | false =>
    simp only [hempty, Bool.false_eq_true, if_false] at hcreated ⊢
    rcases createDirAll_of_true r hcreated with ⟨rfl, -⟩ | ⟨-, -, hlast, hmade, -⟩ | ⟨-, -, hmade⟩
    · cases hempty
    · have hthere : t.createAlong t.cwd [] = (true, t) := by
        simp [createAlong, isDirectory, h.self]
      rw [hhere hlast, List.dropLast_singleton, hthere] at hmade
      rw [← (Prod.ext_iff.1 hmade).2, hhere hlast]
      simp [follow, Location.along, h.self]
    · have hway := follow_createAlong h (congrArg Prod.fst hmade)
      rwa [hmade] at hway

/-- Once the directory for a file is there, it does not matter for the way to the file what else
there is. -/
theorem locate_again (path : Path) (h : Standing t t.cwd)
    (hcreated : ((host r).ensureParent path t).1 = true)
    (hmeans : meansDirectory (target path) = false)
    (hgrown : Grown ((host r).ensureParent path t).2 g) :
    g.locate (target path) = ((host r).ensureParent path t).2.locate (target path) := by
  have hcwd := (ensureParent_built r path t).cwd
  unfold locate
  by_cases hempty : (target path).isEmpty = true
  · simp [hempty]
  · have hne := Path.chars_ne_nil (mt Path.isEmpty_iff.2 hempty)
    obtain ⟨cs, name, l, hcomponents, hfollow, hdir⟩ :=
      ensureParent_reaches r path h hcreated hne hmeans
    have hlast : g.follow l [.name name] =
        ((host r).ensureParent path t).2.follow l [.name name] := by
      simp only [follow, hdir, hgrown.directory l hdir]
    rw [hgrown.cwd, hcwd, hcomponents, follow_append hfollow,
      follow_append (hgrown.follow hfollow), hlast]

/-! ## Writing -/

theorem write_of_locate {p : Path} (content : String) (hrefused : refused r.write p = false)
    (hmeans : meansDirectory p = false) (hlocate : t.locate p = .ok loc)
    (hfree : t.find? loc ≠ some .directory) :
    (host r).write p content t = (true, t.insert loc (.file content)) := by
  have hwrite := (write_eq_some_iff t _ p content).2 ⟨hmeans, loc, hlocate, hfree, rfl⟩
  simp [host, hrefused, Workspace.writeFile, hwrite]

/-- What has been written can be written again. -/
theorem write_again {p : Path} {content : String} (hwrote : Wrote t t' p content loc)
    (hrefused : refused r.write p = false) (hgrown : Grown t' g) (content' : String) :
    (host r).write p content' g = (true, g.insert loc (.file content')) := by
  refine write_of_locate r content' hrefused hwrote.means ?_ ?_
  · exact (hwrote.grown.trans hgrown).locate hwrote.locate
  · obtain ⟨old, hfile⟩ := hgrown.file loc content hwrote.find?_self
    simp [hfile]

/-- What could not be written cannot be written later, if the way to it is the same. -/
theorem write_fails_again {p : Path} {content : String}
    (hfailed : (host r).write p content t = (false, t))
    (hlocate : meansDirectory p = false → g.locate p = t.locate p) (hgrown : Grown t g) :
    (host r).write p content g = (false, g) := by
  rcases write_cases r p content g with ⟨-, hrefused, loc, hwrote⟩ | hagain
  · have hfree : t.find? loc ≠ some .directory := fun hdir =>
      hwrote.free (hgrown.directory loc hdir)
    have hthere := hlocate hwrote.means ▸ hwrote.locate
    rw [write_of_locate r content hrefused hwrote.means hthere hfree] at hfailed
    exact absurd (congrArg Prod.fst hfailed) (by simp)
  · exact hagain

end Host

end FileTree

end Scaffold

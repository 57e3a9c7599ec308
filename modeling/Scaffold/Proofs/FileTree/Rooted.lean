import Mathlib
import Scaffold.Proofs.FileTree.Again
import Scaffold.Proofs.FileTree.Content

/-!
# Rooted trees

In a file system every entry lies in a directory. Operations keep it so: files and directories
are only put into directories, and what is removed is removed with all that lies in it. So there
is a way to every file, and creating a directory for it opens the way that its path takes.
-/

namespace Scaffold.FileTree

open Host (refused)

/-- Whatever is there lies in a directory. -/
def Rooted (t : FileTree) : Prop :=
  ∀ loc name, t.find? (loc ++ [name]) ≠ none → t.find? loc = some .directory

variable {t t' : FileTree} {loc : Location} {p : Path}

/-- A path that ends with a name leads into a directory. -/
theorem follow_concat_iff {from_ : Location} {cs : List Path.Component} {name : List Char} :
    t.follow from_ (cs ++ [.name name]) = .ok loc ↔
      ∃ dir, t.follow from_ cs = .ok dir ∧ t.find? dir = some .directory ∧
        isName name = true ∧ loc = dir ++ [name] := by
  induction cs generalizing from_ with
  | nil =>
    rw [List.nil_append]
    constructor
    · intro h
      have hpass := passable_of_follow h
      rw [hpass.follow, follow, Except.ok.injEq] at h
      rcases hpass with hroot | ⟨hdir, hname⟩
      · cases hroot
      · exact ⟨from_, rfl, hdir, hname name rfl, h.symm⟩
    · rintro ⟨dir, hdir, hfind, hname, rfl⟩
      obtain rfl : from_ = dir := by simpa only [follow, Except.ok.injEq] using hdir
      simp only [follow, hfind, hname, if_true]
  | cons c cs ih =>
    rw [List.cons_append]
    constructor
    · intro h
      have hpass := passable_of_follow h
      rw [hpass.follow] at h ⊢
      exact ih.1 h
    · rintro ⟨dir, hdir, hrest⟩
      have hpass := passable_of_follow hdir
      rw [hpass.follow] at hdir ⊢
      exact ih.2 ⟨dir, hdir, hrest⟩

theorem exists_parent_of_locate (hmeans : meansDirectory p = false)
    (hlocate : t.locate p = .ok loc) :
    ∃ dir name, loc = dir ++ [name] ∧ t.find? dir = some .directory := by
  obtain ⟨hne, -, hfollow⟩ := locate_eq_ok_iff.1 hlocate
  obtain ⟨parent, name, -, hcomponents, -⟩ := Path.exists_parent (Path.chars_ne_nil hne) hmeans
  rw [hcomponents] at hfollow
  obtain ⟨dir, -, hdir, -, heq⟩ := follow_concat_iff.1 hfollow
  exact ⟨dir, name, heq, hdir⟩

namespace Rooted

theorem of_entries (h : ∀ e ∈ t.entries, t.find? e.1.dropLast = some .directory) : t.Rooted := by
  intro loc name hthere
  rw [find?_of_ne_nil t (by simp), ← Option.isSome_iff_ne_none, List.lookup_isSome_iff] at hthere
  obtain ⟨e, he, hsame⟩ := hthere
  have hparent := h e he
  rwa [← beq_iff_eq.1 hsame, List.dropLast_concat] at hparent

theorem dropLast (h : t.Rooted) (hdir : t.find? loc = some .directory) :
    t.find? loc.dropLast = some .directory := by
  rcases List.eq_nil_or_concat loc with rfl | ⟨front, name, rfl⟩
  · exact hdir
  · rw [List.concat_eq_append] at hdir ⊢
    rw [List.dropLast_concat]
    exact h front name (by simp [hdir])

theorem standing (h : t.Rooted) (hdir : t.find? loc = some .directory) : t.Standing loc := by
  induction loc using List.reverseRecOn with
  | nil => exact .nil t
  | append_singleton front name ih => exact (ih (h front name (by simp [hdir]))).concat hdir

/-- Something is put into a directory, where no directory was. -/
theorem insert (h : t.Rooted) {name : List Char} (hdir : t.find? loc = some .directory)
    (hfree : t.find? (loc ++ [name]) ≠ some .directory) (e : FileEntry) :
    (t.insert (loc ++ [name]) e).Rooted := by
  intro l n hthere
  have hne : t.find? l = some .directory → l ≠ loc ++ [name] := by
    rintro hl rfl
    exact hfree hl
  suffices hl : t.find? l = some .directory by rw [find?_insert_of_ne t (hne hl), hl]
  by_cases hsame : l ++ [n] = loc ++ [name]
  · obtain ⟨rfl, -⟩ := List.append_inj' hsame rfl
    exact hdir
  · rw [find?_insert_of_ne t hsame] at hthere
    exact h l n hthere

theorem eraseWhere (h : t.Rooted) (keep : Location → Bool)
    (hkeep : ∀ l n, keep (l ++ [n]) = true → l = [] ∨ keep l = true) :
    Rooted { t with entries := t.entries.filter fun (k, _) => keep k } := by
  intro l n hthere
  rw [find?_eraseWhere] at hthere ⊢
  split at hthere
  · rename_i hkept
    have hkept : keep (l ++ [n]) = true := by simpa using hkept
    rw [if_pos (hkeep l n hkept)]
    exact h l n hthere
  · exact absurd rfl hthere

theorem erase (h : t.Rooted) (loc : Location) : (t.erase loc).Rooted := by
  refine h.eraseWhere (fun l => !loc.isPrefixOf l) fun l n hkept => .inr ?_
  rw [Bool.not_eq_true', ← Bool.not_eq_true, List.isPrefixOf_iff_prefix] at hkept ⊢
  exact fun hl => hkept (hl.trans (List.prefix_append l [n]))

theorem eraseBelow (h : t.Rooted) (loc : Location) : (t.eraseBelow loc).Rooted := by
  refine h.eraseWhere (fun l => !loc.isPrefixOf l || l == loc) fun l n hkept => ?_
  rw [Bool.or_eq_true, Bool.not_eq_true', ← Bool.not_eq_true, List.isPrefixOf_iff_prefix,
    beq_iff_eq] at hkept ⊢
  refine .inr (.inl fun hl => ?_)
  rcases hkept with hoff | hself
  · exact hoff (hl.trans (List.prefix_append l [n]))
  · have hlength := hl.length_le
    rw [← hself, List.length_append, List.length_singleton] at hlength
    omega

theorem removeDirAll (h : t.Rooted) (p : Path) : (t.removeDirAll p).2.Rooted := by
  unfold FileTree.removeDirAll
  split
  · exact h
  · exact h
  · rename_i loc _
    split
    · exact h
    · exact h
    · split
      · exact h.eraseBelow loc
      · split
        · dsimp only
          split <;> exact h.eraseBelow loc
        · split
          · exact h.eraseBelow loc
          · exact h.erase loc

theorem createAlong (h : t.Rooted) (loc : Location) (cs : List Path.Component) :
    (t.createAlong loc cs).2.Rooted := by
  induction cs generalizing t loc with
  | nil => exact h
  | cons c cs ih =>
    cases c with
    | root | here | up => exact ih h _
    | name n =>
      simp only [FileTree.createAlong]
      split
      · exact h
      · rename_i hdir
        have hdir : t.find? loc = some .directory := by
          rw [← isDirectory_iff]
          simp_all
        split
        · exact ih h _
        · exact h
        · rename_i hnone
          exact ih (h.insert hdir (by simp [hnone]) .directory) _

theorem createDirAll (h : t.Rooted) (p : Path) : (t.createDirAll p).2.Rooted := by
  unfold FileTree.createDirAll
  split
  · exact h
  · split
    · exact h
    · split
      · have hmade := h.createAlong t.cwd p.components.dropLast
        split <;> rename_i heq <;> rw [heq] at hmade <;> exact hmade
      · exact h.createAlong t.cwd p.components

theorem wrote (h : t.Rooted) {content : String} (hwrote : Wrote t t' p content loc) :
    t'.Rooted := by
  obtain ⟨dir, name, rfl, hdir⟩ := exists_parent_of_locate hwrote.means hwrote.locate
  rw [hwrote.eq]
  exact h.insert hdir hwrote.free _

section Host

variable (r : Refusals)

theorem host_createDirAll (h : t.Rooted) (p : Path) :
    ((host r).createDirAll p t).2.Rooted := by
  simp only [host]
  split
  · exact h
  · exact h.createDirAll p

theorem host_removeDirAll (h : t.Rooted) (p : Path) :
    ((host r).removeDirAll p t).2.Rooted := by
  simp only [host]
  split
  · exact h
  · exact h.removeDirAll p

theorem host_write (h : t.Rooted) (p : Path) (content : String) :
    ((host r).write p content t).2.Rooted := by
  rcases write_cases r p content t with ⟨-, -, loc, hwrote⟩ | hfailed
  · exact h.wrote hwrote
  · rw [hfailed]
    exact h

end Host

/-! ## Ways that are open -/

/-- Where directories have been created along components, these can be followed, if they start at
a directory. -/
theorem follow_createAlong (h : t.Rooted) {cs : List Path.Component}
    (hcreated : (t.createAlong loc cs).1 = true)
    (hstart : (t.createAlong loc cs).2.find? loc = some .directory) :
    (t.createAlong loc cs).2.follow loc cs = .ok (loc.along cs) ∧
      (t.createAlong loc cs).2.find? (loc.along cs) = some .directory := by
  induction cs generalizing t loc with
  | nil => exact ⟨rfl, hstart⟩
  | cons c cs ih =>
    cases c with
    | root => exact ih h hcreated (find?_nil _)
    | here =>
      simp only [follow, hstart]
      exact ih h hcreated hstart
    | up =>
      have hup := (h.createAlong loc (.up :: cs)).dropLast hstart
      simp only [follow, hstart]
      exact ih h hcreated hup
    | name n =>
      exact FileTree.follow_createAlong (h.standing (directory_of_createAlong hcreated)) hcreated

/-- The way to a directory that has been created is open. -/
theorem follow_createDirAll (h : t.Rooted) (r : Refusals) {dir : Path}
    (hcreated : ((host r).createDirAll dir t).1 = true)
    (hstart : dir.isAbsolute = true ∨
      ((host r).createDirAll dir t).2.find? t.cwd = some .directory) :
    ∃ l, ((host r).createDirAll dir t).2.follow t.cwd dir.components = .ok l ∧
      ((host r).createDirAll dir t).2.find? l = some .directory := by
  have hbuilt := createDirAll_cases r dir t
  -- before a final `.` the directory has been looked up, else it was created name by name
  rcases createDirAll_of_true r hcreated with
    ⟨rfl, htree⟩ | ⟨hempty, husable, hlast, -, hthere⟩ | ⟨-, -, hmade⟩
  · rcases hstart with habs | hcwd
    · simp [Path.isAbsolute] at habs
    · exact ⟨t.cwd, rfl, hcwd⟩
  · obtain ⟨⟨l, e⟩, hget⟩ := Option.isSome_iff_exists.1 hthere
    obtain ⟨hlocate, hfind, hsuits⟩ := (get?_eq_some_iff _ dir l e).1 hget
    rcases hsuits with rfl | hmeans
    · refine ⟨l, ?_, hfind⟩
      rwa [locate, hempty, if_neg Bool.false_ne_true, if_pos husable, hbuilt.cwd] at hlocate
    · simp [meansDirectory, hlast] at hmeans
  · refine ⟨t.cwd.along dir.components, ?_⟩
    rcases hstart with habs | hcwd
    · obtain ⟨rest, hrest⟩ := (Path.isAbsolute_iff dir).1 habs
      obtain rfl : dir = ⟨'/' :: rest⟩ := by
        cases dir
        exact congrArg _ hrest
      have hfrom : t.createAlong t.cwd (⟨'/' :: rest⟩ : Path).components =
          t.createAlong [] (Path.innerComponents (Text.splitBy Path.isSlash rest)) := rfl
      rw [hfrom] at hmade
      have hway := h.follow_createAlong (congrArg Prod.fst hmade) (find?_nil _)
      rwa [hmade] at hway
    · have hway := h.follow_createAlong (congrArg Prod.fst hmade) (by rwa [hmade])
      rwa [hmade] at hway

end Rooted

/-! ## Created directories stay -/

/-- A path leads to a directory. The empty path means the working directory, though it cannot be
looked up. -/
def LeadsToDirectory (t : FileTree) (p : Path) : Prop :=
  ∃ loc, t.follow t.cwd p.components = .ok loc ∧ t.find? loc = some .directory ∧
    (p ≠ ⟨[]⟩ → t.get? p = some (loc, .directory))

theorem LeadsToDirectory.of_grown {t t' : FileTree} {p : Path} (h : t.LeadsToDirectory p)
    (hgrown : Grown t t') : t'.LeadsToDirectory p := by
  obtain ⟨loc, hfollow, hfind, hget⟩ := h
  refine ⟨loc, hgrown.cwd ▸ hgrown.follow hfollow, hgrown.directory loc hfind, fun hp => ?_⟩
  obtain ⟨hlocate, -, hsuits⟩ := (get?_eq_some_iff _ _ _ _).1 (hget hp)
  exact (get?_eq_some_iff _ _ _ _).2 ⟨hgrown.locate hlocate, hgrown.directory loc hfind, hsuits⟩

/-- A way starts somewhere: at the root, or in a working directory that is there. -/
def HasStart (t : FileTree) (p : Path) : Prop :=
  p.isAbsolute = true ∨ t.find? t.cwd = some .directory

theorem HasStart.of_grown {t t' : FileTree} {p : Path} (h : t.HasStart p) (hgrown : Grown t t') :
    t'.HasStart p :=
  h.imp_right fun hcwd => hgrown.cwd ▸ hgrown.directory _ hcwd

theorem leadsToDirectory_of_created {t : FileTree} (hrooted : t.Rooted) (r : Refusals) {p : Path}
    (hcreated : ((host r).createDirAll p t).1 = true)
    (hstart : ((host r).createDirAll p t).2.HasStart p) :
    ((host r).createDirAll p t).2.LeadsToDirectory p := by
  have hgrown := (createDirAll_cases r p t).grown
  rw [HasStart, hgrown.cwd] at hstart
  obtain ⟨loc, hfollow, hfind⟩ := hrooted.follow_createDirAll r hcreated hstart
  rw [← hgrown.cwd] at hfollow
  refine ⟨loc, hfollow, hfind, fun hp => ?_⟩
  have husable : isUsable p = true := by
    rcases createDirAll_of_true r hcreated with ⟨heq, -⟩ | ⟨-, husable, -⟩ | ⟨husable, -⟩
    · exact absurd heq hp
    · exact husable
    · exact husable
  have hlocate := locate_eq_ok_iff.2 ⟨hp, husable, hfollow⟩
  exact (get?_eq_some_iff _ _ _ _).2 ⟨hlocate, hfind, .inl rfl⟩

end Scaffold.FileTree

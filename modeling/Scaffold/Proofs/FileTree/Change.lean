import Mathlib
import Scaffold.Host.FileTree
import Scaffold.Proofs.Path.Components

/-!
# How operations change a file tree

Creating directories adds directories where nothing was, removing takes things away, and writing
puts one file at one place. That place is where the path's components lead by their text: links
there are none, so a path that can be followed leads nowhere else.
-/

namespace Scaffold

/-- Where components lead by their text. -/
def Location.along (loc : Location) : List Path.Component → Location
  | [] => loc
  | .root :: cs => along [] cs
  | .here :: cs => along loc cs
  | .up :: cs => along loc.dropLast cs
  | .name n :: cs => along (loc ++ [n]) cs

namespace FileTree

/-! ## Finding -/

@[simp] theorem find?_nil (t : FileTree) : t.find? [] = some .directory := rfl

theorem find?_of_ne_nil (t : FileTree) {loc : Location} (h : loc ≠ []) :
    t.find? loc = t.entries.lookup loc := by
  simp [find?, h]

theorem isDirectory_iff (t : FileTree) (loc : Location) :
    t.isDirectory loc = true ↔ t.find? loc = some .directory := by
  simp [isDirectory]

theorem lookup_insertEntry (loc l : Location) (e : FileEntry)
    (es : List (Location × FileEntry)) :
    (insertEntry loc e es).lookup l = if l = loc then some e else es.lookup l := by
  induction es with
  | nil =>
    by_cases hl : l = loc
    · simp [insertEntry, hl]
    · have hb : (l == loc) = false := beq_eq_false_iff_ne.mpr hl
      simp [insertEntry, List.lookup_cons, hb, hl]
  | cons entry es ih =>
    obtain ⟨k, old⟩ := entry
    rw [insertEntry]
    by_cases hl : l = k
    · subst hl
      by_cases hk : l = loc <;> simp [hk]
    · have hb : (l == k) = false := beq_eq_false_iff_ne.mpr hl
      by_cases hk : k = loc
      · subst hk
        simp [List.lookup_cons, hb, hl]
      · simp [hk, List.lookup_cons, hb, ih]

theorem lookup_filter (keep : Location → Bool) (l : Location)
    (es : List (Location × FileEntry)) :
    (es.filter fun (k, _) => keep k).lookup l = if keep l then es.lookup l else none := by
  induction es with
  | nil => simp
  | cons entry es ih =>
    obtain ⟨k, e⟩ := entry
    by_cases hl : l = k
    · subst hl
      cases hkeep : keep l <;> simp [hkeep, ih]
    · have hb : (l == k) = false := beq_eq_false_iff_ne.mpr hl
      cases hkeep : keep k <;> simp [hkeep, List.lookup_cons, hb, ih]

theorem find?_insert (t : FileTree) (loc : Location) (e : FileEntry) (l : Location) :
    (t.insert loc e).find? l = if l ≠ [] ∧ l = loc then some e else t.find? l := by
  by_cases hl : l = []
  · simp [hl]
  · rw [find?_of_ne_nil _ hl, find?_of_ne_nil _ hl, insert, lookup_insertEntry]
    simp [hl]

@[simp] theorem cwd_insert (t : FileTree) (loc : Location) (e : FileEntry) :
    (t.insert loc e).cwd = t.cwd := rfl

theorem find?_insert_self (t : FileTree) {loc : Location} (h : loc ≠ []) (e : FileEntry) :
    (t.insert loc e).find? loc = some e := by
  simp [find?_insert, h]

theorem find?_insert_of_ne (t : FileTree) {loc l : Location} (h : l ≠ loc) (e : FileEntry) :
    (t.insert loc e).find? l = t.find? l := by
  simp [find?_insert, h]

theorem find?_eraseWhere (t : FileTree) (keep : Location → Bool) (l : Location) :
    ({ t with entries := t.entries.filter fun (k, _) => keep k } : FileTree).find? l =
      if l = [] ∨ keep l then t.find? l else none := by
  by_cases hl : l = []
  · simp [hl]
  · rw [find?_of_ne_nil _ hl, find?_of_ne_nil _ hl, lookup_filter]
    simp [hl]

/-! ## Following -/

/-- A component leads on: to the root anyway, else out of a directory to a possible name. -/
def Passable (t : FileTree) (loc : Location) (c : Path.Component) : Prop :=
  c = .root ∨ (t.find? loc = some .directory ∧ ∀ n, c = .name n → isName n = true)

theorem Passable.follow {t : FileTree} {loc : Location} {c : Path.Component}
    (h : Passable t loc c) (cs : List Path.Component) :
    t.follow loc (c :: cs) = t.follow (loc.along [c]) cs := by
  rcases h with rfl | ⟨hdir, hname⟩
  · rfl
  · cases c with
    | root => rfl
    | here | up => simp [FileTree.follow, hdir, Location.along]
    | name n => simp [FileTree.follow, hdir, hname n rfl, Location.along]

theorem passable_of_follow {t : FileTree} {loc l : Location} {c : Path.Component}
    {cs : List Path.Component} (h : t.follow loc (c :: cs) = .ok l) : Passable t loc c := by
  have hdir : c ≠ .root → t.find? loc = some .directory := by
    intro hroot
    cases hfind : t.find? loc with
    | none => cases c <;> simp_all [FileTree.follow]
    | some e =>
      cases e with
      | file content => cases c <;> simp_all [FileTree.follow]
      | directory => rfl
  by_cases hroot : c = .root
  · exact .inl hroot
  · refine .inr ⟨hdir hroot, ?_⟩
    rintro n rfl
    by_contra hname
    simp [FileTree.follow, hdir hroot, hname] at h

theorem along_cons (loc : Location) (c : Path.Component) (cs : List Path.Component) :
    loc.along (c :: cs) = (loc.along [c]).along cs := by
  cases c <;> rfl

theorem along_concat_name (loc : Location) (cs : List Path.Component) (n : List Char) :
    loc.along (cs ++ [.name n]) = loc.along cs ++ [n] := by
  induction cs generalizing loc with
  | nil => rfl
  | cons c cs ih =>
    rw [List.cons_append, along_cons, along_cons loc c cs]
    exact ih _

theorem along_append_names (loc : Location) (cs : List Path.Component)
    (names : List (List Char)) : loc.along (cs ++ names.map .name) = loc.along cs ++ names := by
  induction names generalizing cs with
  | nil => simp
  | cons n names ih =>
    have hrest := ih (cs ++ [.name n])
    rw [along_concat_name, List.append_assoc, List.append_assoc] at hrest
    exact hrest

theorem follow_eq_along {t : FileTree} {loc l : Location} {cs : List Path.Component}
    (h : t.follow loc cs = .ok l) : l = loc.along cs := by
  induction cs generalizing loc with
  | nil => simpa [follow, Location.along] using h.symm
  | cons c cs ih =>
    rw [(passable_of_follow h).follow] at h
    rw [along_cons]
    exact ih h

/-- A way that leads somewhere can be gone on from there. -/
theorem follow_append {t : FileTree} {loc l : Location} {cs : List Path.Component}
    (h : t.follow loc cs = .ok l) (ds : List Path.Component) :
    t.follow loc (cs ++ ds) = t.follow l ds := by
  induction cs generalizing loc with
  | nil =>
    obtain rfl : loc = l := by simpa only [follow, Except.ok.injEq] using h
    rfl
  | cons c cs ih =>
    have hpass := passable_of_follow h
    rw [hpass.follow] at h
    rw [List.cons_append, hpass.follow]
    exact ih h

/-- What comes first on a way leads somewhere too. -/
theorem exists_follow_of_append {t : FileTree} {loc l : Location}
    {cs ds : List Path.Component} (h : t.follow loc (cs ++ ds) = .ok l) :
    ∃ mid, t.follow loc cs = .ok mid ∧ t.follow mid ds = .ok l := by
  induction cs generalizing loc with
  | nil => exact ⟨loc, rfl, h⟩
  | cons c cs ih =>
    rw [List.cons_append] at h
    have hpass := passable_of_follow h
    rw [hpass.follow] at h ⊢
    exact ih h

/-- Where a path leads by its text, seen from the working directory. -/
def destination (t : FileTree) (p : Path) : Location :=
  t.cwd.along p.components

/-- Where a path leads is settled by the working directory. -/
theorem destination_of_cwd {t t' : FileTree} (h : t'.cwd = t.cwd) (p : Path) :
    t'.destination p = t.destination p := by
  rw [destination, h, destination]

/-- A path that is not empty and holds only names that can be used leads where its components
lead. -/
theorem locate_eq_ok_iff {t : FileTree} {p : Path} {loc : Location} :
    t.locate p = .ok loc ↔
      p ≠ ⟨[]⟩ ∧ isUsable p = true ∧ t.follow t.cwd p.components = .ok loc := by
  rw [locate, ne_eq, ← Path.isEmpty_iff]
  cases p.isEmpty <;> cases isUsable p <;> simp

theorem locate_eq_destination {t : FileTree} {p : Path} {loc : Location}
    (h : t.locate p = .ok loc) : loc = t.destination p :=
  follow_eq_along (locate_eq_ok_iff.1 h).2.2

/-- A path is found where it led before the tree was changed. -/
theorem destination_of_locate {t t' : FileTree} {p : Path} {loc : Location}
    (hcwd : t'.cwd = t.cwd) (h : t'.locate p = .ok loc) : t.destination p = loc := by
  rw [locate_eq_destination h, destination_of_cwd hcwd]

/-- Whether a path that means a directory may lead to an entry. -/
def Suits (p : Path) (e : FileEntry) : Prop :=
  e = .directory ∨ meansDirectory p = false

theorem get?_eq_some_iff (t : FileTree) (p : Path) (loc : Location) (e : FileEntry) :
    t.get? p = some (loc, e) ↔ t.locate p = .ok loc ∧ t.find? loc = some e ∧ Suits p e := by
  unfold get? Suits
  cases t.locate p with
  | error err => simp
  | ok l =>
    dsimp only
    constructor
    · intro h
      split at h
      · simp_all
      · split at h <;> simp_all
      · simp at h
    · rintro ⟨hl, hfind, hsuits⟩
      obtain rfl : l = loc := by simpa using hl
      rw [hfind]
      cases e with
      | directory => rfl
      | file content => simp_all

theorem pathExists_iff (t : FileTree) (p : Path) :
    t.pathExists p = true ↔ ∃ loc e, t.locate p = .ok loc ∧ t.find? loc = some e ∧ Suits p e := by
  simp only [pathExists, Option.isSome_iff_exists, Prod.exists, get?_eq_some_iff]

/-! ## Changes -/

/-- Directories were created where nothing was. -/
structure Built (t t' : FileTree) : Prop where
  cwd : t'.cwd = t.cwd
  find? : ∀ loc, t'.find? loc = t.find? loc ∨
    (t.find? loc = none ∧ t'.find? loc = some .directory)

namespace Built

variable {t t' t'' : FileTree}

theorem refl (t : FileTree) : Built t t :=
  ⟨rfl, fun _ => .inl rfl⟩

theorem trans (h : Built t t') (h' : Built t' t'') : Built t t'' := by
  refine ⟨h'.cwd.trans h.cwd, fun loc => ?_⟩
  rcases h.find? loc with heq | ⟨hnone, hdir⟩
  · rcases h'.find? loc with heq' | ⟨hnone', hdir'⟩
    · exact .inl (heq'.trans heq)
    · exact .inr ⟨heq ▸ hnone', hdir'⟩
  · rcases h'.find? loc with heq' | ⟨hnone', -⟩
    · exact .inr ⟨hnone, heq'.trans hdir⟩
    · rw [hdir] at hnone'
      simp at hnone'

/-- What was there before is there still. -/
theorem find?_of_some (h : Built t t') {loc : Location} {e : FileEntry}
    (he : t.find? loc = some e) : t'.find? loc = some e := by
  rcases h.find? loc with heq | ⟨hnone, -⟩
  · exact heq.trans he
  · rw [he] at hnone
    simp at hnone

/-- Files are never new. -/
theorem find?_of_file (h : Built t t') {loc : Location} {content : String}
    (hfile : t'.find? loc = some (.file content)) : t.find? loc = some (.file content) := by
  rcases h.find? loc with heq | ⟨-, hdir⟩
  · exact heq ▸ hfile
  · rw [hdir] at hfile
    simp at hfile

end Built

theorem built_insert_directory {t : FileTree} {loc : Location} (h : t.find? loc = none) :
    Built t (t.insert loc .directory) := by
  refine ⟨rfl, fun l => ?_⟩
  rw [find?_insert]
  split
  · rename_i hand
    exact .inr ⟨hand.2 ▸ h, rfl⟩
  · exact .inl rfl

theorem createAlong_built (t : FileTree) (loc : Location) (cs : List Path.Component) :
    Built t (t.createAlong loc cs).2 := by
  induction cs generalizing t loc with
  | nil => exact .refl t
  | cons c cs ih =>
    cases c with
    | root | here | up => exact ih t _
    | name n =>
      simp only [createAlong]
      split
      · exact .refl t
      · split
        · exact ih t _
        · exact .refl t
        · rename_i hnone
          exact (built_insert_directory hnone).trans (ih _ _)

/-- Nothing is created under a name but in a directory. -/
theorem directory_of_createAlong {t : FileTree} {loc : Location} {n : List Char}
    {cs : List Path.Component} (hcreated : (t.createAlong loc (.name n :: cs)).1 = true) :
    t.find? loc = some .directory := by
  rw [← isDirectory_iff]
  by_contra hnot
  rw [Bool.not_eq_true] at hnot
  simp [createAlong, hnot] at hcreated

theorem createDirAll_built (t : FileTree) (p : Path) : Built t (t.createDirAll p).2 := by
  unfold createDirAll
  split
  · exact .refl t
  · split
    · exact .refl t
    · split
      · have hbuilt := createAlong_built t t.cwd p.components.dropLast
        split <;> rename_i heq <;> rw [heq] at hbuilt <;> exact hbuilt
      · exact createAlong_built t t.cwd p.components

/-- Things were taken away. -/
structure Pruned (t t' : FileTree) : Prop where
  cwd : t'.cwd = t.cwd
  find? : ∀ loc, t'.find? loc = t.find? loc ∨ t'.find? loc = none

theorem pruned_eraseWhere (t : FileTree) (keep : Location → Bool) :
    Pruned t { t with entries := t.entries.filter fun (k, _) => keep k } := by
  refine ⟨rfl, fun loc => ?_⟩
  rw [find?_eraseWhere]
  split
  · exact .inl rfl
  · exact .inr rfl

theorem erase_pruned (t : FileTree) (loc : Location) : Pruned t (t.erase loc) :=
  pruned_eraseWhere t fun l => !(loc.isPrefixOf l)

theorem eraseBelow_pruned (t : FileTree) (loc : Location) : Pruned t (t.eraseBelow loc) :=
  pruned_eraseWhere t fun l => !(loc.isPrefixOf l) || l == loc

theorem removeDirAll_pruned (t : FileTree) (p : Path) : Pruned t (t.removeDirAll p).2 := by
  have hself : Pruned t t := ⟨rfl, fun _ => .inl rfl⟩
  unfold removeDirAll
  split
  · exact hself
  · exact hself
  · rename_i loc _
    split
    · exact hself
    · exact hself
    · split
      · exact eraseBelow_pruned t loc
      · split
        · dsimp only
          split <;> exact eraseBelow_pruned t loc
        · split
          · exact eraseBelow_pruned t loc
          · exact erase_pruned t loc

/-- Writing puts a file at the place that the path leads to, unless a directory is there. -/
theorem write_eq_some_iff (t t' : FileTree) (p : Path) (content : String) :
    t.write p content = some t' ↔
      meansDirectory p = false ∧ ∃ loc, t.locate p = .ok loc ∧
        t.find? loc ≠ some .directory ∧ t' = t.insert loc (.file content) := by
  unfold write
  cases hmeans : meansDirectory p with
  | true => simp
  | false =>
    cases t.locate p with
    | error e => simp
    | ok loc =>
      by_cases hdir : t.find? loc = some .directory
      · simp [isDirectory, hdir]
      · have hnot : t.isDirectory loc = false := by simp [isDirectory, hdir]
        simp only [hnot, Bool.false_eq_true, if_false, Option.some.injEq]
        constructor
        · intro h
          exact ⟨trivial, loc, rfl, hdir, h.symm⟩
        · rintro ⟨-, l, hl, -, rfl⟩
          obtain rfl : loc = l := by simpa using hl
          rfl

end FileTree

end Scaffold

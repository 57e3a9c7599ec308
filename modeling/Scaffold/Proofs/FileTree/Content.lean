import Mathlib
import Scaffold.Proofs.FileTree.Put

/-!
# Contents of files

Seen by its files alone, a tree is a map from locations to contents. Creating directories leaves
this map as it is, and writing changes it in one place.
-/

namespace Scaffold.FileTree

variable {t t' : FileTree} {loc : Location}

def fileAt? (t : FileTree) (loc : Location) : Option String :=
  match t.find? loc with
  | some (.file content) => some content
  | _ => none

theorem fileAt?_eq_some_iff {content : String} :
    t.fileAt? loc = some content ↔ t.find? loc = some (.file content) := by
  unfold fileAt?
  split <;> simp_all

theorem fileAt?_of_find? {t t' : FileTree} {loc : Location} (h : t'.find? loc = t.find? loc) :
    t'.fileAt? loc = t.fileAt? loc := by
  rw [fileAt?, h, fileAt?]

theorem fileAt?_of_file {content : String} (h : t.find? loc = some (.file content)) :
    t.fileAt? loc = some content :=
  fileAt?_eq_some_iff.2 h

@[simp] theorem fileAt?_of_directory (h : t.find? loc = some .directory) :
    t.fileAt? loc = none := by
  rw [fileAt?, h]

@[simp] theorem fileAt?_of_none (h : t.find? loc = none) : t.fileAt? loc = none := by
  rw [fileAt?, h]

theorem find?_eq_map_fileAt? (h : t.find? loc ≠ some .directory) :
    t.find? loc = (t.fileAt? loc).map .file := by
  cases hfind : t.find? loc with
  | none => rw [fileAt?_of_none hfind, Option.map_none]
  | some e =>
    cases e with
    | file content => rw [fileAt?_of_file hfind, Option.map_some]
    | directory => exact absurd hfind h

theorem fileAt?_of_map {o : Option String} (h : t.find? loc = o.map .file) : t.fileAt? loc = o := by
  cases o with
  | none => exact fileAt?_of_none h
  | some content => exact fileAt?_of_file h

theorem Built.fileAt? (h : Built t t') (loc : Location) : t'.fileAt? loc = t.fileAt? loc := by
  rcases h.find? loc with heq | ⟨hnone, hdir⟩
  · exact fileAt?_of_find? heq
  · rw [fileAt?_of_directory hdir, fileAt?_of_none hnone]

theorem Wrote.fileAt?_self {p : Path} {content : String} (h : Wrote t t' p content loc) :
    t'.fileAt? loc = some content :=
  fileAt?_of_file h.find?_self

theorem Wrote.fileAt?_of_ne {p : Path} {content : String} {l : Location}
    (h : Wrote t t' p content l) (hne : loc ≠ l) : t'.fileAt? loc = t.fileAt? loc :=
  fileAt?_of_find? (h.find?_of_ne hne)

/-- Removing a directory touches only what lies in it. -/
theorem removeDirAll_spares {p : Path} (h : ¬ t.destination p <+: loc) :
    (t.removeDirAll p).2.find? loc = t.find? loc := by
  have hoff : ∀ l, t.locate p = .ok l → l.isPrefixOf loc = false := by
    intro l hl
    rw [locate_eq_destination hl]
    simpa [← List.isPrefixOf_iff_prefix] using h
  have herased : ∀ l, t.locate p = .ok l → (t.erase l).find? loc = t.find? loc := by
    intro l hl
    have hkeep := find?_eraseWhere t (fun k => !(l.isPrefixOf k)) loc
    rwa [if_pos (.inr (by simp [hoff l hl]))] at hkeep
  have hbelow : ∀ l, t.locate p = .ok l → (t.eraseBelow l).find? loc = t.find? loc := by
    intro l hl
    have hkeep := find?_eraseWhere t (fun k => !(l.isPrefixOf k) || k == l) loc
    rwa [if_pos (.inr (by simp [hoff l hl]))] at hkeep
  unfold removeDirAll
  split
  · rfl
  · rfl
  · rename_i l hl
    split
    · rfl
    · rfl
    · split
      · exact hbelow l hl
      · split
        · dsimp only
          split <;> exact hbelow l hl
        · split
          · exact hbelow l hl
          · exact herased l hl

end Scaffold.FileTree

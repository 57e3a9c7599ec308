import Mathlib
import Scaffold.Proofs.FileTree.Change
import Scaffold.Proofs.Host.Disk
import Scaffold.Proofs.Host.Put

/-!
# Putting files into a tree

Putting a file first creates directories. Then either nothing more happens, or the file is
written, where nothing was or where it may be overwritten.
-/

namespace Scaffold

open Host (refused)
open WriteDirective (target overwrites)

/-- Without overwriting, only a marker can ask for it. -/
theorem WriteDirective.overwrites_false_iff (directive : Option WriteDirective) :
    overwrites directive false = true ↔ directive = some .overwrite := by
  cases directive with
  | none => simp [overwrites]
  | some d => cases d <;> simp [overwrites]

namespace FileTree

variable (r : Refusals)

theorem silent : (host r).Silent := fun _ => rfl

/-- A file was written to the place that a path leads to. -/
structure Wrote (t t' : FileTree) (p : Path) (content : String) (loc : Location) : Prop where
  means : meansDirectory p = false
  locate : t.locate p = .ok loc
  free : t.find? loc ≠ some .directory
  eq : t' = t.insert loc (.file content)

namespace Wrote

variable {t t' : FileTree} {p : Path} {content : String} {loc : Location}

theorem ne_nil (h : Wrote t t' p content loc) : loc ≠ [] := by
  rintro rfl
  exact h.free (find?_nil t)

theorem find?_self (h : Wrote t t' p content loc) : t'.find? loc = some (.file content) := by
  rw [h.eq, find?_insert_self t h.ne_nil]

theorem find?_of_ne (h : Wrote t t' p content loc) {l : Location} (hl : l ≠ loc) :
    t'.find? l = t.find? l := by
  rw [h.eq, find?_insert_of_ne t hl]

theorem cwd (h : Wrote t t' p content loc) : t'.cwd = t.cwd := by
  rw [h.eq, cwd_insert]

end Wrote

/-- A write succeeds and puts the file in its place, or fails and changes nothing. -/
theorem write_cases (p : Path) (content : String) (t : FileTree) :
    (((host r).write p content t).1 = true ∧ refused r.write p = false ∧
      ∃ loc, Wrote t ((host r).write p content t).2 p content loc) ∨
    (host r).write p content t = (false, t) := by
  simp only [host]
  cases refused r.write p with
  | true => exact .inr rfl
  | false =>
    simp only [Bool.false_eq_true, if_false, Workspace.writeFile]
    cases hwrite : t.write p content with
    | none => exact .inr rfl
    | some t' =>
      obtain ⟨hmeans, loc, hlocate, hfree, heq⟩ := (write_eq_some_iff t t' p content).1 hwrite
      exact .inl ⟨rfl, trivial, loc, hmeans, hlocate, hfree, heq⟩

theorem host_removeDirAll_pruned (p : Path) (t : FileTree) :
    Pruned t ((host r).removeDirAll p t).2 := by
  simp only [host]
  split
  · exact ⟨rfl, fun _ => .inl rfl⟩
  · exact removeDirAll_pruned t p

theorem createDirAll_cases (p : Path) (t : FileTree) :
    Built t ((host r).createDirAll p t).2 := by
  simp only [host]
  split
  · exact .refl t
  · exact createDirAll_built t p

/-- A directory that has been created has been created along the components of its path; before a
final `.` it has to be there then. -/
theorem createDirAll_of_true {p : Path} {t : FileTree}
    (hcreated : ((host r).createDirAll p t).1 = true) :
    let t' := ((host r).createDirAll p t).2
    (p = ⟨[]⟩ ∧ t' = t) ∨
    (p.isEmpty = false ∧ isUsable p = true ∧ lastSegment p = ['.'] ∧
      t.createAlong t.cwd p.components.dropLast = (true, t') ∧ (t'.get? p).isSome = true) ∨
    (isUsable p = true ∧ lastSegment p ≠ ['.'] ∧
      t.createAlong t.cwd p.components = (true, t')) := by
  simp only [host] at hcreated ⊢
  cases hrefused : refused r.createDirAll p with
  | true => simp [hrefused] at hcreated
  | false =>
    simp only [hrefused, Bool.false_eq_true, if_false, createDirAll] at hcreated ⊢
    cases hempty : p.isEmpty with
    | true => exact .inl ⟨Path.isEmpty_iff.1 hempty, rfl⟩
    | false =>
      right
      simp only [hempty, Bool.false_eq_true, if_false] at hcreated ⊢
      cases husable : isUsable p with
      | false => simp [husable] at hcreated
      | true =>
        simp only [husable, Bool.not_true, Bool.false_eq_true, if_false] at hcreated ⊢
        by_cases hlast : lastSegment p = ['.']
        · simp only [hlast, if_true] at hcreated ⊢
          generalize t.createAlong t.cwd p.components.dropLast = created at hcreated ⊢
          obtain ⟨made, t'⟩ := created
          cases made with
          | false => simp at hcreated
          | true => exact .inl ⟨trivial, trivial, trivial, rfl, hcreated⟩
        · simp only [hlast, if_false] at hcreated ⊢
          exact .inr ⟨trivial, hlast, Prod.ext hcreated rfl⟩

theorem ensureParent_built (p : Path) (t : FileTree) :
    Built t ((host r).ensureParent p t).2 := by
  rcases (host r).ensureParent_cases p with h | ⟨dir, -, -, h⟩
  · rw [h]
    exact .refl t
  · rw [h]
    exact createDirAll_cases r dir t

/-- What comes of a file that is written whatever is there. -/
theorem writeTarget_cases (p : Path) (content : String) (t : FileTree) :
    (((host r).writeTarget p content t).1 = some (.written p) ∧
      ∃ loc, Wrote t ((host r).writeTarget p content t).2 p content loc) ∨
    (host r).writeTarget p content t = (none, t) := by
  rw [(silent r).writeTarget]
  rcases write_cases r p content t with ⟨hok, -, loc, hwrote⟩ | hfailed
  · exact .inl ⟨by simp [hok], loc, hwrote⟩
  · exact .inr (by simp [hfailed])

theorem writeTarget_apply (p : Path) (content : String) (t : FileTree) :
    (host r).writeTarget p content t =
      (if ((host r).write p content t).1 then some (.written p) else none,
        ((host r).write p content t).2) := by
  rw [(silent r).writeTarget]
  rfl

/-- What comes of a file for which everything is prepared. -/
theorem writeOutput_apply (overwrite : Bool) (path : Path) (content : String) (t : FileTree) :
    (host r).writeOutput overwrite path content t =
      if overwrites (WriteDirective.first? path.chars) overwrite = false ∧
          t.pathExists (target path) = true then (some (.keptExisting (target path)), t)
      else (host r).writeTarget (target path) content t :=
  (silent r).writeOutput_apply (fun _ _ => rfl) overwrite path content t

theorem find?_eq_none_of_not_pathExists {t t' : FileTree} {p : Path} {content : String}
    {loc : Location} (hwrote : Wrote t t' p content loc) (hfound : t.pathExists p = false) :
    t.find? loc = none := by
  cases hfind : t.find? loc with
  | none => rfl
  | some e =>
    have : t.pathExists p = true :=
      (pathExists_iff t p).2 ⟨loc, e, hwrote.locate, hfind, .inr hwrote.means⟩
    simp [hfound] at this

/-- What comes of a file that is put: directories are built, and nothing is written, or the file
is, where nothing was unless it is to be overwritten. -/
theorem put_cases (overwrite : Bool) (path : Path) (content : String) (t : FileTree) :
    ∃ t', Built t t' ∧
      ((((host r).put overwrite path content t).2 = t' ∧
          (((host r).put overwrite path content t).1 = none ∨
            ((host r).put overwrite path content t).1 = some (.keptExisting (target path)))) ∨
        (((host r).put overwrite path content t).1 = some (.written (target path)) ∧
          ∃ loc, Wrote t' ((host r).put overwrite path content t).2 (target path) content loc ∧
            (overwrites (WriteDirective.first? path.chars) overwrite = true ∨
              t'.find? loc = none))) := by
  refine ⟨_, ensureParent_built r path t, ?_⟩
  simp only [Host.put, stateM_bind]
  set t' := ((host r).ensureParent path t).2
  cases ((host r).ensureParent path t).1 with
  | false => exact .inl ⟨rfl, .inl rfl⟩
  | true =>
    rw [if_pos rfl, writeOutput_apply]
    split
    · exact .inl ⟨rfl, .inr rfl⟩
    · rename_i hfree
      rcases writeTarget_cases r (target path) content t' with ⟨hok, loc, hwrote⟩ | hfailed
      · refine .inr ⟨hok, loc, hwrote, ?_⟩
        cases hover : overwrites (WriteDirective.first? path.chars) overwrite with
        | true => exact .inl rfl
        | false =>
          refine .inr (find?_eq_none_of_not_pathExists hwrote ?_)
          simpa [hover] using hfree
      · exact .inl ⟨congrArg Prod.snd hfailed, .inl (congrArg Prod.fst hfailed)⟩

end FileTree

end Scaffold

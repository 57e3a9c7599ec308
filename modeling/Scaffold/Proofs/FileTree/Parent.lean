import Mathlib
import Scaffold.Proofs.FileTree.Rooted

/-!
# Where the directory of a file is there

A file can only be written into a directory that is there. It is there if the file is, and it is
there once it has been created, wherever the way to it starts.
-/

namespace Scaffold

open WriteDirective (target)

namespace FileTree

variable {t : FileTree} {p q dir : Path}

/-- The directory that a path's file is to lie in is there. -/
def HoldsParent (t : FileTree) (p : Path) : Prop :=
  ∀ dir, p.parent? = some dir → t.LeadsToDirectory dir

theorem isUsable_of_isPrefix (h : q.chars <+: p.chars) (husable : isUsable p = true) :
    isUsable q = true := by
  obtain ⟨rest, hrest⟩ := h
  simp only [isUsable, Path.text, ← hrest, Bool.and_eq_true, Bool.not_eq_true',
    decide_eq_true_eq] at husable ⊢
  obtain ⟨hnone, hsize⟩ := husable
  constructor
  · simp only [List.contains_eq_mem, List.mem_append, decide_eq_false_iff_not] at hnone ⊢
    exact fun hmem => hnone (.inl hmem)
  · rw [String.ofList_append, String.utf8ByteSize_append] at hsize
    exact decide_eq_true (by omega)

theorem leadsToDirectory_iff :
    t.LeadsToDirectory p ↔ (p = ⟨[]⟩ ∨ isUsable p = true) ∧
      ∃ loc, t.follow t.cwd p.components = .ok loc ∧ t.find? loc = some .directory := by
  constructor
  · rintro ⟨loc, hfollow, hfind, hget⟩
    refine ⟨?_, loc, hfollow, hfind⟩
    by_cases hp : p = ⟨[]⟩
    · exact .inl hp
    · obtain ⟨hlocate, -⟩ := (get?_eq_some_iff t p loc _).1 (hget hp)
      exact .inr (locate_eq_ok_iff.1 hlocate).2.1
  · rintro ⟨husable, loc, hfollow, hfind⟩
    refine ⟨loc, hfollow, hfind, fun hp => ?_⟩
    have hlocate := locate_eq_ok_iff.2 ⟨hp, husable.resolve_left hp, hfollow⟩
    exact (get?_eq_some_iff t p loc _).2 ⟨hlocate, hfind, .inl rfl⟩

/-- What a path leads to, its beginning leads to if that means the same. -/
theorem LeadsToDirectory.of_isPrefix (h : t.LeadsToDirectory p) (hfront : q.chars <+: p.chars)
    (hsame : q.components = p.components) : t.LeadsToDirectory q := by
  rw [leadsToDirectory_iff] at h ⊢
  obtain ⟨husable, hway⟩ := h
  refine ⟨?_, hsame ▸ hway⟩
  rcases husable with rfl | husable
  · left
    cases q
    exact congrArg _ (List.prefix_nil.1 hfront)
  · exact .inr (isUsable_of_isPrefix hfront husable)

theorem LeadsToDirectory.hasStart (h : t.LeadsToDirectory p) : t.HasStart p := by
  obtain ⟨-, loc, hfollow, hfind⟩ := leadsToDirectory_iff.1 h
  cases hrel : p.isAbsolute with
  | true => exact .inl hrel
  | false =>
    right
    by_cases hne : p.chars = []
    · obtain rfl : p = ⟨[]⟩ := by
        cases p
        exact congrArg _ hne
      obtain rfl : t.cwd = loc := by simpa only [follow, Except.ok.injEq] using
        (show t.follow t.cwd [] = .ok loc from hfollow)
      exact hfind
    · obtain ⟨c, cs, hcomponents, hroot⟩ := Path.exists_component_of_relative hne hrel
      rw [hcomponents] at hfollow
      exact ((passable_of_follow hfollow).resolve_left hroot).1

/-- What is there lies in a directory that is there. -/
theorem HoldsParent.of_pathExists (h : t.pathExists p = true) : t.HoldsParent p := by
  intro dir hparent
  obtain ⟨hfront, last, hroot, hcomponents⟩ := Path.components_of_parent? hparent
  obtain ⟨loc, e, hlocate, -⟩ := (pathExists_iff t p).1 h
  obtain ⟨-, husable, hfollow⟩ := locate_eq_ok_iff.1 hlocate
  rw [hcomponents] at hfollow
  obtain ⟨mid, hmid, hlast⟩ := exists_follow_of_append hfollow
  have hdir := ((passable_of_follow hlast).resolve_left hroot).1
  exact leadsToDirectory_iff.2 ⟨.inr (isUsable_of_isPrefix hfront husable), mid, hmid, hdir⟩

/-- Writing makes no directory. -/
theorem HasStart.of_write {r : Refusals} {content : String}
    (h : ((host r).write q content t).2.HasStart p) : t.HasStart p := by
  rcases write_cases r q content t with ⟨-, -, loc, hwrote⟩ | hfailed
  · refine h.imp_right fun hcwd => ?_
    rw [hwrote.cwd] at hcwd
    have hne : t.cwd ≠ loc := by
      intro heq
      rw [heq, hwrote.find?_self] at hcwd
      cases hcwd
    rwa [hwrote.find?_of_ne hne] at hcwd
  · rwa [hfailed] at h

/-- The directory of a file is there when it has been seen to. -/
theorem leadsToDirectory_of_ensured (h : t.Rooted) (r : Refusals) {path : Path}
    (hensured : ((host r).ensureParent path t).1 = true)
    (hparent : (target path).parent? = some dir)
    (hstart : ((host r).ensureParent path t).2.HasStart dir) :
    ((host r).ensureParent path t).2.LeadsToDirectory dir := by
  rw [Host.ensureParent_of_parent hparent] at hensured hstart ⊢
  cases hempty : dir.isEmpty with
  | true =>
    obtain rfl := Path.isEmpty_iff.1 hempty
    have hcwd : t.find? t.cwd = some .directory := by
      simpa [HasStart, Path.isAbsolute, hempty] using hstart
    exact leadsToDirectory_iff.2 ⟨.inl rfl, t.cwd, rfl, hcwd⟩
  | false =>
    rw [hempty, if_neg Bool.false_ne_true] at hensured hstart
    simpa using leadsToDirectory_of_created h r hensured hstart

end FileTree

end Scaffold

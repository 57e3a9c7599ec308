import Mathlib
import Scaffold.Proofs.FileTree.Fresh

/-!
# The directory that is seen to

For a file, the parent of the path that is meant is created. The parent of the path as it is
written is the same, or it lies above, or it has fewer markers in its names. In the last two cases
it is not created, so it is there only if it was before. A directory that is there stays while
others below it are removed and created anew.
-/

namespace Scaffold

open Scaffold.Path (Component)
open WriteDirective (target first? withoutMarkers)

namespace Path

variable {front name : List Char} {p dir : Path}

/-- Only the empty path has no component. -/
theorem components_ne_nil (h : p ≠ ⟨[]⟩) : p.components ≠ [] := by
  intro hnil
  cases hrel : p.isAbsolute with
  | true =>
    have hhead := (head?_components_iff p).2 hrel
    rw [hnil] at hhead
    cases hhead
  | false =>
    obtain ⟨c, rest, hcomponents, -⟩ := exists_component_of_relative (chars_ne_nil h) hrel
    rw [hnil] at hcomponents
    cases hcomponents

/-- Behind a slash nothing is cut off by more than the name. -/
theorem isPrefix_of_parent?_append (hslash : ∀ c ∈ name, isSlash c = false)
    (h : (⟨front ++ name⟩ : Path).parent? = some dir) : dir.chars <+: front := by
  have hsuffix := trimReversed_suffix (front ++ name).reverse
  unfold parent? at h
  generalize trimReversed (front ++ name).reverse = cs at h hsuffix
  split at h
  · cases h
  · cases h
  · obtain rfl := Option.some.inj h
    rw [← List.reverse_suffix, List.reverse_reverse]
    refine (trimReversed_suffix _).trans ?_
    rw [List.reverse_append] at hsuffix
    -- The trimmed text ends in front of the name, or what is left of the name has no slash.
    rcases List.suffix_or_suffix_of_suffix hsuffix (List.suffix_append _ _) with hbefore | hbehind
    · exact (List.dropWhile_suffix _).trans hbefore
    · obtain ⟨rest, rfl⟩ := hbehind
      obtain ⟨cut, hcut⟩ := hsuffix
      rw [← List.append_assoc] at hcut
      have hname : cut ++ rest = name.reverse := List.append_cancel_right hcut
      have hrest : ∀ c ∈ rest, (!isSlash c) = true := by
        intro c hc
        have hmem : c ∈ name.reverse := hname ▸ List.mem_append_right cut hc
        simp [hslash c (List.mem_reverse.1 hmem)]
      rw [List.dropWhile_append_of_pos hrest]
      exact List.dropWhile_suffix _

/-- What a name has lost its markers to leads into the same directory, or to that itself. -/
theorem parent?_append_cases (hfront : IsLead front) (hslash : ∀ c ∈ name, isSlash c = false)
    (h : (⟨front ++ name⟩ : Path).parent? = some dir) :
    dir = (⟨front⟩ : Path).trimmed ∨
      ∃ last, last ≠ .root ∧ (⟨front⟩ : Path).components = dir.components ++ [last] := by
  by_cases hnone : name = [] ∨ name = ['.'] ∧ front ≠ []
  · right
    have hsame : (⟨front ++ name⟩ : Path).components = (⟨front⟩ : Path).components := by
      rcases hnone with rfl | ⟨rfl, hne⟩
      · rw [List.append_nil]
      · rw [components_append (hfront.resolve_left hne)]
        exact List.append_nil _
    obtain ⟨-, last, hroot, hcomponents⟩ := components_of_parent? h
    exact ⟨last, hroot, hsame ▸ hcomponents⟩
  · left
    rw [not_or, not_and_or, not_not] at hnone
    obtain ⟨hne, hhere⟩ := hnone
    rcases hhere with hhere | rfl
    · rw [parent?_append_segment hfront hne hhere hslash] at h
      exact (Option.some.inj h).symm
    · by_cases hdot : name = ['.']
      · subst hdot
        exact (Option.some.inj h).symm
      · rw [parent?_append_segment hfront hne hdot hslash] at h
        exact (Option.some.inj h).symm

theorem count_trimmed {c : Char} (hslash : c ≠ '/') (hdot : c ≠ '.') (p : Path) :
    p.trimmed.chars.count c = p.chars.count c := by
  rw [← count_names_components hslash hdot, components_trimmed,
    count_names_components hslash hdot]

end Path

namespace FileTree

variable {t t' : FileTree} {r : Refusals} {p q dir other : Path}

/-- The parent that is seen to is the one that is written, or creating it does not create that. -/
theorem parent_target_cases (hmeans : meansDirectory p = false) (hparent : p.parent? = some dir)
    (htarget : (target p).parent? = some other) :
    dir = other ∨ (∃ last, last ≠ .root ∧ dir.components = other.components ++ [last]) ∨
      other.chars.count '!' < dir.chars.count '!' ∧
        (dir.isAbsolute = true → other.chars ≠ [] → other.isAbsolute = true) := by
  have hne : p.chars ≠ [] := by
    apply Path.chars_ne_nil
    rintro rfl
    cases hparent
  obtain ⟨front, name, rfl, hfront, hplain⟩ := Path.exists_name_of_not_meansDirectory hne hmeans
  rw [Path.parent?_append hfront hplain] at hparent
  obtain rfl := Option.some.inj hparent
  have hslash : ∀ c ∈ withoutMarkers name, Path.isSlash c = false :=
    fun c hc => hplain.2.2.2 c (WriteDirective.mem_of_mem_withoutMarkers hc)
  rw [target, WriteDirective.resolve, WriteDirective.withoutMarkers_append hfront] at htarget
  -- Without a marker in front only the name changes; with one the front loses its `!`.
  by_cases hmarked : first? front = none
  · rw [WriteDirective.withoutMarkers_of_first?_eq_none hmarked] at htarget
    rw [Path.components_trimmed]
    exact (Path.parent?_append_cases hfront hslash htarget).imp Eq.symm .inl
  · have hbefore := Path.isPrefix_of_parent?_append hslash htarget
    refine .inr (.inr ⟨?_, fun habs hother => ?_⟩)
    · rw [Path.count_trimmed (by decide) (by decide)]
      exact lt_of_le_of_lt (hbefore.sublist.count_le '!') (count_withoutMarkers_lt hmarked)
    · have hfront : (⟨front⟩ : Path).isAbsolute = true := by
        have hroot := (Path.head?_components_iff _).2 habs
        rw [Path.components_trimmed] at hroot
        exact (Path.head?_components_iff _).1 hroot
      exact isAbsolute_of_isPrefix (p := target ⟨front⟩) hbefore hother (isAbsolute_target hfront)

theorem leadsToDirectory_of_get? {loc : Location} (h : t.get? p = some (loc, .directory)) :
    t.LeadsToDirectory p := by
  obtain ⟨hlocate, hfind, -⟩ := (get?_eq_some_iff t p loc _).1 h
  exact ⟨loc, (locate_eq_ok_iff.1 hlocate).2.2, hfind, fun _ => h⟩

/-- A directory that is where its path leads by its text is reached if the tree is rooted. -/
theorem Rooted.leadsToDirectory_of_same (h : t.Rooted) (hcwd : t'.cwd = t.cwd)
    (hup : .up ∉ p.components) (hthere : t'.LeadsToDirectory p)
    (hsame : t.find? (t.destination p) = t'.find? (t.destination p)) : t.LeadsToDirectory p := by
  obtain ⟨loc, hfollow, hfind, hget⟩ := hthere
  obtain rfl : loc = t.destination p := by
    rw [follow_eq_along hfollow, hcwd, destination]
  by_cases hne : p = ⟨[]⟩
  · subst hne
    exact leadsToDirectory_iff.2 ⟨.inl rfl, t.cwd, rfl, hsame.trans hfind⟩
  · obtain ⟨hlocate, -, hsuits⟩ := (get?_eq_some_iff _ _ _ _).1 (hget hne)
    have hsome : t.find? (t.destination p) ≠ none := by simp [hsame, hfind]
    have hbefore := h.locate_of_same hcwd hsame hsome hup hlocate
    exact leadsToDirectory_of_get?
      ((get?_eq_some_iff _ _ _ _).2 ⟨hbefore, hsame.trans hfind, hsuits⟩)

/-- Seeing to the directory of a path makes the parent of that path only if it is the one that is
seen to. -/
theorem Rooted.leadsToDirectory_of_ensured (h : t.Rooted) (hmeans : meansDirectory p = false)
    (hup : .up ∉ p.components) (hparent : p.parent? = some dir)
    (hthere : ((host r).ensureParent p t).2.LeadsToDirectory dir) :
    t.LeadsToDirectory dir ∨ (target p).parent? = some dir := by
  rcases (host r).ensureParent_cases p with heq | ⟨other, htarget, -, heq⟩
  · rw [heq] at hthere
    exact .inl hthere
  · rw [heq] at hthere
    have hbuilt := createDirAll_cases r other t
    have hup' : .up ∉ dir.components := by
      obtain ⟨-, last, -, hcomponents⟩ := Path.components_of_parent? hparent
      exact fun hmem => hup (hcomponents ▸ List.mem_append_left _ hmem)
    rcases hbuilt.find? (t.destination dir) with hsame | ⟨hnone, hdir⟩
    · exact .inl (h.leadsToDirectory_of_same hbuilt.cwd hup' hthere hsame.symm)
    · have hnew : ((host r).createDirAll other t).2.find? (t.destination dir) ≠ none := by
        simp [hdir]
      -- What is new lies on the way to the other parent, where neither of the two other cases is.
      obtain ⟨front, n, hfront, hcreated⟩ := exists_of_createDirAll r hnone hnew
      rcases parent_target_cases hmeans hparent htarget with
        rfl | ⟨last, hroot, habove⟩ | ⟨hfewer, habs⟩
      · exact .inr htarget
      · exact absurd hcreated (destination_ne_of_above hroot habove hfront hup')
      · have habs' := fun hdir => habs hdir (chars_ne_nil_of_named hfront)
        exact absurd hcreated (destination_ne_of_fewer hfewer habs' hfront hup')

/-! ## Removed and created anew -/

theorem directory_of_createAlong_relative {cs : List Component} {loc : Location}
    (hroot : .root ∉ cs) (hup : .up ∉ cs) (hcreated : (t.createAlong loc cs).1 = true) :
    t.find? loc = some .directory := by
  induction cs with
  | nil => exact (isDirectory_iff t loc).1 hcreated
  | cons c cs ih =>
    cases c with
    | root => exact absurd List.mem_cons_self hroot
    | up => exact absurd List.mem_cons_self hup
    | here =>
      exact ih (fun hmem => hroot (List.mem_cons_of_mem _ hmem))
        (fun hmem => hup (List.mem_cons_of_mem _ hmem)) hcreated
    | name n => exact directory_of_createAlong hcreated

/-- Without going up, nothing can be created but from a place that is there. -/
theorem hasStart_of_created (hne : p ≠ ⟨[]⟩) (hup : .up ∉ p.components)
    (hcreated : ((host r).createDirAll p t).1 = true) :
    ((host r).createDirAll p t).2.HasStart p := by
  cases hrel : p.isAbsolute with
  | true => exact .inl hrel
  | false =>
    obtain ⟨c, rest, hcomponents, hc⟩ :=
      Path.exists_component_of_relative (Path.chars_ne_nil hne) hrel
    have hbuilt := createDirAll_cases r p t
    rcases createDirAll_of_true r hcreated with
      ⟨heq, -⟩ | ⟨-, -, -, -, hthere⟩ | ⟨-, -, hmade⟩
    · exact absurd heq hne
    · obtain ⟨⟨loc, e⟩, hget⟩ := Option.isSome_iff_exists.1 hthere
      obtain ⟨hlocate, -⟩ := (get?_eq_some_iff _ p loc e).1 hget
      obtain ⟨-, -, hfollow⟩ := locate_eq_ok_iff.1 hlocate
      rw [hcomponents] at hfollow
      exact .inr ((passable_of_follow hfollow).resolve_left hc).1
    · have hroot := Path.root_notMem_components hrel
      have hstart := directory_of_createAlong_relative hroot hup (congrArg Prod.fst hmade)
      exact .inr (hbuilt.cwd ▸ hbuilt.find?_of_some hstart)

/-- What lies above a directory that is there is there. -/
theorem LeadsToDirectory.of_extends (h : t.LeadsToDirectory q) (hext : p.Extends q)
    (husable : p = ⟨[]⟩ ∨ isUsable p = true) : t.LeadsToDirectory p := by
  obtain ⟨-, loc, hfollow, hfind⟩ := leadsToDirectory_iff.1 h
  obtain ⟨names, -, hcomponents⟩ := hext
  rw [hcomponents] at hfollow
  obtain ⟨mid, hmid, hrest⟩ := exists_follow_of_append hfollow
  refine leadsToDirectory_iff.2 ⟨husable, mid, hmid, ?_⟩
  cases names with
  | nil =>
    obtain rfl : mid = loc := by simpa only [List.map_nil, follow, Except.ok.injEq] using hrest
    exact hfind
  | cons n names => exact ((passable_of_follow hrest).resolve_left (by simp)).1

theorem find?_removeDirAll_of_false (hfailed : (t.removeDirAll p).1 = false) :
    (t.removeDirAll p).2.find? (t.destination p) = t.find? (t.destination p) := by
  have hbelow : ∀ loc, t.locate p = .ok loc →
      (t.eraseBelow loc).find? (t.destination p) = t.find? (t.destination p) := by
    intro loc hlocate
    rw [← locate_eq_destination hlocate]
    have hkeep := find?_eraseWhere t (fun k => !(loc.isPrefixOf k) || k == loc) loc
    rwa [if_pos (.inr (by simp))] at hkeep
  unfold removeDirAll at hfailed ⊢
  split
  · rfl
  · rfl
  · rename_i loc hlocate
    rw [hlocate] at hfailed
    dsimp only at hfailed ⊢
    split
    · rfl
    · rfl
    · rename_i hdir
      rw [hdir] at hfailed
      split_ifs at hfailed ⊢
      · exact hbelow loc hlocate
      · split <;> exact hbelow loc hlocate
      · exact hbelow loc hlocate

theorem destination_of_extends (hext : p.Extends q) (t : FileTree) :
    ∃ names, t.destination q = t.destination p ++ names := by
  obtain ⟨names, -, hcomponents⟩ := hext
  exact ⟨names, by rw [destination, hcomponents, along_append_names, destination]⟩

/-- A directory stays if one at or below it cannot be removed. -/
theorem Rooted.leadsToDirectory_of_not_removed (h : t.Rooted) (hext : p.Extends q)
    (hup : .up ∉ p.components) (hthere : t.LeadsToDirectory p)
    (hfailed : ((host r).removeDirAll q t).1 = false) :
    ((host r).removeDirAll q t).2.LeadsToDirectory p := by
  have hcwd := (host_removeDirAll_pruned r q t).cwd
  refine (h.host_removeDirAll r q).leadsToDirectory_of_same hcwd.symm hup hthere ?_
  rw [destination_of_cwd hcwd]
  simp only [host] at hfailed ⊢
  split
  · rfl
  · rename_i hallowed
    rw [if_neg hallowed] at hfailed
    obtain ⟨names, hbelow⟩ := destination_of_extends hext t
    cases names with
    | nil =>
      rw [List.append_nil] at hbelow
      rw [← hbelow]
      exact find?_removeDirAll_of_false hfailed
    | cons n names =>
      apply removeDirAll_spares
      intro hprefix
      have hlength := hprefix.length_le
      rw [hbelow, List.length_append, List.length_cons] at hlength
      omega

/-- A directory is there again once one at or below it has been created anew. -/
theorem Rooted.leadsToDirectory_of_renewed (h : t.Rooted) (hext : p.Extends q) (hne : p ≠ ⟨[]⟩)
    (hup : .up ∉ p.components) (husable : isUsable p = true)
    (hcreated : ((host r).createDirAll q t).1 = true) :
    ((host r).createDirAll q t).2.LeadsToDirectory p := by
  have hq : q ≠ ⟨[]⟩ := by
    rintro rfl
    exact Path.components_ne_nil hne (List.prefix_nil.1 hext.isPrefix)
  have hstart := hasStart_of_created hq (hext.up_notMem hup) hcreated
  exact (leadsToDirectory_of_created h r hcreated hstart).of_extends hext (.inr husable)

end FileTree

end Scaffold

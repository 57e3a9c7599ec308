import Mathlib
import Scaffold.Proofs.FileTree.Parent
import Scaffold.Proofs.Output.Join

/-!
# Places that stay free

Before something is put at a path, the directory that it is to lie in is created. Where the path
does not go up, nothing comes to stand at the path itself by that: what is created are directories
above it, or directories with fewer markers in their names.
-/

namespace Scaffold

open Scaffold.Path (Component)
open WriteDirective (target first? withoutMarkers)

namespace Path

/-- Only the first component can be the root or a `.`. -/
theorem notMem_tail_components {c : Component} (h : c = .root ∨ c = .here) (p : Path) :
    c ∉ p.components.tail := by
  unfold components
  split
  · exact List.not_mem_nil
  · split
    · exact notMem_innerComponents h _
    · split
      · exact notMem_innerComponents h _
      · exact fun hmem => notMem_innerComponents h _ (List.mem_of_mem_tail hmem)

theorem head?_components_iff (p : Path) :
    p.components.head? = some .root ↔ p.isAbsolute = true := by
  cases hrel : p.isAbsolute with
  | true =>
    obtain ⟨cs, hcs⟩ := (isAbsolute_iff p).1 hrel
    have hsplit : Text.splitBy isSlash p.chars = [] :: Text.splitBy isSlash cs := by
      rw [hcs, Text.splitBy_cons_of_sep (by rfl)]
    simp [components, hsplit, hrel]
  | false =>
    by_cases hne : p.chars = []
    · simp [components_of_empty hne]
    · obtain ⟨c, cs, hcomponents, hroot⟩ := exists_component_of_relative hne hrel
      simp [hcomponents, hroot]

theorem root_notMem_components {p : Path} (h : p.isAbsolute = false) :
    .root ∉ p.components := by
  have htail := notMem_tail_components (c := .root) (.inl rfl) p
  have hhead := (head?_components_iff p).not.2 (by simp [h])
  cases hcomponents : p.components with
  | nil => exact List.not_mem_nil
  | cons c cs =>
    rw [hcomponents] at htail hhead
    rw [List.mem_cons, not_or]
    exact ⟨fun hc => hhead (congrArg some hc.symm), htail⟩

@[simp] theorem names_append (cs ds : List Component) : names (cs ++ ds) = names cs ++ names ds :=
  List.filterMap_append

end Path

namespace Location

variable {cs : List Component}

theorem along_eq_append_names (hroot : .root ∉ cs) (hup : .up ∉ cs) (loc : Location) :
    loc.along cs = loc ++ Path.names cs := by
  induction cs generalizing loc with
  | nil => exact (List.append_nil loc).symm
  | cons c cs ih =>
    have hrest := ih (fun hmem => hroot (List.mem_cons_of_mem c hmem))
      (fun hmem => hup (List.mem_cons_of_mem c hmem))
    cases c with
    | root => exact absurd List.mem_cons_self hroot
    | up => exact absurd List.mem_cons_self hup
    | here => exact hrest loc
    | name n =>
      have hnames : Path.names (.name n :: cs) = n :: Path.names cs := rfl
      rw [along, hrest, hnames, List.append_assoc, List.singleton_append]

/-- On the way there are no other characters than those of the names. -/
theorem count_along_le (c : Char) (cs : List Component) (loc : Location) :
    (loc.along cs).flatten.count c ≤ loc.flatten.count c + (Path.names cs).flatten.count c := by
  induction cs generalizing loc with
  | nil => exact Nat.le_add_right _ _
  | cons d cs ih =>
    cases d with
    | root =>
      have hrest := ih []
      rw [List.flatten_nil, List.count_nil, Nat.zero_add] at hrest
      exact hrest.trans (Nat.le_add_left _ _)
    | here => exact ih loc
    | up =>
      have hup := ((List.dropLast_sublist loc).flatten).count_le c
      exact (ih loc.dropLast).trans (Nat.add_le_add_right hup _)
    | name n =>
      have hname := ih (loc ++ [n])
      have hnames : Path.names (.name n :: cs) = n :: Path.names cs := rfl
      rw [hnames, List.flatten_cons, List.count_append]
      rw [List.flatten_append, List.count_append, List.flatten_singleton] at hname
      rw [along]
      omega

end Location

namespace FileTree

variable {t t' : FileTree} {loc : Location} {p dir : Path}

/-! ## Where paths begin -/

/-- Where a path begins that does not go up. -/
def origin (t : FileTree) (p : Path) : Location :=
  if p.isAbsolute then [] else t.cwd

theorem along_of_prefix {q : List Component} (hq : q <+: p.components) (hne : q ≠ [])
    (hup : .up ∉ p.components) : t.cwd.along q = t.origin p ++ Path.names q := by
  obtain ⟨c, cs, rfl⟩ := List.exists_cons_of_ne_nil hne
  obtain ⟨rest, hrest⟩ := hq
  have hhead : p.components.head? = some c := by rw [← hrest]; rfl
  have htail : cs.Sublist p.components.tail := by
    rw [← hrest]
    exact List.sublist_append_left cs rest
  have hroot : .root ∉ cs := fun hmem =>
    Path.notMem_tail_components (.inl rfl) p (htail.subset hmem)
  have hup' : .up ∉ c :: cs := fun hmem => hup (hrest ▸ List.mem_append_left rest hmem)
  have habs := Path.head?_components_iff p
  rw [hhead] at habs
  by_cases hc : c = .root
  · subst hc
    rw [origin, if_pos (habs.1 rfl)]
    exact Location.along_eq_append_names hroot (fun hmem => hup' (List.mem_cons_of_mem _ hmem)) []
  · have hrel : ¬ p.isAbsolute = true := fun h => hc (Option.some.inj (habs.2 h))
    rw [origin, if_neg hrel]
    apply Location.along_eq_append_names _ hup'
    intro hmem
    rcases List.mem_cons.1 hmem with heq | hmem
    · exact hc heq.symm
    · exact hroot hmem

/-! ## What is created -/

/-- Directories are created where names on the way lead. -/
theorem exists_of_createAlong {cs : List Component} {start : Location}
    (hnone : t.find? loc = none) (hnew : (t.createAlong start cs).2.find? loc ≠ none) :
    ∃ (front : List Component) (n : List Char),
      front ++ [Component.name n] <+: cs ∧ loc = start.along (front ++ [Component.name n]) := by
  induction cs generalizing t start with
  | nil => exact absurd hnone hnew
  | cons c cs ih =>
    have hmore : ∀ {t' : FileTree} {start' : Location}, t'.find? loc = none →
        (t'.createAlong start' cs).2.find? loc ≠ none →
        (∀ ds, start.along (c :: ds) = start'.along ds) →
        ∃ (front : List Component) (n : List Char),
          front ++ [Component.name n] <+: c :: cs ∧
            loc = start.along (front ++ [Component.name n]) := by
      intro t' start' hnone' hnew' halong
      obtain ⟨front, n, hfront, rfl⟩ := ih hnone' hnew'
      refine ⟨c :: front, n, ?_, ?_⟩
      · rw [List.cons_append, List.cons_prefix_cons]
        exact ⟨rfl, hfront⟩
      · rw [List.cons_append, halong]
    cases c with
    | root | here | up => exact hmore hnone hnew fun _ => rfl
    | name n =>
      simp only [createAlong] at hnew
      split at hnew
      · exact absurd hnone hnew
      · split at hnew
        · exact hmore hnone hnew fun _ => rfl
        · exact absurd hnone hnew
        · by_cases hself : loc = start ++ [n]
          · exact ⟨[], n, List.prefix_cons_inj _ |>.2 (List.nil_prefix), hself⟩
          · refine hmore ?_ hnew fun _ => rfl
            rwa [find?_insert_of_ne t hself]

theorem exists_of_createDirAll (r : Refusals) (hnone : t.find? loc = none)
    (hnew : ((host r).createDirAll dir t).2.find? loc ≠ none) :
    ∃ (front : List Component) (n : List Char),
      front ++ [Component.name n] <+: dir.components ∧
        loc = t.cwd.along (front ++ [Component.name n]) := by
  simp only [host, createDirAll] at hnew
  split_ifs at hnew
  · exact absurd hnone hnew
  · exact absurd hnone hnew
  · exact absurd hnone hnew
  · have hmade : (t.createAlong t.cwd dir.components.dropLast).2.find? loc ≠ none := by
      split at hnew <;> rename_i heq <;> rwa [heq]
    obtain ⟨front, n, hfront, hloc⟩ := exists_of_createAlong hnone hmade
    exact ⟨front, n, hfront.trans (List.dropLast_prefix _), hloc⟩
  · exact exists_of_createAlong hnone hnew

/-! ## Free places -/

theorem Rooted.directory_of_prefix (h : t.Rooted) (hthere : t.find? loc ≠ none) {l : Location}
    (hl : l <+: loc) (hne : l ≠ loc) : t.find? l = some .directory := by
  rcases List.eq_nil_or_concat loc with rfl | ⟨front, n, rfl⟩
  · exact absurd (List.prefix_nil.1 hl) hne
  · rw [List.concat_eq_append] at hthere hl hne
    have hfront := h front n hthere
    rcases List.prefix_concat_iff.1 hl with heq | hl
    · exact absurd heq hne
    · exact h.standing hfront l hl

/-- The way to what was there before was open before. -/
theorem Rooted.follow_of_same (h : t.Rooted) (hthere : t.find? loc = t'.find? loc)
    (hsome : t.find? loc ≠ none) {start : Location} {cs : List Component}
    (hroot : .root ∉ cs) (hup : .up ∉ cs) (hfollow : t'.follow start cs = .ok loc) :
    t.follow start cs = .ok loc := by
  induction cs generalizing start with
  | nil => simpa only [follow] using hfollow
  | cons c cs ih =>
    have hbelow : start <+: loc := by
      rw [follow_eq_along hfollow, Location.along_eq_append_names hroot hup]
      exact List.prefix_append _ _
    have hpass := passable_of_follow hfollow
    have hpass' : Passable t start c := by
      refine hpass.imp_right (And.imp_left fun hdir => ?_)
      by_cases hself : start = loc
      · rwa [hself, hthere, ← hself]
      · exact h.directory_of_prefix hsome hbelow hself
    rw [hpass.follow] at hfollow
    rw [hpass'.follow]
    exact ih (fun hmem => hroot (List.mem_cons_of_mem c hmem))
      (fun hmem => hup (List.mem_cons_of_mem c hmem)) hfollow

theorem Rooted.locate_of_same (h : t.Rooted) (hcwd : t'.cwd = t.cwd)
    (hthere : t.find? loc = t'.find? loc) (hsome : t.find? loc ≠ none)
    (hup : .up ∉ p.components) (hlocate : t'.locate p = .ok loc) : t.locate p = .ok loc := by
  obtain ⟨hne, husable, hfollow⟩ := locate_eq_ok_iff.1 hlocate
  rw [hcwd] at hfollow
  refine locate_eq_ok_iff.2 ⟨hne, husable, ?_⟩
  cases hrel : p.isAbsolute with
  | true =>
    obtain ⟨cs, hcomponents⟩ := List.head?_eq_some_iff.1 ((Path.head?_components_iff p).2 hrel)
    have hroot : .root ∉ cs := by
      have htail := Path.notMem_tail_components (c := .root) (.inl rfl) p
      rwa [hcomponents] at htail
    rw [hcomponents] at hfollow hup ⊢
    have hstart : t'.follow [] cs = .ok loc := hfollow
    have hbefore : t.follow [] cs = .ok loc :=
      h.follow_of_same hthere hsome hroot (fun hmem => hup (List.mem_cons_of_mem _ hmem)) hstart
    exact hbefore
  | false =>
    exact h.follow_of_same hthere hsome (Path.root_notMem_components hrel) hup hfollow

/-- No directory above a path is where the path leads. -/
theorem destination_ne_of_above {q : List Component} {n : List Char} {last : Component}
    (hroot : last ≠ .root) (hcomponents : p.components = dir.components ++ [last])
    (hq : q ++ [Component.name n] <+: dir.components) (hup : .up ∉ p.components) :
    t.destination p ≠ t.cwd.along (q ++ [Component.name n]) := by
  obtain ⟨rest, hrest⟩ := hq
  intro heq
  have hprefix : q ++ [Component.name n] <+: p.components := by
    rw [hcomponents, ← hrest, List.append_assoc]
    exact List.prefix_append _ _
  rw [destination, along_of_prefix (List.prefix_refl _) (by simp [hcomponents]) hup,
    along_of_prefix hprefix (by simp) hup, List.append_cancel_left_eq, hcomponents, ← hrest,
    Path.names_append, Path.names_append, List.append_assoc, List.append_right_eq_self,
    List.append_eq_nil_iff] at heq
  cases last with
  | root => exact hroot rfl
  | up => exact hup (by simp [hcomponents])
  | here =>
    refine Path.notMem_tail_components (.inr rfl) p ?_
    rw [hcomponents, ← hrest, List.append_assoc]
    cases q <;> simp
  | name m => exact absurd heq.2 (List.cons_ne_nil _ _)

theorem isAbsolute_target (h : p.isAbsolute = true) : (target p).isAbsolute = true := by
  obtain ⟨cs, hcs⟩ := (Path.isAbsolute_iff p).1 h
  refine (Path.isAbsolute_iff _).2 ⟨withoutMarkers cs, ?_⟩
  rw [target, WriteDirective.resolve, hcs]
  apply WriteDirective.withoutMarkers_cons_of_none
  exact WriteDirective.marker?_cons_of_ne (by decide) cs

/-- No directory on the way to a path with fewer `!` is where the path leads. -/
theorem destination_ne_of_fewer {q : List Component} {n : List Char}
    (hfewer : dir.chars.count '!' < p.chars.count '!')
    (habs : p.isAbsolute = true → dir.isAbsolute = true)
    (hq : q ++ [Component.name n] <+: dir.components) (hup : .up ∉ p.components) :
    t.destination p ≠ t.cwd.along (q ++ [Component.name n]) := by
  obtain ⟨rest, hrest⟩ := hq
  have hnames :
      (Path.names (q ++ [Component.name n])).flatten.count '!' ≤ dir.chars.count '!' := by
    rw [← Path.count_names_components (by decide) (by decide) dir, ← hrest,
      Path.names_append _ rest, List.flatten_append, List.count_append]
    exact Nat.le_add_right _ _
  have hcreated :
      (t.cwd.along (q ++ [Component.name n])).flatten.count '!' ≤
        (t.origin p).flatten.count '!' +
          (Path.names (q ++ [Component.name n])).flatten.count '!' := by
    cases hp : p.isAbsolute with
    | false =>
      rw [origin, hp, if_neg Bool.false_ne_true]
      exact Location.count_along_le '!' _ t.cwd
    | true =>
      have hhead := (Path.head?_components_iff dir).2 (habs hp)
      rw [← hrest, List.head?_append_of_ne_nil _ (by simp)] at hhead
      obtain ⟨ds, hds⟩ := List.head?_eq_some_iff.1 hhead
      rw [hds, origin, if_pos hp]
      exact Location.count_along_le '!' ds []
  have hne : p.components ≠ [] := by
    intro hnil
    rw [← Path.count_names_components (by decide) (by decide) p, hnil] at hfewer
    exact absurd hfewer (Nat.not_lt_zero _)
  intro heq
  rw [← heq, destination, along_of_prefix (List.prefix_refl _) hne hup, List.flatten_append,
    List.count_append, Path.count_names_components (by decide) (by decide)] at hcreated
  omega

/-- Fewer `!` are left where markers are cut out. -/
theorem count_withoutMarkers_lt {cs : List Char} (hmarked : first? cs ≠ none) :
    (withoutMarkers cs).count '!' < cs.count '!' := by
  apply lt_of_le_of_ne ((WriteDirective.withoutMarkers_sublist cs).count_le '!')
  exact fun heq => hmarked (WriteDirective.first?_eq_none_of_count cs heq)

theorem isAbsolute_of_isPrefix (h : dir.chars <+: p.chars) (hne : dir.chars ≠ [])
    (habs : p.isAbsolute = true) : dir.isAbsolute = true := by
  obtain ⟨rest, hrest⟩ := h
  have hsame := Path.isAbsolute_append hne rest
  rw [hrest] at hsame
  exact hsame.symm.trans habs

theorem chars_ne_nil_of_named {q : List Component} {n : List Char}
    (hq : q ++ [Component.name n] <+: dir.components) : dir.chars ≠ [] := by
  intro hnil
  rw [Path.components_of_empty hnil, List.prefix_nil] at hq
  simp at hq

theorem destination_ne_of_marked {q : List Component} {n : List Char}
    (hmarked : first? p.chars ≠ none) (hparent : (target p).parent? = some dir)
    (hq : q ++ [Component.name n] <+: dir.components) (hup : .up ∉ p.components) :
    t.destination p ≠ t.cwd.along (q ++ [Component.name n]) := by
  obtain ⟨hfront, -⟩ := Path.components_of_parent? hparent
  refine destination_ne_of_fewer ?_ (fun habs => ?_) hq hup
  · exact lt_of_le_of_lt (hfront.sublist.count_le '!') (count_withoutMarkers_lt hmarked)
  · exact isAbsolute_of_isPrefix hfront (chars_ne_nil_of_named hq) (isAbsolute_target habs)

/-- Where the directory of a path that does not go up is seen to, something is at the path only if
it was before. -/
theorem Rooted.pathExists_ensureParent (h : t.Rooted) (r : Refusals) (hup : .up ∉ p.components) :
    ((host r).ensureParent p t).2.pathExists p = t.pathExists p := by
  rcases (host r).ensureParent_cases p with heq | ⟨dir, hparent, -, heq⟩
  · rw [heq]
    rfl
  · rw [heq]
    have hbuilt := createDirAll_cases r dir t
    rw [Bool.eq_iff_iff]
    constructor
    · intro hexists
      obtain ⟨loc, e, hlocate, hfind, hsuits⟩ := (pathExists_iff _ p).1 hexists
      rcases hbuilt.find? loc with hsame | ⟨hnone, hdir⟩
      · have hsome : t.find? loc ≠ none := by
          rw [← hsame, hfind]
          exact Option.some_ne_none e
        have hbefore := h.locate_of_same hbuilt.cwd hsame.symm hsome hup hlocate
        exact (pathExists_iff t p).2 ⟨loc, e, hbefore, hsame ▸ hfind, hsuits⟩
      · have hnew : ((host r).createDirAll dir t).2.find? loc ≠ none := by simp [hdir]
        obtain ⟨q, n, hq, hcreated⟩ := exists_of_createDirAll r hnone hnew
        have hdestination : t.destination p = loc := destination_of_locate hbuilt.cwd hlocate
        rw [hcreated] at hdestination
        -- a created directory is above `p`, or has fewer `!` in its names where markers are cut out
        by_cases hmarked : first? p.chars = none
        · rw [Path.target_of_unmarked hmarked] at hparent
          obtain ⟨-, last, hroot, hcomponents⟩ := Path.components_of_parent? hparent
          exact absurd hdestination (destination_ne_of_above hroot hcomponents hq hup)
        · exact absurd hdestination (destination_ne_of_marked hmarked hparent hq hup)
    · exact hbuilt.grown.pathExists

end FileTree

end Scaffold

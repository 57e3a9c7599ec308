import Mathlib
import Scaffold.Host.FileTree
import Scaffold.Proofs.Path.Components

/-!
# Last segments and parents

The last name of a file's path is preceded by nothing or by a slash. Its parent is what stands
before it, without the slashes and the `.` segments at the end, which mean nothing.
-/

namespace Scaffold

namespace Path

/-- Text that a name can be put behind. -/
def IsLead (cs : List Char) : Prop :=
  cs = [] ∨ cs.getLast? = some '/'

theorem isLead_lead (p : Path) : IsLead p.lead := by
  by_cases h : p.chars = []
  · exact .inl (by simp [lead, h])
  · exact .inr (lead_of_ne_nil h)

theorem IsLead.takeWhile_reverse {cs : List Char} (h : IsLead cs) :
    cs.reverse.takeWhile (fun c => !isSlash c) = [] := by
  rcases h with rfl | hlast
  · rfl
  · obtain ⟨front, rfl⟩ := List.getLast?_eq_some_iff.1 hlast
    simp [isSlash]

theorem IsLead.dropWhile_reverse {cs : List Char} (h : IsLead cs) :
    cs.reverse.dropWhile (fun c => !isSlash c) = cs.reverse := by
  rcases h with rfl | hlast
  · rfl
  · obtain ⟨front, rfl⟩ := List.getLast?_eq_some_iff.1 hlast
    simp [isSlash]

/-! ## Trimming -/

/-- Slashes and `.` segments at the end mean nothing. -/
theorem components_trimReversed (cs : List Char) :
    (⟨(trimReversed cs).reverse⟩ : Path).components = (⟨cs.reverse⟩ : Path).components := by
  induction cs using trimReversed.induct with
  | case1 => rfl
  | case2 rest hrest ih =>
    have hne : rest.reverse ≠ [] := by simpa using hrest
    rw [trimReversed, ih, List.reverse_cons, components_append_slash hne]
    · simp [Text.splitBy]
    · exact hrest
  | case3 rest ih =>
    rw [trimReversed, ih]
    by_cases hrest : rest = []
    · subst hrest
      rfl
    · have hne : rest.reverse ≠ [] := by simpa using hrest
      simp only [List.reverse_cons, List.append_assoc, List.singleton_append]
      rw [components_append_slash hne, components_append_slash hne]
      simp [Text.splitBy, isSlash]
  | case4 cs hroot hslash hhere => rw [trimReversed] <;> assumption

/-- The last segment of what is left is not `.`, unless that is all there is. -/
theorem lastSegment_trimReversed (cs : List Char)
    (h : FileTree.lastSegment ⟨(trimReversed cs).reverse⟩ = ['.']) : trimReversed cs = ['.'] := by
  induction cs using trimReversed.induct with
  | case1 => revert h; decide
  | case2 rest hrest ih =>
    rw [trimReversed] at h ⊢
    · exact ih h
    · exact hrest
    · exact hrest
  | case3 rest ih =>
    rw [trimReversed] at h ⊢
    exact ih h
  | case4 cs hroot hslash hhere =>
    have hsame : trimReversed cs = cs := by rw [trimReversed] <;> assumption
    rw [hsame] at h ⊢
    cases cs with
    | nil => revert h; decide
    | cons c rest =>
      have hc : isSlash c = false := by
        by_contra hc
        obtain rfl : c = '/' := by simpa [isSlash] using hc
        exact hslash rest rfl
      have hlast : (rest.takeWhile fun c => !isSlash c).reverse ++ [c] = ['.'] := by
        simpa [FileTree.lastSegment, hc] using h
      obtain ⟨hrest, rfl⟩ : rest.takeWhile (fun c => !isSlash c) = [] ∧ c = '.' := by
        simpa [List.append_eq_singleton_iff] using hlast
      cases rest with
      | nil => rfl
      | cons d rest =>
        have hd : d = '/' := by simpa [isSlash] using hrest
        exact absurd (hd ▸ rfl) (hhere rest)

theorem trimReversed_suffix (cs : List Char) : trimReversed cs <:+ cs := by
  induction cs using trimReversed.induct with
  | case1 => exact List.suffix_refl _
  | case2 rest hrest ih =>
    rw [trimReversed]
    · exact ih.trans (List.suffix_cons '/' rest)
    · exact hrest
  | case3 rest ih =>
    rw [trimReversed]
    exact ih.trans (List.suffix_cons '.' _)
  | case4 cs hroot hslash hhere =>
    have hsame : trimReversed cs = cs := by rw [trimReversed] <;> assumption
    rw [hsame]

/-- No slash is left at the end, unless that is all there is. -/
theorem trimReversed_eq_slash {cs rest : List Char} (h : trimReversed cs = '/' :: rest) :
    rest = [] := by
  induction cs using trimReversed.induct with
  | case1 => exact (List.cons_eq_cons.1 h).2.symm
  | case2 rest' hrest ih =>
    rw [trimReversed] at h
    · exact ih h
    · exact hrest
  | case3 rest' ih =>
    rw [trimReversed] at h
    exact ih h
  | case4 cs hroot hslash hhere =>
    have hsame : trimReversed cs = cs := by rw [trimReversed] <;> assumption
    exact absurd (hsame.symm.trans h) (hslash rest)

/-- A path without the slashes and the `.` segments at its end. -/
def trimmed (p : Path) : Path :=
  ⟨(trimReversed p.chars.reverse).reverse⟩

@[simp] theorem components_trimmed (p : Path) : p.trimmed.components = p.components := by
  rw [trimmed, components_trimReversed, List.reverse_reverse]

theorem trimmed_isPrefix (p : Path) : p.trimmed.chars <+: p.chars := by
  have hsuffix := trimReversed_suffix p.chars.reverse
  rwa [← List.reverse_prefix, List.reverse_reverse] at hsuffix

theorem trimmed_lead (p : Path) : (⟨p.lead⟩ : Path).trimmed = p.trimmed := by
  unfold lead
  split
  · rfl
  · rename_i h
    have hne : p.chars.reverse ≠ [] := by simp_all
    rw [trimmed, List.reverse_append, List.reverse_singleton, List.singleton_append, trimReversed,
      trimmed]
    exact hne

/-! ## Names at the end -/

section Name

variable {front name : List Char}

theorem lastSegment_append (hfront : IsLead front) (hne : name ≠ [])
    (hslash : ∀ c ∈ name, isSlash c = false) :
    FileTree.lastSegment ⟨front ++ name⟩ = name := by
  have hname : ∀ c ∈ name.reverse, (!isSlash c) = true := by simpa using hslash
  obtain ⟨c, rest, hrev⟩ := List.exists_cons_of_ne_nil (List.reverse_ne_nil_iff.2 hne)
  have hc : isSlash c = false := hslash c (List.mem_reverse.1 (by simp [hrev]))
  have hdrop : (name.reverse ++ front.reverse).dropWhile isSlash =
      name.reverse ++ front.reverse := by
    simp [hrev, hc]
  rw [FileTree.lastSegment, List.reverse_append, hdrop, List.takeWhile_append_of_pos hname,
    hfront.takeWhile_reverse, List.append_nil, List.reverse_reverse]

/-- A segment behind a text adds what it means; in front of all else a `.` counts. -/
theorem components_lead_append_segment (hfront : IsLead front)
    (hslash : ∀ c ∈ name, isSlash c = false) (hhere : name ≠ ['.']) :
    (⟨front ++ name⟩ : Path).components =
      (⟨front⟩ : Path).components ++ innerComponents [name] := by
  have hsplit := Text.splitBy_of_forall_not hslash
  rcases hfront with rfl | hlast
  · have hrel : (⟨name⟩ : Path).isAbsolute = false := by
      rw [← Bool.not_eq_true, isAbsolute_iff]
      rintro ⟨cs, rfl⟩
      exact absurd (hslash '/' (by simp)) (by decide)
    rw [List.nil_append]
    conv_lhs => unfold components
    simp only [hsplit, hrel, hhere, Bool.false_eq_true, if_false]
    rfl
  · rw [components_append hlast, hsplit]

theorem components_lead_append (hfront : IsLead front) (h : IsPlain name) :
    (⟨front ++ name⟩ : Path).components = (⟨front⟩ : Path).components ++ [.name name] := by
  rw [components_lead_append_segment hfront h.2.2.2 h.2.1,
    innerComponents_of_plain (by simpa using h)]
  rfl

theorem components_join_of_plain (p : Path) (h : IsPlain name) :
    (p.join ⟨name⟩).components = p.components ++ [.name name] := by
  rw [join_eq p (isAbsolute_of_plain h), components_lead_append (isLead_lead p) h, components_lead]

theorem not_meansDirectory_join (p : Path) (h : IsPlain name) :
    FileTree.meansDirectory (p.join ⟨name⟩) = false := by
  obtain ⟨hne, hhere, hup, hslash⟩ := h
  have hlast : (p.lead ++ name).getLast? ≠ some '/' := by
    rw [List.getLast?_append_of_ne_nil _ hne]
    intro hsome
    exact absurd (hslash '/' (List.mem_of_getLast? hsome)) (by decide)
  rw [join_eq p (isAbsolute_of_plain ⟨hne, hhere, hup, hslash⟩), FileTree.meansDirectory,
    lastSegment_append (isLead_lead p) hne hslash]
  simp only [Bool.or_eq_false_iff, beq_eq_false_iff_ne]
  exact ⟨⟨hlast, hhere⟩, hup⟩

/-- A rendered name leads to the directory itself or to a name below it. -/
theorem joinRendered_cases (dir : Path) (rendered : String) :
    dir.joinRendered rendered = dir ∨
      FileTree.lastSegment (dir.joinRendered rendered) ≠ ['.'] := by
  rw [joinRendered]
  rcases List.eq_nil_or_concat (renderedNames rendered.toList) with hnil | ⟨names, n, hnames⟩
  · exact .inl (by rw [hnil]; rfl)
  · have hplain : IsPlain n := isPlain_of_mem_renderedNames (by rw [hnames]; simp)
    refine .inr ?_
    rw [hnames, joinAll, List.concat_eq_append, List.foldl_append, List.foldl_cons, List.foldl_nil,
      join_eq _ (isAbsolute_of_plain hplain),
      lastSegment_append (isLead_lead _) hplain.1 hplain.2.2.2]
    exact hplain.2.1

/-- What is behind the last slash of a reversed text, and what is in front of it. -/
theorem isLead_dropWhile (cs : List Char) :
    IsLead (cs.dropWhile fun c => !isSlash c).reverse := by
  rw [IsLead, List.getLast?_reverse, List.reverse_eq_nil_iff]
  cases hdrop : cs.dropWhile fun c => !isSlash c with
  | nil => exact .inl rfl
  | cons c rest =>
    have hc := List.head?_dropWhile_not (fun c => !isSlash c) cs
    rw [hdrop] at hc
    exact .inr (by simpa [isSlash] using hc)

theorem not_isSlash_of_mem_takeWhile {cs : List Char} {c : Char}
    (h : c ∈ (cs.takeWhile fun c => !isSlash c).reverse) : isSlash c = false := by
  simpa using List.mem_takeWhile_imp (List.mem_reverse.1 h)

/-- A path that means a file ends with its name. -/
theorem exists_name_of_not_meansDirectory {p : Path} (hne : p.chars ≠ [])
    (h : FileTree.meansDirectory p = false) :
    ∃ front name, p = ⟨front ++ name⟩ ∧ IsLead front ∧ IsPlain name := by
  simp only [FileTree.meansDirectory, Bool.or_eq_false_iff, beq_eq_false_iff_ne] at h
  obtain ⟨⟨hlast, hhere⟩, hup⟩ := h
  set front := (p.chars.reverse.dropWhile fun c => !isSlash c).reverse with hfront
  set name := (p.chars.reverse.takeWhile fun c => !isSlash c).reverse with hname
  have hwhole : p = ⟨front ++ name⟩ := by
    rw [hfront, hname, ← List.reverse_append, List.takeWhile_append_dropWhile,
      List.reverse_reverse]
  have hlead : IsLead front := isLead_dropWhile p.chars.reverse
  have hslash : ∀ c ∈ name, isSlash c = false := fun c hc => not_isSlash_of_mem_takeWhile hc
  have hnonempty : name ≠ [] := by
    intro hnil
    rcases hlead with hfront | hfront
    · exact hne (by simp [hwhole, hfront, hnil])
    · exact hlast (by simp [hwhole, hfront, hnil])
  have hsegment : FileTree.lastSegment p = name := by
    conv_lhs => rw [hwhole]
    exact lastSegment_append hlead hnonempty hslash
  exact ⟨front, name, hwhole, hlead, hnonempty, hsegment ▸ hhere, hsegment ▸ hup, hslash⟩

theorem parent?_append_segment (hfront : IsLead front) (hne : name ≠ []) (hhere : name ≠ ['.'])
    (hslash : ∀ c ∈ name, isSlash c = false) :
    (⟨front ++ name⟩ : Path).parent? = some (⟨front⟩ : Path).trimmed := by
  obtain ⟨c, rest, hrev⟩ := List.exists_cons_of_ne_nil (List.reverse_ne_nil_iff.2 hne)
  have hname : ∀ d ∈ c :: rest, isSlash d = false := by
    intro d hd
    exact hslash d (List.mem_reverse.1 (hrev ▸ hd))
  have hc : c ≠ '/' := by
    rintro rfl
    exact absurd (hname '/' (by simp)) (by decide)
  -- nothing is cut off behind a name
  have htrimmed : trimReversed (c :: rest ++ front.reverse) = c :: rest ++ front.reverse := by
    rw [List.cons_append, trimReversed]
    · simp [hc]
    · simp [hc]
    · intro rest' heq
      obtain ⟨rfl, hrest⟩ := List.cons_eq_cons.1 heq
      cases rest with
      | nil => exact hhere (by simpa using congrArg List.reverse hrev)
      | cons d rest =>
        obtain ⟨rfl, -⟩ := List.cons_eq_cons.1 hrest
        exact absurd (hname '/' (by simp)) (by decide)
  have hdrop : (c :: rest ++ front.reverse).dropWhile (fun c => !isSlash c) = front.reverse := by
    rw [List.dropWhile_append_of_pos (by simpa using hname), hfront.dropWhile_reverse]
  rw [parent?, List.reverse_append, hrev, htrimmed]
  simp only [List.cons_append] at hdrop ⊢
  split
  · simp at *
  · rename_i heq
    exact absurd (List.cons_eq_cons.1 heq).1 hc
  · exact congrArg (fun cs => some (⟨(trimReversed cs).reverse⟩ : Path)) hdrop

theorem parent?_append (hfront : IsLead front) (h : IsPlain name) :
    (⟨front ++ name⟩ : Path).parent? = some (⟨front⟩ : Path).trimmed :=
  parent?_append_segment hfront h.1 h.2.1 h.2.2.2

end Name

/-- A path is its parent with one more component, which is not the root. -/
theorem components_of_parent? {p dir : Path} (h : p.parent? = some dir) :
    dir.chars <+: p.chars ∧
      ∃ last, last ≠ .root ∧ p.components = dir.components ++ [last] := by
  have hsuffix := trimReversed_suffix p.chars.reverse
  have hcomponents := components_trimReversed p.chars.reverse
  have hlast := lastSegment_trimReversed p.chars.reverse
  have hslash := @trimReversed_eq_slash p.chars.reverse
  rw [List.reverse_reverse] at hcomponents
  unfold parent? at h
  generalize trimReversed p.chars.reverse = cs at h hsuffix hcomponents hlast hslash
  split at h
  · simp at h
  · simp at h
  · rename_i hne hroot
    obtain rfl := Option.some.inj h
    set front := cs.dropWhile fun c => !isSlash c
    set name := (cs.takeWhile fun c => !isSlash c).reverse
    have hwhole : cs.reverse = front.reverse ++ name := by
      rw [← List.reverse_append, List.takeWhile_append_dropWhile]
    have hlead : IsLead front.reverse := isLead_dropWhile cs
    have hname : ∀ c ∈ name, isSlash c = false := fun c hc => not_isSlash_of_mem_takeWhile hc
    refine ⟨?_, ?_⟩
    · rw [← List.reverse_suffix, List.reverse_reverse]
      exact (trimReversed_suffix front).trans ((List.dropWhile_suffix _).trans hsuffix)
    · rw [components_trimReversed, ← hcomponents, hwhole]
      have hnonempty : name ≠ [] := by
        intro hnil
        cases cs with
        | nil => exact hne rfl
        | cons c rest =>
          have hc : c = '/' := by simpa [name, isSlash] using hnil
          subst hc
          rw [hslash rfl] at hroot
          exact hroot rfl
      rw [hwhole, lastSegment_append hlead hnonempty hname] at hlast
      by_cases hhere : name = ['.']
      · -- a `.` is only left where nothing else is
        have hcs := hlast hhere
        have hfront : front = [] := by simp only [front, hcs]; decide
        rw [hfront, hhere]
        exact ⟨.here, by simp, rfl⟩
      · rw [components_lead_append_segment hlead hname hhere]
        by_cases hup : name = ['.', '.']
        · exact ⟨.up, by simp, by rw [hup]; rfl⟩
        · refine ⟨.name name, by simp, ?_⟩
          rw [innerComponents_of_plain (by simpa using ⟨hnonempty, hhere, hup, hname⟩)]
          rfl

/-- What comes before a file's name is its parent. That is not written with a `.` at its end,
unless it is the directory itself. -/
theorem exists_parent {p : Path} (hne : p.chars ≠ []) (h : FileTree.meansDirectory p = false) :
    ∃ dir name, p.parent? = some dir ∧ p.components = dir.components ++ [.name name] ∧
      (FileTree.lastSegment dir = ['.'] → dir.components = [.here]) := by
  obtain ⟨front, name, rfl, hfront, hplain⟩ := exists_name_of_not_meansDirectory hne h
  refine ⟨(⟨front⟩ : Path).trimmed, name, parent?_append hfront hplain, ?_, fun hlast => ?_⟩
  · rw [components_trimmed, components_lead_append hfront hplain]
  · rw [trimmed, lastSegment_trimReversed _ hlast]
    rfl

end Path

end Scaffold

import Mathlib
import Scaffold.Proofs.Output.Marker
import Scaffold.Proofs.Path.Parent
import Scaffold.Proofs.Path.Rendered

/-!
# Names that are joined as they are written

Files of a rendered name go to a place that is worked out in two steps, each of which may drop
some characters. A relative name without `..` is put just where its own text leads, seen from the
directory, if there is nothing to drop.
-/

namespace Scaffold

open WriteDirective (target first? withoutMarkers)

namespace Path

/-- Nothing is dropped when files of the name are put into the directory. -/
structure JoinsPlainly (dir : Path) (name : List Char) : Prop where
  dir_unmarked : first? dir.chars = none
  unmarked : first? name = none
  no_backslash : '\\' ∉ name
  trimmed : Text.trim name = name
  /-- A `.` in front counts where nothing is in front of it. -/
  not_here : dir.chars = [] → ∀ rest, Text.splitBy isSlash name ≠ ['.'] :: rest

section

variable {dir : Path} {name : List Char}

theorem isSlash_iff (c : Char) : isSlash c = true ↔ c = '/' := by
  simp [isSlash]

theorem first?_lead (dir : Path) : first? dir.lead = first? dir.chars := by
  unfold lead
  split
  · rfl
  · rw [WriteDirective.first?_append_slash]
    simp [first?]

theorem target_of_unmarked {p : Path} (h : first? p.chars = none) : target p = p := by
  rw [target, WriteDirective.resolve, WriteDirective.withoutMarkers_of_first?_eq_none h]

theorem components_of_empty (h : dir.chars = []) : dir.components = [] := by
  obtain rfl : dir = ⟨[]⟩ := by cases dir; simp_all
  rfl

theorem isLead_withoutMarkers (p : Path) : IsLead (withoutMarkers p.lead) := by
  by_cases h : p.chars = []
  · exact .inl (by simp [lead, h, withoutMarkers])
  · obtain ⟨front, hfront⟩ := List.getLast?_eq_some_iff.1 (lead_of_ne_nil h)
    rw [hfront, WriteDirective.withoutMarkers_append_slash]
    exact .inr (by simp [withoutMarkers])

/-- A name without markers is put under its own name. -/
theorem target_join (p : Path) (h : IsPlain name) (hunmarked : first? name = none) :
    target (p.join ⟨name⟩) = ⟨withoutMarkers p.lead ++ name⟩ := by
  rw [join_eq p (isAbsolute_of_plain h), target, WriteDirective.resolve,
    WriteDirective.withoutMarkers_append (isLead_lead p),
    WriteDirective.withoutMarkers_of_first?_eq_none hunmarked]

/-- A relative path only becomes absolute by losing a marker, and then it starts with a name. -/
theorem exists_name_of_isAbsolute_target (hrel : dir.isAbsolute = false) (h : IsPlain name)
    (habs : (target (dir.join ⟨name⟩)).isAbsolute = true) :
    ∃ n cs, dir.components = .name n :: cs := by
  obtain ⟨cs, hcs⟩ := (isAbsolute_iff _).1 habs
  cases hdir : dir.chars with
  | nil =>
    have hname : withoutMarkers name = '/' :: cs := by
      rw [← hcs, join_eq dir (isAbsolute_of_plain h)]
      simp [lead, hdir, target, WriteDirective.resolve]
    have hslash := h.2.2.2 '/' (WriteDirective.mem_of_mem_withoutMarkers (hname ▸ by simp))
    exact absurd hslash (by decide)
  | cons d rest =>
    obtain rfl : dir = ⟨d :: rest⟩ := by
      cases dir
      exact congrArg _ hdir
    have hd : d ≠ '/' := by
      rintro rfl
      simp [isAbsolute] at hrel
    have hbang : d = '!' := by
      by_contra hbang
      obtain ⟨more, hmore⟩ : ∃ more, (⟨d :: rest⟩ : Path).lead ++ name = d :: more := by
        unfold lead
        split
        · exact ⟨_, rfl⟩
        · exact ⟨_, rfl⟩
      have hmarker := WriteDirective.marker?_cons_of_ne hbang more
      rw [join_eq _ (isAbsolute_of_plain h), target, WriteDirective.resolve, hmore,
        WriteDirective.withoutMarkers_cons_of_none hmarker] at hcs
      exact hd (List.cons_eq_cons.1 hcs).1
    exact exists_name_of_cons hd (by simp [hbang]) rest

/-- The text of a joined name holds the markers of the directory and of the names. -/
theorem first?_joinRendered_eq_none_iff (dir : Path) (rendered : String) :
    first? (dir.joinRendered rendered).chars = none ↔
      first? dir.chars = none ∧ ∀ n ∈ renderedNames rendered.toList, first? n = none := by
  by_cases hnames : renderedNames rendered.toList = []
  · simp [joinRendered, hnames, joinAll]
  · have hplain := fun n (hn : n ∈ renderedNames rendered.toList) => isPlain_of_mem_renderedNames hn
    rw [joinRendered, joinAll_eq _ hnames hplain, ← WriteDirective.first?_joinWith_eq_none_iff]
    by_cases hdir : dir.chars = []
    · simp [lead, hdir, first?]
    · obtain ⟨front, hfront⟩ := List.getLast?_eq_some_iff.1 (lead_of_ne_nil hdir)
      rw [← first?_lead dir, hfront, List.append_assoc, List.singleton_append,
        WriteDirective.first?_append_slash, WriteDirective.first?_append_slash]
      simp [first?]

/-- Where files go to the plain join, characters other than slashes and dots are all there. -/
theorem count_of_same (hrel : (⟨name⟩ : Path).isAbsolute = false)
    (hsame : (target (dir.joinRendered (String.ofList name))).same (dir.join ⟨name⟩) = true)
    {c : Char} (hslash : c ≠ '/') (hdot : c ≠ '.') :
    (withoutMarkers (dir.joinRendered (String.ofList name)).chars).count c =
      dir.chars.count c + name.count c := by
  have hcomponents : (target (dir.joinRendered (String.ofList name))).components =
      (dir.join ⟨name⟩).components := by
    simpa [same] using hsame
  have hlead : dir.lead.count c = dir.chars.count c := by
    have h := count_names_components hslash hdot ⟨dir.lead⟩
    rw [components_lead, count_names_components hslash hdot] at h
    exact h.symm
  calc (withoutMarkers (dir.joinRendered (String.ofList name)).chars).count c
      = (target (dir.joinRendered (String.ofList name))).chars.count c := rfl
    _ = (dir.join ⟨name⟩).chars.count c := by
        rw [← count_names_components hslash hdot, hcomponents, count_names_components hslash hdot]
    _ = dir.chars.count c + name.count c := by
        rw [join_eq dir hrel, List.count_append, hlead]

theorem JoinsPlainly.same (h : JoinsPlainly dir name)
    (hrel : (⟨name⟩ : Path).isAbsolute = false)
    (hup : ['.', '.'] ∉ Text.splitBy isSlash name) :
    (target (dir.joinRendered (String.ofList name))).same (dir.join ⟨name⟩) = true := by
  have hnames := map_renderedNames hup h.no_backslash h.trimmed
  have hmarkers : first? (dir.joinRendered (String.ofList name)).chars = none := by
    rw [first?_joinRendered_eq_none_iff, String.toList_ofList]
    refine ⟨h.dir_unmarked, fun n hn => ?_⟩
    -- a name is a segment of the text, which holds no marker
    have hsegment : Component.name n ∈ innerComponents (Text.splitBy isSlash name) := by
      rw [← hnames]
      exact List.mem_map_of_mem hn
    obtain ⟨s, hs, hname⟩ := List.mem_filterMap.1 hsegment
    have hsame : s = n := by
      unfold innerComponent? at hname
      split at hname
      · simp at hname
      · split at hname <;> simp_all
    have hunmarked := h.unmarked
    rw [← Text.joinWith_splitBy isSlash_iff name,
      WriteDirective.first?_joinWith_eq_none_iff] at hunmarked
    exact hsame ▸ hunmarked s hs
  have hkept : (target (dir.joinRendered (String.ofList name))).components =
      dir.components ++ innerComponents (Text.splitBy isSlash name) := by
    rw [target_of_unmarked hmarkers, components_joinRendered, String.toList_ofList, hnames]
  rw [Path.same, beq_iff_eq, hkept, join_eq dir hrel]
  by_cases hdir : dir.chars = []
  · obtain ⟨first, rest, hsplit⟩ :=
      List.exists_cons_of_ne_nil (Text.splitBy_ne_nil isSlash name)
    have hfirst : first ≠ ['.'] := by
      rintro rfl
      exact h.not_here hdir rest hsplit
    rw [components_of_empty hdir, List.nil_append, lead, if_pos (Or.inl hdir), hdir,
      List.nil_append]
    unfold components
    rw [hsplit]
    simp [hrel, hfirst]
  · rw [components_append (lead_of_ne_nil hdir), components_lead]

/-! ### What is kept where files go to the plain join -/

section Same

variable (hrel : (⟨name⟩ : Path).isAbsolute = false)
  (hsame : (target (dir.joinRendered (String.ofList name))).same (dir.join ⟨name⟩) = true)

include hrel hsame

theorem count_le_of_same {c : Char} (hslash : c ≠ '/') (hdot : c ≠ '.') :
    name.count c ≤ (renderedNames name).flatten.count c := by
  have hall := count_of_same hrel hsame hslash hdot
  have hcut := (WriteDirective.withoutMarkers_sublist
    (dir.joinRendered (String.ofList name)).chars).count_le c
  rw [hall, count_joinRendered hslash, String.toList_ofList] at hcut
  omega

theorem no_backslash_of_same : '\\' ∉ name := by
  have hnone : (renderedNames name).flatten.count '\\' = 0 := by
    rw [List.count_eq_zero]
    intro hmem
    obtain ⟨n, hn, hc⟩ := List.mem_flatten.1 hmem
    exact absurd (not_divider_of_mem_renderedNames hn '\\' hc) (by decide)
  have hle := count_le_of_same hrel hsame (show '\\' ≠ '/' by decide) (by decide)
  exact List.count_eq_zero.1 (by omega)

theorem trimmed_of_same : Text.trim name = name := by
  by_contra htrim
  obtain ⟨b, hb, hlost⟩ := Text.exists_blank_of_trim_ne htrim
  have hne : ∀ c, Text.isBlank c = false → b ≠ c := by
    rintro c hc rfl
    rw [hb] at hc
    cases hc
  have hslash := hne '/' (by decide)
  have hdiv : isDivider b = false := by simp [isDivider, hslash, hne '\\' (by decide)]
  have hle := count_le_of_same hrel hsame hslash (hne '.' (by decide))
  have hnames := count_renderedNames_le hdiv name
  omega

theorem first?_joinRendered_of_same :
    first? (dir.joinRendered (String.ofList name)).chars = none := by
  apply WriteDirective.first?_eq_none_of_count
  have hnames := count_renderedNames_le (c := '!') (by decide) name
  rw [trimmed_of_same hrel hsame] at hnames
  have hle := count_le_of_same hrel hsame (show '!' ≠ '/' by decide) (by decide)
  rw [count_of_same hrel hsame (by decide) (by decide), count_joinRendered (by decide),
    String.toList_ofList]
  omega

/-- The joined path starts with a name. -/
theorem not_here_of_same (hempty : dir.chars = []) (rest : List (List Char)) :
    Text.splitBy isSlash name ≠ ['.'] :: rest := by
  intro hsplit
  have hcomponents : (target (dir.joinRendered (String.ofList name))).components =
      (dir.join ⟨name⟩).components := by
    simpa [Path.same] using hsame
  have hhere : Component.here ∈ (dir.join ⟨name⟩).components := by
    rw [join_eq dir hrel, lead, if_pos (Or.inl hempty), hempty, List.nil_append]
    unfold components
    rw [hsplit]
    simp [hrel]
  rw [← hcomponents, target_of_unmarked (first?_joinRendered_of_same hrel hsame),
    components_joinRendered, components_of_empty hempty, List.nil_append] at hhere
  simp at hhere

theorem JoinsPlainly.of_same (hup : ['.', '.'] ∉ Text.splitBy isSlash name) :
    JoinsPlainly dir name := by
  have hback := no_backslash_of_same hrel hsame
  have htrim := trimmed_of_same hrel hsame
  have hnames := map_renderedNames hup hback htrim
  obtain ⟨hdir, hunmarked⟩ :=
    (first?_joinRendered_eq_none_iff dir _).1 (first?_joinRendered_of_same hrel hsame)
  rw [String.toList_ofList] at hunmarked
  refine ⟨hdir, ?_, hback, htrim, not_here_of_same hrel hsame⟩
  rw [← Text.joinWith_splitBy isSlash_iff name, WriteDirective.first?_joinWith_eq_none_iff]
  intro s hs
  by_cases hnone : s = [] ∨ s = ['.']
  · rcases hnone with rfl | rfl <;> decide
  · have hne : s ≠ ['.', '.'] := fun heq => hup (heq ▸ hs)
    have hmem : Component.name s ∈ (renderedNames name).map Component.name := by
      rw [hnames]
      exact List.mem_filterMap.2 ⟨s, hs, by simp [innerComponent?, hnone, hne]⟩
    obtain ⟨n, hn, hname⟩ := List.mem_map.1 hmem
    exact Component.name.inj hname ▸ hunmarked n hn

end Same

/-- A relative name without `..` is put where its own text leads just if nothing is dropped. -/
theorem same_target_joinRendered_iff (hrel : (⟨name⟩ : Path).isAbsolute = false)
    (hup : ['.', '.'] ∉ Text.splitBy isSlash name) :
    (target (dir.joinRendered (String.ofList name))).same (dir.join ⟨name⟩) = true ↔
      JoinsPlainly dir name :=
  ⟨fun hsame => .of_same hrel hsame hup, fun h => h.same hrel hup⟩

end

end Path

end Scaffold

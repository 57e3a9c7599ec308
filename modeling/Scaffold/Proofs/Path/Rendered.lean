import Mathlib
import Scaffold.Proofs.Path.Components

/-!
# What rendered names keep

The names of a path hold all its characters but slashes and dots, so characters can be counted
there. A rendered name loses the blanks at its ends and the slashes of either kind, and what is
taken back by a `..`; where there is nothing to lose, its names are the components of its text.
-/

namespace Scaffold

namespace Text

theorem exists_blank_of_dropWhile_ne {cs : List Char} (h : cs.dropWhile isBlank ≠ cs) :
    ∃ b, isBlank b = true ∧ (cs.dropWhile isBlank).count b < cs.count b := by
  cases cs with
  | nil => exact absurd rfl h
  | cons c cs =>
    cases hc : isBlank c with
    | false => exact absurd (List.dropWhile_cons_of_neg (by simp [hc])) h
    | true =>
      refine ⟨c, hc, ?_⟩
      have hless := (List.dropWhile_sublist isBlank (l := cs)).count_le c
      rw [List.dropWhile_cons_of_pos hc, List.count_cons_self]
      omega

/-- A text that is not trimmed has a blank that goes when it is. -/
theorem exists_blank_of_trim_ne {cs : List Char} (h : trim cs ≠ cs) :
    ∃ b, isBlank b = true ∧ (trim cs).count b < cs.count b := by
  by_cases hstart : trimStart cs = cs
  · rw [trim, hstart, trimEnd] at h ⊢
    have hrev : cs.reverse.dropWhile isBlank ≠ cs.reverse := by
      intro heq
      exact h (by rw [heq, List.reverse_reverse])
    obtain ⟨b, hb, hless⟩ := exists_blank_of_dropWhile_ne hrev
    refine ⟨b, hb, ?_⟩
    rwa [List.count_reverse, ← List.count_reverse (l := cs)]
  · obtain ⟨b, hb, hless⟩ := exists_blank_of_dropWhile_ne hstart
    refine ⟨b, hb, lt_of_le_of_lt ?_ hless⟩
    have hend := (List.dropWhile_sublist isBlank (l := (trimStart cs).reverse)).count_le b
    rw [trim, trimEnd, List.count_reverse]
    rwa [List.count_reverse] at hend

theorem trim_of_solid {c : Char} {cs : List Char} (hfirst : isBlank c = false)
    (hlast : ∀ d, (c :: cs).getLast? = some d → isBlank d = false) :
    trim (c :: cs) = c :: cs := by
  obtain ⟨d, rest, hrev⟩ :=
    List.exists_cons_of_ne_nil (List.reverse_ne_nil_iff.2 (List.cons_ne_nil c cs))
  have hd : isBlank d = false := by
    apply hlast
    rw [← List.head?_reverse, hrev, List.head?_cons]
  rw [trim, trimStart, List.dropWhile_cons_of_neg (by simp [hfirst]), trimEnd, hrev,
    List.dropWhile_cons_of_neg (by simp [hd]), ← hrev, List.reverse_reverse]

end Text

namespace Path

variable {c : Char}

/-! ## Counting -/

theorem count_names_innerComponents (hdot : c ≠ '.') (segments : List (List Char)) :
    (names (innerComponents segments)).flatten.count c = segments.flatten.count c := by
  induction segments with
  | nil => rfl
  | cons s segments ih =>
    rw [List.flatten_cons, List.count_append, ← ih]
    by_cases hnone : s = [] ∨ s = ['.']
    · have hcount : s.count c = 0 := by
        rcases hnone with rfl | rfl
        · rfl
        · exact List.count_eq_zero.2 (by simpa using hdot)
      simp [innerComponents, innerComponent?, hnone, hcount]
    · by_cases hup : s = ['.', '.']
      · subst hup
        have hcount : ['.', '.'].count c = 0 := List.count_eq_zero.2 (by simpa using hdot)
        rw [hcount, Nat.zero_add]
        rfl
      · simp [innerComponents, innerComponent?, hnone, hup, names]

theorem count_names_components (hslash : c ≠ '/') (hdot : c ≠ '.') (p : Path) :
    (names p.components).flatten.count c = p.chars.count c := by
  have hsep : isSlash c = false := by simpa [isSlash] using hslash
  obtain ⟨first, rest, hsplit⟩ :=
    List.exists_cons_of_ne_nil (Text.splitBy_ne_nil isSlash p.chars)
  have hwhole := Text.count_flatten_splitBy hsep p.chars
  have hrest := count_names_innerComponents hdot rest
  rw [← hwhole]
  unfold components
  rw [hsplit]
  dsimp only
  split
  · rename_i habs
    obtain ⟨cs, hcs⟩ := (isAbsolute_iff p).1 habs
    have hfirst : first = [] := by
      rw [hcs, Text.splitBy_cons_of_sep (by rfl)] at hsplit
      exact (List.cons_eq_cons.1 hsplit).1.symm
    rw [hfirst]
    exact hrest
  · split
    · rename_i hhere
      have hcount : ['.'].count c = 0 := List.count_eq_zero.2 (by simpa using hdot)
      rw [hhere, List.flatten_cons, List.count_append, hcount, Nat.zero_add]
      exact hrest
    · exact count_names_innerComponents hdot (first :: rest)

theorem count_stackSegments_le (c : Char) (names segments : List (List Char)) :
    (stackSegments names segments).flatten.count c ≤
      names.flatten.count c + segments.flatten.count c := by
  induction segments generalizing names with
  | nil => simp [stackSegments]
  | cons s segments ih =>
    rw [stackSegments, List.flatten_cons, List.count_append]
    split
    · have h := ih names
      omega
    · split
      · have h := ih names.tail
        have htail : names.tail.flatten.count c ≤ names.flatten.count c :=
          (List.tail_sublist names).flatten.count_le c
        omega
      · have h := ih (s :: names)
        rw [List.flatten_cons, List.count_append] at h
        omega

theorem count_renderedNames_le (hdiv : isDivider c = false) (cs : List Char) :
    (renderedNames cs).flatten.count c ≤ (Text.trim cs).count c := by
  have hstack := count_stackSegments_le c [] (Text.splitBy isDivider (Text.trim cs))
  rw [Text.count_flatten_splitBy hdiv, List.flatten_nil, List.count_nil, Nat.zero_add] at hstack
  rw [renderedNames, (List.reverse_perm _).flatten.count_eq]
  exact hstack

theorem not_divider_of_mem_renderedNames {cs name : List Char} (h : name ∈ renderedNames cs) :
    ∀ c ∈ name, isDivider c = false := by
  have hmem : ∀ (names segments : List (List Char)),
      (∀ n ∈ names, ∀ c ∈ n, isDivider c = false) →
      (∀ s ∈ segments, ∀ c ∈ s, isDivider c = false) →
      ∀ n ∈ stackSegments names segments, ∀ c ∈ n, isDivider c = false := by
    intro names segments hnames hsegments
    induction segments generalizing names with
    | nil => exact hnames
    | cons s segments ih =>
      have hrest := fun t ht => hsegments t (List.mem_cons_of_mem s ht)
      rw [stackSegments]
      split
      · exact ih names hnames hrest
      · split
        · exact ih names.tail (fun n hn => hnames n (List.mem_of_mem_tail hn)) hrest
        · refine ih (s :: names) (fun n hn => ?_) hrest
          rcases List.mem_cons.1 hn with rfl | hn
          · exact hsegments _ (by simp)
          · exact hnames n hn
  rw [renderedNames, List.mem_reverse] at h
  exact hmem [] _ (by simp) (fun s hs => Text.not_sep_of_mem_splitBy hs) name h

/-! ## Names without loss -/

theorem map_stackSegments (names : List (List Char)) {segments : List (List Char)}
    (hup : ['.', '.'] ∉ segments) :
    (stackSegments names segments).reverse.map Component.name =
      names.reverse.map Component.name ++ innerComponents segments := by
  induction segments generalizing names with
  | nil => simp [stackSegments]
  | cons s segments ih =>
    rw [List.mem_cons, not_or] at hup
    have hs : s ≠ ['.', '.'] := fun heq => hup.1 heq.symm
    rw [stackSegments]
    split
    · rename_i hnone
      rw [ih names hup.2]
      simp [innerComponents, innerComponent?, hnone]
    · rename_i hsome
      rw [ih (s :: names) hup.2]
      simp [innerComponents, innerComponent?, hsome, hs]

/-- Without `..`, backslashes and blanks at the ends, the names are all that the text means. -/
theorem map_renderedNames {cs : List Char} (hup : ['.', '.'] ∉ Text.splitBy isSlash cs)
    (hback : '\\' ∉ cs) (htrim : Text.trim cs = cs) :
    (renderedNames cs).map Component.name = innerComponents (Text.splitBy isSlash cs) := by
  have hsame : Text.splitBy isDivider cs = Text.splitBy isSlash cs := by
    refine Text.splitBy_congr fun c hc => ?_
    have hne : c ≠ '\\' := by
      rintro rfl
      exact hback hc
    simp [isDivider, isSlash, hne]
  rw [renderedNames, htrim, hsame]
  exact map_stackSegments [] hup

/-- The text of a joined name is made of the directory's and of the names'. -/
theorem count_joinRendered (hslash : c ≠ '/') (dir : Path) (rendered : String) :
    (dir.joinRendered rendered).chars.count c =
      dir.chars.count c + (renderedNames rendered.toList).flatten.count c := by
  have hlead : dir.lead.count c = dir.chars.count c := by
    unfold lead
    split
    · rfl
    · rw [List.count_append, List.count_singleton, if_neg (by simpa using hslash.symm),
        Nat.add_zero]
  by_cases hnames : renderedNames rendered.toList = []
  · simp [joinRendered, hnames, joinAll]
  · rw [joinRendered, joinAll_eq _ hnames fun n hn => isPlain_of_mem_renderedNames hn]
    rw [List.count_append, hlead, Text.count_joinWith hslash]

/-! ## Names that were rendered before -/

/-- A name that can be left of a rendered one. -/
structure IsSegment (name : List Char) : Prop where
  plain : IsPlain name
  solid : ∀ c ∈ name, isDivider c = false

theorem isSegment_of_mem_renderedNames {cs name : List Char} (h : name ∈ renderedNames cs) :
    IsSegment name :=
  ⟨isPlain_of_mem_renderedNames h, not_divider_of_mem_renderedNames h⟩

theorem stackSegments_of_plain {segments : List (List Char)} (h : ∀ s ∈ segments, IsPlain s)
    (names : List (List Char)) : stackSegments names segments = segments.reverse ++ names := by
  induction segments generalizing names with
  | nil => rfl
  | cons s segments ih =>
    obtain ⟨hempty, hhere, hup, -⟩ := h s List.mem_cons_self
    rw [stackSegments, if_neg (by simp [hempty, hhere]), if_neg hup,
      ih (fun t ht => h t (List.mem_cons_of_mem s ht)), List.reverse_cons, List.append_assoc,
      List.singleton_append]

theorem stackSegments_append (names xs ys : List (List Char)) :
    stackSegments names (xs ++ ys) = stackSegments (stackSegments names xs) ys := by
  induction xs generalizing names with
  | nil => rfl
  | cons s xs ih =>
    rw [List.cons_append, stackSegments, stackSegments]
    split
    · exact ih names
    · split
      · exact ih names.tail
      · exact ih (s :: names)

/-- Names between slashes are rendered as they are. -/
theorem renderedNames_between {names : List (List Char)} (h : ∀ n ∈ names, IsSegment n) :
    renderedNames ('/' :: (Text.joinWith ['/'] names ++ ['/'])) = names := by
  have htrim : Text.trim ('/' :: (Text.joinWith ['/'] names ++ ['/'])) =
      '/' :: (Text.joinWith ['/'] names ++ ['/']) := by
    apply Text.trim_of_solid (by decide)
    intro d hd
    rw [← List.cons_append, List.getLast?_concat] at hd
    obtain rfl := Option.some.inj hd
    decide
  have hsplit : stackSegments [] (Text.splitBy isDivider (Text.joinWith ['/'] names)) =
      names.reverse := by
    by_cases hnames : names = []
    · subst hnames
      rfl
    · rw [Text.splitBy_joinWith (by rfl) hnames fun n hn => (h n hn).solid,
        stackSegments_of_plain (fun n hn => (h n hn).plain), List.append_nil]
  rw [renderedNames, htrim, Text.splitBy_cons_of_sep (by rfl), Text.splitBy_append_cons (by rfl),
    stackSegments, if_pos (.inl rfl), stackSegments_append, hsplit]
  exact List.reverse_reverse names

/-! ## Paths further down -/

section

variable {root dir p : Path}

/-- `p` goes on from `root` by segments of rendered names. -/
def Extends (root p : Path) : Prop :=
  ∃ names : List (List Char), (∀ n ∈ names, IsSegment n) ∧
    p.components = root.components ++ names.map .name

theorem Extends.refl (root : Path) : Extends root root :=
  ⟨[], by simp⟩

theorem Extends.joinRendered (h : Extends root dir) (rendered : String) :
    Extends root (dir.joinRendered rendered) := by
  obtain ⟨names, hnames, hdir⟩ := h
  refine ⟨names ++ renderedNames rendered.toList, ?_, ?_⟩
  · intro n hn
    rcases List.mem_append.1 hn with hn | hn
    · exact hnames n hn
    · exact isSegment_of_mem_renderedNames hn
  · rw [components_joinRendered, hdir, List.map_append, List.append_assoc]

theorem Extends.isPrefix (h : Extends root p) : root.components <+: p.components := by
  obtain ⟨names, -, hp⟩ := h
  rw [hp]
  exact List.prefix_append _ _

theorem Extends.up_notMem (h : Extends root p) (hup : .up ∉ root.components) :
    .up ∉ p.components := by
  obtain ⟨names, -, hp⟩ := h
  rw [hp, List.mem_append]
  rintro (hmem | hmem)
  · exact hup hmem
  · simp at hmem

end

end Path

end Scaffold

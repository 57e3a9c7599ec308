import Mathlib
import Scaffold.Path.Rendered
import Scaffold.Proofs.Text.Segment

/-!
# Components of longer paths

Text behind a slash adds the components of its segments. A path is joined with names by its own
text, the slash that is missing there, and the names between slashes.
-/

namespace Scaffold.Path

theorem isEmpty_iff {p : Path} : p.isEmpty = true ↔ p = ⟨[]⟩ := by
  cases p
  simp [isEmpty]

theorem chars_ne_nil {p : Path} (h : p ≠ ⟨[]⟩) : p.chars ≠ [] := by
  cases p
  simpa using h

theorem innerComponents_append (ss ts : List (List Char)) :
    innerComponents (ss ++ ts) = innerComponents ss ++ innerComponents ts :=
  List.filterMap_append

@[simp] theorem innerComponents_nil : innerComponents [] = [] := rfl

@[simp] theorem innerComponents_cons_nil (ss : List (List Char)) :
    innerComponents ([] :: ss) = innerComponents ss := rfl

@[simp] theorem innerComponents_cons_here (ss : List (List Char)) :
    innerComponents (['.'] :: ss) = innerComponents ss := rfl

theorem notMem_innerComponents {c : Component} (h : c = .root ∨ c = .here)
    (ss : List (List Char)) : c ∉ innerComponents ss := by
  intro hmem
  obtain ⟨s, -, hs⟩ := List.mem_filterMap.1 hmem
  unfold innerComponent? at hs
  split_ifs at hs
  · rcases h with rfl | rfl <;> simp at hs
  · rcases h with rfl | rfl <;> simp at hs

theorem root_notMem_innerComponents (ss : List (List Char)) :
    Component.root ∉ innerComponents ss :=
  notMem_innerComponents (.inl rfl) ss

/-- Names that a file or directory can really have. -/
def IsPlain (name : List Char) : Prop :=
  name ≠ [] ∧ name ≠ ['.'] ∧ name ≠ ['.', '.'] ∧ ∀ c ∈ name, isSlash c = false

theorem innerComponents_of_plain {names : List (List Char)} (h : ∀ n ∈ names, IsPlain n) :
    innerComponents names = names.map .name := by
  induction names with
  | nil => rfl
  | cons n names ih =>
    obtain ⟨hempty, hhere, hup, -⟩ := h n (by simp)
    have hn : innerComponent? n = some (.name n) := by simp [innerComponent?, hempty, hhere, hup]
    rw [innerComponents, List.filterMap_cons_some hn, List.map_cons]
    exact congrArg _ (ih fun m hm => h m (List.mem_cons_of_mem n hm))

theorem isAbsolute_iff (p : Path) : p.isAbsolute = true ↔ ∃ cs, p.chars = '/' :: cs := by
  unfold isAbsolute
  split
  · simp_all
  · simp_all

theorem isAbsolute_append {as : List Char} (h : as ≠ []) (bs : List Char) :
    (⟨as ++ bs⟩ : Path).isAbsolute = (⟨as⟩ : Path).isAbsolute := by
  obtain ⟨a, as, rfl⟩ := List.exists_cons_of_ne_nil h
  rw [Bool.eq_iff_iff, isAbsolute_iff, isAbsolute_iff]
  simp

theorem exists_name_of_cons {c : Char} (hslash : c ≠ '/') (hdot : c ≠ '.') (cs : List Char) :
    ∃ n rest, (⟨c :: cs⟩ : Path).components = .name n :: rest := by
  have hrel : (⟨c :: cs⟩ : Path).isAbsolute = false := by
    rw [← Bool.not_eq_true, isAbsolute_iff]
    simp [hslash]
  obtain ⟨piece, rest, hsplit⟩ := List.exists_cons_of_ne_nil (Text.splitBy_ne_nil isSlash cs)
  have hwhole : Text.splitBy isSlash (c :: cs) = (c :: piece) :: rest :=
    Text.splitBy_cons_of_not_sep (by simp [isSlash, hslash]) hsplit
  refine ⟨c :: piece, innerComponents rest, ?_⟩
  unfold components
  simp [hwhole, hrel, hdot, innerComponents, innerComponent?]

/-- A relative path does not start over. -/
theorem exists_component_of_relative {p : Path} (hne : p.chars ≠ []) (h : p.isAbsolute = false) :
    ∃ c rest, p.components = c :: rest ∧ c ≠ .root := by
  obtain ⟨first, pieces, hsplit⟩ := List.exists_cons_of_ne_nil (Text.splitBy_ne_nil isSlash p.chars)
  have hfirst : first ≠ [] := by
    obtain ⟨d, cs, hchars⟩ := List.exists_cons_of_ne_nil hne
    have hd : isSlash d = false := by
      rw [← Bool.not_eq_true, isAbsolute_iff, hchars] at h
      simpa [isSlash] using h
    obtain ⟨piece, rest, hrest⟩ := List.exists_cons_of_ne_nil (Text.splitBy_ne_nil isSlash cs)
    rw [hchars, Text.splitBy_cons_of_not_sep hd hrest] at hsplit
    rw [← (List.cons_eq_cons.1 hsplit).1]
    exact List.cons_ne_nil d piece
  unfold components
  simp only [hsplit, h, Bool.false_eq_true, if_false]
  by_cases hhere : first = ['.']
  · exact ⟨.here, innerComponents pieces, if_pos hhere, by simp⟩
  · by_cases hup : first = ['.', '.']
    · exact ⟨.up, innerComponents pieces, by simp [hup, innerComponents, innerComponent?], by simp⟩
    · exact ⟨.name first, innerComponents pieces,
        by simp [hfirst, hhere, hup, innerComponents, innerComponent?], by simp⟩

/-- Text behind a slash adds components. -/
theorem components_append_slash {as : List Char} (h : as ≠ []) (bs : List Char) :
    (⟨as ++ '/' :: bs⟩ : Path).components =
      (⟨as⟩ : Path).components ++ innerComponents (Text.splitBy isSlash bs) := by
  obtain ⟨first, rest, hsplit⟩ :=
    List.exists_cons_of_ne_nil (Text.splitBy_ne_nil isSlash as)
  have hwhole : Text.splitBy isSlash (as ++ '/' :: bs) =
      first :: (rest ++ Text.splitBy isSlash bs) := by
    rw [Text.splitBy_append_cons (by rfl), hsplit, List.cons_append]
  unfold components
  simp only [hsplit, hwhole, isAbsolute_append h]
  rw [← List.cons_append, innerComponents_append, innerComponents_append]
  split
  · rfl
  · split <;> rfl

/-- Text that ends with a slash can be gone on from. -/
theorem components_append {as : List Char} (h : as.getLast? = some '/') (bs : List Char) :
    (⟨as ++ bs⟩ : Path).components =
      (⟨as⟩ : Path).components ++ innerComponents (Text.splitBy isSlash bs) := by
  obtain ⟨front, rfl⟩ := List.getLast?_eq_some_iff.1 h
  rw [List.append_assoc, List.singleton_append]
  by_cases hfront : front = []
  · subst hfront
    rfl
  · rw [components_append_slash hfront, components_append_slash hfront]
    simp [Text.splitBy]

theorem splitBy_joinWith_slash {names : List (List Char)}
    (h : ∀ n ∈ names, ∀ c ∈ n, isSlash c = false) :
    innerComponents (Text.splitBy isSlash (Text.joinWith ['/'] names)) =
      innerComponents names := by
  cases names with
  | nil => rfl
  | cons n names => rw [Text.splitBy_joinWith (by rfl) (by simp) h]

/-! ## Joining -/

/-- The text that names are put behind. -/
def lead (p : Path) : List Char :=
  if p.chars = [] ∨ p.chars.getLast? = some '/' then p.chars else p.chars ++ ['/']

theorem lead_of_ne_nil {p : Path} (h : p.chars ≠ []) : p.lead.getLast? = some '/' := by
  unfold lead
  split
  · simp_all
  · simp

theorem components_lead (p : Path) : (⟨p.lead⟩ : Path).components = p.components := by
  unfold lead
  split
  · rfl
  · rename_i h
    rw [not_or] at h
    rw [components_append_slash h.1]
    simp [Text.splitBy]

theorem join_eq (p : Path) {q : Path} (h : q.isAbsolute = false) :
    p.join q = ⟨p.lead ++ q.chars⟩ := by
  unfold join lead
  simp only [h, Bool.false_eq_true, if_false]
  split <;> simp

theorem isAbsolute_of_plain {name : List Char} (h : IsPlain name) :
    (⟨name⟩ : Path).isAbsolute = false := by
  obtain ⟨-, -, -, hslash⟩ := h
  unfold isAbsolute
  split
  · rename_i heq
    exact absurd (hslash '/' (by simp_all)) (by decide)
  · rfl

theorem lead_join_of_plain (p : Path) {name : List Char} (h : IsPlain name) :
    (p.join ⟨name⟩).lead = p.lead ++ name ++ ['/'] := by
  have hlast : name.getLast? ≠ some '/' := fun hsome =>
    absurd (h.2.2.2 '/' (List.mem_of_getLast? hsome)) (by decide)
  have hwhole : (p.lead ++ name).getLast? ≠ some '/' := by
    rwa [List.getLast?_append_of_ne_nil _ h.1]
  rw [join_eq p (isAbsolute_of_plain h), lead]
  simp only [hwhole, List.append_eq_nil_iff, h.1, and_false, or_false, if_false]

theorem joinAll_eq {names : List (List Char)} (p : Path) (hne : names ≠ [])
    (h : ∀ n ∈ names, IsPlain n) :
    p.joinAll names = ⟨p.lead ++ Text.joinWith ['/'] names⟩ := by
  induction names generalizing p with
  | nil => exact absurd rfl hne
  | cons n names ih =>
    have hplain := h n (by simp)
    rw [joinAll, List.foldl_cons, ← joinAll]
    cases names with
    | nil => exact join_eq p (isAbsolute_of_plain hplain)
    | cons next names =>
      rw [ih _ (by simp) fun m hm => h m (List.mem_cons_of_mem n hm),
        lead_join_of_plain p hplain, Text.joinWith_cons _ n (by simp)]
      simp only [List.append_assoc]

/-- A first name that is plain makes a path relative. -/
theorem components_joinWith {n : List Char} {names : List (List Char)}
    (h : ∀ m ∈ n :: names, IsPlain m) :
    (⟨Text.joinWith ['/'] (n :: names)⟩ : Path).components = innerComponents (n :: names) := by
  have hn := h n (by simp)
  have habs : (⟨Text.joinWith ['/'] (n :: names)⟩ : Path).isAbsolute = false := by
    cases names with
    | nil => exact isAbsolute_of_plain hn
    | cons next names =>
      rw [Text.joinWith_cons _ n (by simp), List.append_assoc, isAbsolute_append hn.1]
      exact isAbsolute_of_plain hn
  unfold components
  rw [Text.splitBy_joinWith (by rfl) (by simp) fun m hm => (h m hm).2.2.2]
  simp [habs, hn.2.1]

/-! ## Rendered names -/

theorem mem_stackSegments {names segments : List (List Char)}
    (hnames : ∀ n ∈ names, IsPlain n)
    (hsegments : ∀ s ∈ segments, ∀ c ∈ s, isSlash c = false) :
    ∀ n ∈ stackSegments names segments, IsPlain n := by
  induction segments generalizing names with
  | nil => simpa [stackSegments] using hnames
  | cons s segments ih =>
    have hrest : ∀ s ∈ segments, ∀ c ∈ s, isSlash c = false :=
      fun t ht => hsegments t (List.mem_cons_of_mem s ht)
    rw [stackSegments]
    split
    · exact ih hnames hrest
    · split
      · exact ih (fun n hn => hnames n (List.mem_of_mem_tail hn)) hrest
      · rename_i hsome hup
        rw [not_or] at hsome
        refine ih (fun n hn => ?_) hrest
        rcases List.mem_cons.1 hn with rfl | hn
        · exact ⟨hsome.1, hsome.2, hup, hsegments _ (by simp)⟩
        · exact hnames n hn

theorem isPlain_of_mem_renderedNames {rendered name : List Char}
    (h : name ∈ renderedNames rendered) : IsPlain name := by
  rw [renderedNames, List.mem_reverse] at h
  refine mem_stackSegments (by simp) (fun s hs c hc => ?_) name h
  have hnot := Text.not_sep_of_mem_splitBy hs c hc
  rw [isDivider, Bool.or_eq_false_iff] at hnot
  exact hnot.1

/-- A rendered name goes down from the directory, by its own names and no others. -/
theorem components_joinRendered (dir : Path) (rendered : String) :
    (dir.joinRendered rendered).components =
      dir.components ++ (renderedNames rendered.toList).map .name := by
  set names := renderedNames rendered.toList with hnames
  have hplain : ∀ n ∈ names, IsPlain n := fun n hn => isPlain_of_mem_renderedNames hn
  have hslash : ∀ n ∈ names, ∀ c ∈ n, isSlash c = false := fun n hn => (hplain n hn).2.2.2
  rw [joinRendered, ← hnames, ← innerComponents_of_plain hplain]
  cases hcases : names with
  | nil => simp [joinAll]
  | cons n rest =>
    rw [← hcases, joinAll_eq dir (by simp [hcases]) hplain]
    by_cases hdir : dir.chars = []
    · obtain rfl : dir = ⟨[]⟩ := by cases dir; simp_all
      rw [lead, if_pos (Or.inl rfl), List.nil_append, hcases,
        components_joinWith (hcases ▸ hplain)]
      rfl
    · rw [components_append (lead_of_ne_nil hdir), components_lead,
        splitBy_joinWith_slash hslash]

end Scaffold.Path

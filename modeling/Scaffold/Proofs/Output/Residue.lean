import Mathlib
import Scaffold.Proofs.Output.Extraction

/-!
# Markers that cutting leaves behind

All markers of a text are cut out, but then what stood around them comes together. So a marker is
left exactly where the letters of one stand apart, with nothing but whole markers between them.
-/

namespace Scaffold.WriteDirective

variable {as bs cs m p q w : List Char} {gaps : List (List Char)}

/-- A marker stands somewhere in the text. -/
def Marked (cs : List Char) : Prop :=
  ∃ m ∈ markers, m <:+: cs

/-- The letters of `m` in order, with whole markers between them, or nothing. -/
inductive Spread : List Char → List Char → Prop
  | last (c : Char) : Spread [c] [c]
  | next (c : Char) {gaps : List (List Char)} {m w : List Char} (hgaps : ∀ g ∈ gaps, g ∈ markers)
      (h : Spread m w) : Spread (c :: m) (c :: (gaps.flatten ++ w))

/-- Somewhere the letters of a marker stand apart. -/
def Torn (cs : List Char) : Prop :=
  ∃ m ∈ markers, ∃ w, Spread m w ∧ w ≠ m ∧ w <:+: cs

theorem marked_iff : Marked cs ↔ ∃ i, StartsMarked (cs.drop i) := by
  constructor
  · rintro ⟨m, hm, front, rest, rfl⟩
    refine ⟨front.length, m, hm, ?_⟩
    rw [List.append_assoc, List.drop_left]
    exact List.prefix_append m rest
  · rintro ⟨i, m, hm, hhead⟩
    exact ⟨m, hm, hhead.isInfix.trans (List.drop_suffix i cs).isInfix⟩

theorem first?_eq_none_iff : first? cs = none ↔ ¬Marked cs := by
  rw [marked_iff, not_exists]
  refine ⟨fun hnone i hi => ?_, fun h => (plain_of_unmarked h).1⟩
  rcases exists_leftmost cs with hfree | ⟨u, m, hm, rest, rfl, hbefore⟩
  · exact hfree i hi
  · rw [(pass_plain hbefore).1, first?_append_marker hm] at hnone
    simp at hnone

theorem extract_eq_self_iff (text : String) :
    extract text = (none, text) ↔ ¬Marked text.toList := by
  rw [extract, Prod.mk.injEq, first?_eq_none_iff]
  refine and_iff_left_of_imp fun hnone => ?_
  rw [withoutMarkers_of_first?_eq_none (first?_eq_none_iff.2 hnone), String.ofList_toList]

/-! ## Where markers meet a text -/

theorem ending_of_marker (hp : p ≠ []) (hq : q ≠ []) (h : p ++ q ∈ markers) :
    q ≠ ['!'] ∧ ¬['!', '!'] <+: q ∧ ('w' ∈ q ∨ 'W' ∈ q) := by
  have hall : ∀ m ∈ markers, ∀ q ∈ m.tail.tails, q ≠ [] →
      q ≠ ['!'] ∧ ¬['!', '!'] <+: q ∧ ('w' ∈ q ∨ 'W' ∈ q) := by
    decide
  obtain ⟨c, p, rfl⟩ := List.exists_cons_of_ne_nil hp
  exact hall _ h q ((List.mem_tails _ _).2 (List.suffix_append p q)) hq

theorem beginning_of_marker (hq : q ≠ []) (h : p ++ q ∈ markers) : 'w' ∉ p ∧ 'W' ∉ p := by
  have hall : ∀ m ∈ markers, ∀ p ∈ m.dropLast.inits, 'w' ∉ p ∧ 'W' ∉ p := by
    decide
  refine hall _ h p ((List.mem_inits _ _).2 ?_)
  rw [List.dropLast_append_of_ne_nil hq]
  exact List.prefix_append p _

/-- The end of a marker does not start like one. -/
theorem apart_of_bangs (as bs : List Char) : Apart as ('!' :: '!' :: bs) := by
  intro p q hp hq hpq _ hhead
  obtain ⟨hone, htwo, -⟩ := ending_of_marker hp hq hpq
  rcases q with _ | ⟨a, _ | ⟨b, q⟩⟩
  · exact hq rfl
  · simp_all
  · simp_all

/-- A marker ends with its letter. -/
theorem apart_of_open (as : List Char) (hw : 'w' ∉ bs) (hW : 'W' ∉ bs) : Apart as bs := by
  intro p q hp hq hpq _ hhead
  obtain ⟨-, -, hletter⟩ := ending_of_marker hp hq hpq
  rcases hletter with h | h
  · exact hw (hhead.subset h)
  · exact hW (hhead.subset h)

theorem withoutMarkers_of_open (hw : 'w' ∉ p) (hW : 'W' ∉ p) : withoutMarkers p = p := by
  apply withoutMarkers_of_first?_eq_none
  rw [first?_eq_none_iff]
  rintro ⟨m, hm, hinside⟩
  have hall : ∀ m ∈ markers, 'w' ∈ m ∨ 'W' ∈ m := by decide
  rcases hall m hm with h | h
  · exact hw (hinside.subset h)
  · exact hW (hinside.subset h)

/-! ## Letters that come together -/

theorem withoutMarkers_gaps_append (hgaps : ∀ g ∈ gaps, g ∈ markers) (bs : List Char) :
    withoutMarkers (gaps.flatten ++ bs) = withoutMarkers bs := by
  induction gaps with
  | nil => rfl
  | cons g gaps ih =>
    rw [List.flatten_cons, List.append_assoc, withoutMarkers_marker_append (hgaps g (by simp)),
      ih fun g' hg' => hgaps g' (List.mem_cons_of_mem g hg')]

/-- Markers keep what is before them apart from what is behind them. -/
theorem withoutMarkers_append_gaps (hgaps : ∀ g ∈ gaps, g ∈ markers) (hne : gaps ≠ [])
    (as bs : List Char) :
    withoutMarkers (as ++ (gaps.flatten ++ bs)) = withoutMarkers as ++ withoutMarkers bs := by
  have hapart : Apart as (gaps.flatten ++ bs) := by
    obtain ⟨g, gaps, rfl⟩ := List.exists_cons_of_ne_nil hne
    rw [List.flatten_cons, eq_bangs_of_marker (hgaps g (by simp))]
    exact apart_of_bangs as _
  rw [withoutMarkers_append_of_apart hapart, withoutMarkers_gaps_append hgaps]

theorem Spread.exists_cons (h : Spread m w) : ∃ c m' w', m = c :: m' ∧ w = c :: w' := by
  cases h with
  | last c => exact ⟨c, [], [], rfl, rfl⟩
  | next c => exact ⟨c, _, _, rfl, rfl⟩

/-- Letters that stand apart have markers between them in some place. -/
theorem Spread.exists_gap (h : Spread m w) (hne : w ≠ m) :
    ∃ p q w' gaps, m = p ++ q ∧ w = p ++ (gaps.flatten ++ w') ∧ p ≠ [] ∧ q ≠ [] ∧ gaps ≠ [] ∧
      (∀ g ∈ gaps, g ∈ markers) ∧ Spread q w' := by
  induction h with
  | last c => exact absurd rfl hne
  | @next c gaps m w hgaps h ih =>
    by_cases hnil : gaps = []
    · subst hnil
      obtain ⟨p, q, w', gaps, rfl, rfl, -, hrest⟩ := ih fun heq => hne (by simp [heq])
      exact ⟨c :: p, q, w', gaps, rfl, rfl, List.cons_ne_nil c p, hrest⟩
    · refine ⟨[c], m, w, gaps, rfl, rfl, List.cons_ne_nil c [], ?_, hnil, hgaps, h⟩
      rintro rfl
      cases h

/-- The end of a marker comes together. -/
theorem withoutMarkers_append_of_spread (h : Spread q w) (hp : p ≠ []) (hpq : p ++ q ∈ markers)
    (bs : List Char) : withoutMarkers (w ++ bs) = q ++ withoutMarkers bs := by
  induction h generalizing p with
  | last c =>
    have hc : c ≠ '!' := by
      rintro rfl
      exact (ending_of_marker hp (List.cons_ne_nil _ _) hpq).1 rfl
    exact withoutMarkers_cons_of_none (marker?_cons_of_ne hc bs)
  | @next c gaps m w hgaps h ih =>
    have hrest := ih (p := p ++ [c]) (by simp) (by simpa using hpq)
    by_cases hnil : gaps = []
    · have hnone : marker? (c :: (w ++ bs)) = none := by
        obtain ⟨-, hbangs, -⟩ := ending_of_marker hp (List.cons_ne_nil c m) hpq
        obtain ⟨d, m', w', rfl, rfl⟩ := h.exists_cons
        apply marker?_eq_none
        rintro ⟨x, hx, hhead⟩
        rw [eq_bangs_of_marker hx, List.cons_append] at hhead
        obtain ⟨rfl, hback⟩ := List.cons_prefix_cons.1 hhead
        obtain ⟨rfl, -⟩ := List.cons_prefix_cons.1 hback
        exact hbangs ⟨m', rfl⟩
      rw [hnil, List.flatten_nil, List.nil_append, List.cons_append,
        withoutMarkers_cons_of_none hnone, hrest, List.cons_append]
    · have hone : withoutMarkers [c] = [c] := withoutMarkers_cons_of_none (by simp [marker?])
      rw [List.cons_append, List.append_assoc, ← List.singleton_append,
        withoutMarkers_append_gaps hgaps hnil, hone, hrest]
      rfl

theorem marked_of_torn (h : Torn cs) : Marked (withoutMarkers cs) := by
  obtain ⟨m, hm, w, hspread, hne, front, rest, rfl⟩ := h
  obtain ⟨p, q, w', gaps, rfl, rfl, hp, hq, hgap, hgaps, hspread'⟩ := hspread.exists_gap hne
  obtain ⟨hw, hW⟩ := beginning_of_marker hq hm
  have hcut : withoutMarkers (front ++ (p ++ (gaps.flatten ++ w')) ++ rest) =
      withoutMarkers front ++ (p ++ q) ++ withoutMarkers rest := by
    calc
      _ = withoutMarkers ((front ++ p) ++ (gaps.flatten ++ (w' ++ rest))) := by
        simp only [List.append_assoc]
      _ = withoutMarkers (front ++ p) ++ withoutMarkers (w' ++ rest) :=
        withoutMarkers_append_gaps hgaps hgap _ _
      _ = (withoutMarkers front ++ p) ++ (q ++ withoutMarkers rest) := by
        rw [withoutMarkers_append_of_apart (apart_of_open front hw hW),
          withoutMarkers_of_open hw hW, withoutMarkers_append_of_spread hspread' hp hm]
      _ = _ := by simp only [List.append_assoc]
  rw [hcut]
  exact ⟨p ++ q, hm, _, _, rfl⟩

/-! ## Where a marker that is left comes from -/

/-- A letter that is left stood behind whole markers, or at the start. -/
theorem exists_gaps_of_cons {c : Char} {y : List Char} (h : withoutMarkers cs = c :: y) :
    ∃ (gaps : List (List Char)) (bs : List Char), (∀ g ∈ gaps, g ∈ markers) ∧
      cs = gaps.flatten ++ c :: bs ∧ ¬StartsMarked (c :: bs) ∧ withoutMarkers bs = y := by
  induction cs using cut_induction with
  | nil => simp [withoutMarkers] at h
  | marker m hm rest ih =>
    rw [withoutMarkers_marker_append hm] at h
    obtain ⟨gaps, bs, hgaps, rfl, hfree⟩ := ih h
    refine ⟨m :: gaps, bs, List.forall_mem_cons.2 ⟨hm, hgaps⟩, ?_, hfree⟩
    rw [List.flatten_cons, List.append_assoc]
  | letter d rest hnot _ =>
    rw [withoutMarkers_cons_of_none (marker?_eq_none hnot), List.cons_eq_cons] at h
    obtain ⟨rfl, hleft⟩ := h
    exact ⟨[], rest, by simp, rfl, hnot, hleft⟩

theorem exists_suffix_of_append {x y : List Char} (h : withoutMarkers cs = x ++ y) :
    ∃ bs, bs <:+ cs ∧ withoutMarkers bs = y := by
  induction x generalizing cs with
  | nil => exact ⟨cs, List.suffix_refl cs, h⟩
  | cons c x ih =>
    obtain ⟨gaps, rest, -, rfl, -, hleft⟩ := exists_gaps_of_cons h
    obtain ⟨bs, hsuffix, hbs⟩ := ih hleft
    exact ⟨bs, hsuffix.trans ((List.suffix_cons c rest).trans (List.suffix_append _ _)), hbs⟩

/-- Letters that come together stood apart, and not at the start of a marker. -/
theorem exists_spread_of_append {y : List Char} (hm : m ≠ []) (h : withoutMarkers cs = m ++ y) :
    ∃ (gaps : List (List Char)) (w bs : List Char), (∀ g ∈ gaps, g ∈ markers) ∧
      cs = gaps.flatten ++ (w ++ bs) ∧ Spread m w ∧ ¬StartsMarked (w ++ bs) := by
  induction m generalizing cs with
  | nil => exact absurd rfl hm
  | cons c m ih =>
    obtain ⟨gaps, rest, hgaps, rfl, hfree, hleft⟩ := exists_gaps_of_cons h
    by_cases hlast : m = []
    · subst hlast
      exact ⟨gaps, [c], rest, hgaps, rfl, .last c, hfree⟩
    · obtain ⟨gaps', w, bs, hgaps', rfl, hspread, -⟩ := ih hlast hleft
      refine ⟨gaps, c :: (gaps'.flatten ++ w), bs, hgaps, ?_, .next c hgaps' hspread, ?_⟩
      · simp only [List.cons_append, List.append_assoc]
      · simpa only [List.cons_append, List.append_assoc] using hfree

theorem torn_of_marked (h : Marked (withoutMarkers cs)) : Torn cs := by
  obtain ⟨m, hm, x, y, hxy⟩ := h
  rw [List.append_assoc] at hxy
  obtain ⟨bs, hsuffix, hbs⟩ := exists_suffix_of_append hxy.symm
  obtain ⟨gaps, w, rest, -, rfl, hspread, hfree⟩ :=
    exists_spread_of_append (ne_nil_of_marker hm) hbs
  refine ⟨m, hm, w, hspread, ?_, ?_⟩
  · -- a whole marker would have been cut out
    rintro rfl
    exact hfree ⟨w, hm, List.prefix_append w rest⟩
  · exact (List.infix_append' _ _ _).trans hsuffix.isInfix

/-- What is left of a text has no marker, and is what is left of itself, exactly if nowhere in the
text the letters of a marker stand apart with whole markers between them. -/
theorem extract_clean_iff (text : String) :
    let left := (extract text).2
    (¬Marked left.toList ↔ ¬Torn text.toList) ∧
      (extract left = (none, left) ↔ ¬Torn text.toList) := by
  intro left
  have hleft : left.toList = withoutMarkers text.toList := String.toList_ofList
  have hclean : ¬Marked left.toList ↔ ¬Torn text.toList := by
    rw [hleft]
    exact not_congr ⟨torn_of_marked, marked_of_torn⟩
  exact ⟨hclean, (extract_eq_self_iff left).trans hclean⟩

/-- The marker in the middle holds the letters of another one apart. -/
theorem extract_leaves_marker :
    extract "a!!!!ww.js" = (some .overwrite, "a!!w.js") ∧ Marked "a!!w.js".toList ∧
      extract "a!!w.js" = (some .overwrite, "a.js") := by
  refine ⟨by decide +kernel, ?_, by decide +kernel⟩
  exact ⟨"!!w".toList, by decide +kernel, "a".toList, ".js".toList, by decide +kernel⟩

end Scaffold.WriteDirective

import Mathlib
import Scaffold.Proofs.Mock.Account

/-!
# Rules of pages and the payloads they name

The rule of a page gives for each template reference a place without ending, worked out from the
reference. The payload of a template goes to a place that is worked out from the template. The two
are the same: a reference is the template's own path, or it has one more ending behind it, and of a
last segment only what stands before the first dot is kept.
-/

namespace Scaffold

namespace Mock

theorem takeWhile_append_dot (cs ext : List Char) :
    (cs ++ '.' :: ext).takeWhile (· ≠ '.') = cs.takeWhile (· ≠ '.') := by
  rw [List.takeWhile_append]
  split
  · rename_i hlength
    have hall : cs.takeWhile (· ≠ '.') = cs :=
      (List.takeWhile_prefix _).eq_of_length hlength
    rw [hall, List.takeWhile_cons_of_neg (by simp), List.append_nil]
  · rfl

/-- One more ending does not matter, as long as the last segment stays the last one. -/
theorem stripExtensionChars_append_dot (path : List Char) {ext : List Char} (h : '/' ∉ ext) :
    stripExtensionChars (path ++ '.' :: ext) = stripExtensionChars path := by
  have hending : ∀ c ∈ ('.' :: ext).reverse, (!isSlash c) = true := by
    intro c hc
    rcases List.mem_cons.1 (List.mem_reverse.1 hc) with rfl | hc
    · rfl
    · have hne : c ≠ '/' := fun heq => h (heq ▸ hc)
      simp [isSlash, hne]
  unfold stripExtensionChars
  rw [List.reverse_append, List.takeWhile_append_of_pos hending,
    List.dropWhile_append_of_pos hending, List.reverse_append, List.reverse_reverse]
  dsimp only
  rw [takeWhile_append_dot]

theorem stripExtension_of_refersTo {viewExt : String} {used u : PageTemplate}
    (hext : '/' ∉ viewExt.toList)
    (h : used.path = u.path ∨ used.path = u.path ++ "." ++ viewExt) :
    stripExtension used.path = stripExtension u.path := by
  rcases h with hsame | hlonger
  · rw [hsame]
  · have hchars : used.path.toList = u.path.toList ++ '.' :: viewExt.toList := by
      rw [hlonger, String.toList_append, String.toList_append, List.append_assoc]
      rfl
    rw [stripExtension, hchars, stripExtensionChars_append_dot _ hext, stripExtension]

end Mock

/-! ## Rules -/

namespace ViewRule

theorem get?_path_entry (used : PageTemplate) :
    (entry used).get? "path" = some (.str (Mock.stripExtension used.path)) := rfl

theorem ofPage_mem {pages : List Page} {p : Page} (hp : p ∈ pages) (hpath : p.path ≠ "")
    (htemplates : p.templates ≠ []) : ofPage p ∈ ofPages pages := by
  apply List.mem_map_of_mem
  apply List.mem_filter.2
  exact ⟨hp, by simp [applies, hpath, htemplates]⟩

end ViewRule

/-! ## Payloads -/

namespace Mock

theorem writeTemplates_append {m : Type → Type} [Monad m] [LawfulMonad m] (w : Setup m) (s : Spec)
    (root : Path) (us vs : List PageTemplate) (r : Report) :
    writeTemplates w s root (us ++ vs) r =
      writeTemplates w s root us r >>= writeTemplates w s root vs := by
  induction us generalizing r with
  | nil => exact (pure_bind _ _).symm
  | cons u us ih =>
    rw [List.cons_append, writeTemplates, writeTemplates]
    split
    · simp only [ih, bind_assoc]
    · exact ih r

/-- Among the files of templates are the payload and the filter of `u`, under the stem that
`place` gives below the root. -/
def PutUnder (s : Spec) (u : PageTemplate) (place : String) : Prop :=
  ∃ front back, s.templates = front ++ u :: back ∧
    ∀ {m : Type → Type} [Monad m] [LawfulMonad m] (w : Setup m) (root : Path) (r : Report),
      writeTemplates w s root s.templates r = do
        let r ← writeTemplates w s root front r
        let json ← templatePayload w s u
        let r ← writePair w (root.joinRendered place) json r
        writeTemplates w s root back r

theorem putUnder_stripExtension {s : Spec} {u : PageTemplate} (hu : u ∈ s.templates)
    (hshown : isShown s u = true) : PutUnder s u (stripExtension u.path) := by
  obtain ⟨front, back, hsplit⟩ := List.append_of_mem hu
  refine ⟨front, back, hsplit, fun w root r => ?_⟩
  rw [hsplit, writeTemplates_append]
  apply bind_congr
  intro r
  rw [writeTemplates, if_pos hshown]

/-- Where the extension of views has no slash, the rule of a page has an entry for each of its
references, in order, and for every template that the reference means, this names the place under
which the template's files are put. -/
theorem rules_name_template_payloads {s : Spec} {p : Page}
    (hext : '/' ∉ (s.info.viewExt.getD "").toList) (hp : p ∈ s.pages) (hpath : p.path ≠ "")
    (htemplates : p.templates ≠ []) :
    ViewRule.ofPage p ∈ ViewRule.ofPages s.pages ∧
      ∃ entries, (ViewRule.ofPage p).list = (Json.arr entries).compact ∧
        List.Forall₂ (fun used entry => ∃ place, entry.get? "path" = some (.str place) ∧
          ∀ u ∈ s.templates,
            used.path = u.path ∨ used.path = u.path ++ "." ++ s.info.viewExt.getD "" →
              place = stripExtension u.path ∧ PutUnder s u place) p.templates entries := by
  refine ⟨ViewRule.ofPage_mem hp hpath htemplates, p.templates.map ViewRule.entry, rfl, ?_⟩
  apply List.forall₂_map_right_iff.2
  apply List.forall₂_same.2
  intro used hused
  refine ⟨stripExtension used.path, ViewRule.get?_path_entry used, fun u hu hrefers => ?_⟩
  have hplace := stripExtension_of_refersTo hext hrefers
  have hshown : isShown s u = true := isShown_iff.2 ⟨p, hp, used, hused, hrefers⟩
  rw [hplace]
  exact ⟨rfl, putUnder_stripExtension hu hshown⟩

/-- Of a name with several dots, the first one counts on both sides. -/
theorem rule_names_dotted_payload :
    let u : PageTemplate := { id := 5, name := "Index", path := "a.b/index.tar" }
    let used : PageTemplate := { id := 5, path := "a.b/index.tar.ftl" }
    let p : Page := { id := 9, name := "home", path := "/home", templates := [used] }
    let s : Spec := { info := { viewExt := some "ftl" }, templates := [u], pages := [p] }
    '/' ∉ (s.info.viewExt.getD "").toList ∧ p ∈ s.pages ∧ p.path ≠ "" ∧ p.templates ≠ [] ∧
      PutUnder s u "a.b/index" := by
  intro u used p s
  have hext : '/' ∉ (s.info.viewExt.getD "").toList := by decide
  have hp : p ∈ s.pages := List.mem_singleton.2 rfl
  refine ⟨hext, hp, by decide, by decide, ?_⟩
  obtain ⟨-, entries, -, hentries⟩ := rules_name_template_payloads hext hp (by decide) (by decide)
  obtain ⟨entry, rest, ⟨place, -, hplace⟩, -, -⟩ := List.forall₂_cons_left_iff.1 hentries
  have hrefers : used.path = u.path ++ "." ++ s.info.viewExt.getD "" := by decide +kernel
  have hname : stripExtension u.path = "a.b/index" := by decide +kernel
  obtain ⟨heq, hput⟩ := hplace u (List.mem_singleton.2 rfl) (.inr hrefers)
  rwa [heq, hname] at hput

end Mock

end Scaffold

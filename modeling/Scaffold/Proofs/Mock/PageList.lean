import Mathlib
import Scaffold.Mock.Rules
import Scaffold.Proofs.Json.ReadBack
import Scaffold.Proofs.Spec.Decoded

/-!
# Lists of templates as text

The rule of a page holds the list of the page's templates as JSON text, and is itself printed as
JSON. What a reader of the rule gets out of that text are the templates' numbers and places again,
whatever characters the places have.
-/

namespace Scaffold

namespace Mock

variable {path place : List Char}

/-- `place` is `path` without what begins at the first dot of its last segment. -/
def Stripped (path place : List Char) : Prop :=
  ∃ front name ending, path = front ++ (name ++ ending) ∧ place = front ++ name ∧
    (∀ c ∈ front.getLast?, c = '/') ∧ '/' ∉ name ++ ending ∧ '.' ∉ name ∧
    ∀ c ∈ ending.head?, c = '.'

theorem not_mem_takeWhile_ne (c : Char) (cs : List Char) : c ∉ cs.takeWhile (· ≠ c) := by
  intro hc
  simpa using List.mem_takeWhile_imp hc

theorem eq_of_mem_head?_dropWhile_ne {c d : Char} {cs : List Char}
    (h : d ∈ (cs.dropWhile (· ≠ c)).head?) : d = c := by
  have hhead := List.head?_dropWhile_not (fun e => decide (e ≠ c)) cs
  rw [Option.mem_def.1 h] at hhead
  simpa using hhead

/-- Up to the first character that is not wanted, if there is one. -/
theorem takeWhile_append_of_head {p : Char → Bool} {as bs : List Char}
    (has : ∀ c ∈ as, p c = true) (hbs : ∀ c ∈ bs.head?, p c = false) :
    (as ++ bs).takeWhile p = as ∧ (as ++ bs).dropWhile p = bs := by
  rw [List.takeWhile_append_of_pos has, List.dropWhile_append_of_pos has]
  cases bs with
  | nil => exact ⟨List.append_nil as, rfl⟩
  | cons c bs =>
    have hc : ¬ p c = true := by simp [hbs c (by simp)]
    rw [List.takeWhile_cons_of_neg hc, List.dropWhile_cons_of_neg hc, List.append_nil]
    exact ⟨rfl, rfl⟩

theorem stripExtensionChars_append {front name ending : List Char}
    (hfront : ∀ c ∈ front.getLast?, c = '/') (hlast : '/' ∉ name ++ ending) (hname : '.' ∉ name)
    (hending : ∀ c ∈ ending.head?, c = '.') :
    stripExtensionChars (front ++ (name ++ ending)) = front ++ name := by
  obtain ⟨htake, hdrop⟩ : ((name ++ ending).reverse ++ front.reverse).takeWhile
        (fun c => !isSlash c) = (name ++ ending).reverse ∧
      ((name ++ ending).reverse ++ front.reverse).dropWhile (fun c => !isSlash c) =
        front.reverse := by
    apply takeWhile_append_of_head
    · intro c hc
      have hne : c ≠ '/' := fun heq => hlast (heq ▸ List.mem_reverse.1 hc)
      simp [isSlash, hne]
    · intro c hc
      rw [List.head?_reverse] at hc
      simp [isSlash, hfront c hc]
  obtain ⟨hkept, -⟩ : (name ++ ending).takeWhile (· ≠ '.') = name ∧
      (name ++ ending).dropWhile (· ≠ '.') = ending := by
    apply takeWhile_append_of_head
    · intro c hc
      have hne : c ≠ '.' := fun heq => hname (heq ▸ hc)
      simp [hne]
    · intro c hc
      simp [hending c hc]
  rw [stripExtensionChars, List.reverse_append, htake, hdrop, List.reverse_reverse,
    List.reverse_reverse, hkept]

/-- Every path can be cut in one way. -/
theorem stripped_iff : Stripped path place ↔ place = stripExtensionChars path := by
  constructor
  · rintro ⟨front, name, ending, rfl, rfl, hfront, hlast, hname, hending⟩
    exact (stripExtensionChars_append hfront hlast hname hending).symm
  · rintro rfl
    let last := (path.reverse.takeWhile (· ≠ '/')).reverse
    let front := (path.reverse.dropWhile (· ≠ '/')).reverse
    have hsplit : path = front ++ last := by
      rw [← List.reverse_append, List.takeWhile_append_dropWhile, List.reverse_reverse]
    have hlast : last.takeWhile (· ≠ '.') ++ last.dropWhile (· ≠ '.') = last :=
      List.takeWhile_append_dropWhile
    have hfront : ∀ c ∈ front.getLast?, c = '/' := by
      intro c hc
      rw [List.getLast?_reverse] at hc
      exact eq_of_mem_head?_dropWhile_ne hc
    have hslash : '/' ∉ last.takeWhile (· ≠ '.') ++ last.dropWhile (· ≠ '.') := by
      rw [hlast, List.mem_reverse]
      exact not_mem_takeWhile_ne '/' _
    have hname := not_mem_takeWhile_ne '.' last
    have hending : ∀ c ∈ (last.dropWhile (· ≠ '.')).head?, c = '.' :=
      fun c hc => eq_of_mem_head?_dropWhile_ne hc
    have hpath : path = front ++ (last.takeWhile (· ≠ '.') ++ last.dropWhile (· ≠ '.')) := by
      rw [hlast]
      exact hsplit
    refine ⟨front, _, _, hpath, ?_, hfront, hslash, hname, hending⟩
    conv_lhs => rw [hpath]
    exact stripExtensionChars_append hfront hslash hname hending

theorem stripped_stripExtension (path : String) :
    Stripped path.toList (stripExtension path).toList := by
  apply stripped_iff.2
  rw [stripExtension, String.toList_ofList]

end Mock

namespace ViewRule

theorem entry_eq (t : PageTemplate) :
    entry t = .obj [("id", Json.int t.id), ("path", .str (Mock.stripExtension t.path))] := rfl

theorem readsBack_entry {t : PageTemplate} (h : Decoder.InRange t.id) : (entry t).ReadsBack := by
  have hid : (Json.int t.id).ReadsBack := by
    obtain ⟨hlow, hhigh⟩ := h
    constructor
    · exact hlow
    · omega
  have hsorted := Members.sorted_ofList
    [("id", Json.int t.id), ("path", .str (Mock.stripExtension t.path))]
  rw [entry_eq]
  exact ⟨hsorted, hid, trivial, trivial⟩

theorem heightItems_entries (ts : List PageTemplate) : Json.heightItems (ts.map entry) ≤ 1 := by
  induction ts with
  | nil => exact Nat.zero_le 1
  | cons t ts ih =>
    rw [List.map_cons, Json.heightItems]
    exact max_le le_rfl ih

theorem parse?_list_ofPage {p : Page} (h : ∀ t ∈ p.templates, Decoder.InRange t.id) :
    Json.parse? (ofPage p).list = some (.arr (p.templates.map entry)) := by
  apply Json.parse?_compact_of_readsBack
  · apply Json.itemsReadBack_iff.2
    intro v hv
    obtain ⟨t, ht, rfl⟩ := List.mem_map.1 hv
    exact readsBack_entry (h t ht)
  · rw [Json.height]
    have hitems := heightItems_entries p.templates
    unfold Json.depthLimit
    omega

/-- Pages with a path and templates have a rule each, in order. What is read from its list are the
numbers of the page's templates and their paths without extension, in order. -/
theorem lists_read_back {pages : List Page}
    (h : ∀ p ∈ pages, ∀ t ∈ p.templates, Decoder.InRange t.id) :
    List.Forall₂
      (fun p rule => rule.method = "GET" ∧ rule.path = p.path ∧ rule.name = p.name ∧
        (∀ t ∈ p.templates, Mock.Stripped t.path.toList (Mock.stripExtension t.path).toList) ∧
        Json.parse? rule.list = some (.arr (p.templates.map fun t =>
          .obj [("id", Json.int t.id), ("path", .str (Mock.stripExtension t.path))])))
      (pages.filter fun p => p.path ≠ "" ∧ p.templates ≠ []) (ofPages pages) := by
  have happlies : applies = fun p => decide (p.path ≠ "" ∧ p.templates ≠ []) := by
    funext p
    rw [applies, Bool.decide_and]
    cases p.templates <;> rfl
  rw [ofPages, happlies]
  apply List.forall₂_map_right_iff.2
  apply List.forall₂_same.2
  intro p hp
  have hlist := parse?_list_ofPage (h p (List.mem_filter.1 hp).1)
  exact ⟨rfl, rfl, rfl, fun t _ => Mock.stripped_stripExtension t.path, hlist⟩

/-- Quotes, backslashes, control characters and dots of directories, and the largest numbers. -/
theorem lists_read_back_escaped :
    let page : Page := { path := "/home", templates :=
      [{ id := 2 ^ 63 - 1, path := "a \"b\"\\c/\u0001\t\u007f.tar.ftl" },
        { id := -2 ^ 63, path := "d.e/é𝕏" }] }
    (∀ p ∈ [page], ∀ t ∈ p.templates, Decoder.InRange t.id) ∧
      ∃ rule, ofPages [page] = [rule] ∧ Json.parse? rule.list = some (.arr
        [.obj [("id", Json.int (2 ^ 63 - 1)), ("path", .str "a \"b\"\\c/\u0001\t\u007f")],
          .obj [("id", Json.int (-2 ^ 63)), ("path", .str "d.e/é𝕏")]]) := by
  intro page
  have hids : ∀ p ∈ [page], ∀ t ∈ p.templates, Decoder.InRange t.id := by
    simp [page, Decoder.InRange]
  refine ⟨hids, ofPage page, rfl, ?_⟩
  have hrules := lists_read_back hids
  rw [show ofPages [page] = [ofPage page] from rfl, List.filter_cons_of_pos (by simp [page]),
    List.filter_nil] at hrules
  obtain ⟨⟨-, -, -, -, hlist⟩, -⟩ := List.forall₂_cons.1 hrules
  rw [hlist]
  have hlong : Mock.stripExtension "a \"b\"\\c/\u0001\t\u007f.tar.ftl" =
      "a \"b\"\\c/\u0001\t\u007f" := by
    decide +kernel
  have hshort : Mock.stripExtension "d.e/é𝕏" = "d.e/é𝕏" := by decide +kernel
  simp only [page, List.map_cons, List.map_nil, hlong, hshort]

end ViewRule

end Scaffold

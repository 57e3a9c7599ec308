import Mathlib
import Scaffold.Proofs.Json.Member
import Scaffold.Proofs.Path.Rendered
import Scaffold.Proofs.Walk.Scan

/-!
# Roots as templates see them

Templates see a root as a text between slashes, taken from the output on. Put behind the output as
a rendered name, that text leads to the root again, since a scan only ever goes down from the
output by segments that rendering leaves as they are.
-/

namespace Scaffold

/-! ## Paths further down -/

namespace Path

variable {root p : Path}

theorem afterComponents?_append (front back : List Component) :
    afterComponents? front (front ++ back) = some back := by
  induction front with
  | nil => rfl
  | cons c front ih =>
    rw [List.cons_append, afterComponents?, if_pos rfl]
    exact ih

theorem names_map_name (ns : List (List Char)) : names (ns.map .name) = ns := by
  induction ns with
  | nil => rfl
  | cons n ns ih => exact congrArg (n :: ·) ih

theorem relativeTo?_of_components {ns : List (List Char)}
    (h : p.components = root.components ++ ns.map .name) :
    root.relativeTo? p = some (Text.joinWith ['/'] ns) := by
  rw [relativeTo?, h, afterComponents?_append, Option.map_some, names_map_name]

theorem joinWith_eq_nil_iff {ns : List (List Char)} (h : ∀ n ∈ ns, IsSegment n) :
    Text.joinWith ['/'] ns = [] ↔ ns = [] := by
  constructor
  · intro hjoin
    by_contra hne
    have hsplit := Text.splitBy_joinWith (show isDivider '/' = true by rfl) hne fun n hn =>
      (h n hn).solid
    rw [hjoin, Text.splitBy] at hsplit
    exact (h [] (by simp [← hsplit])).plain.1 rfl
  · rintro rfl
    rfl

end Path

/-! ## Directories of a scan -/

namespace Scanned

variable {σ : Type} {render : String → StateM σ (Option String)} {log : LogEvent → StateM σ Unit}
  {root : Path} {d : Scanned}

mutual

theorem extends_of_mem_gatherNode {place : List Nat} {dir : Path} (h : Path.Extends root dir)
    {t : σ} : ∀ {n : DocNode}, d ∈ ((gatherNode render log place dir n).run t).1 →
      Path.Extends root d.path
  | .file _, hd => by
    rw [gatherNode] at hd
    exact absurd hd List.not_mem_nil
  | .directory id name children, hd => by
    rw [gatherNode] at hd
    rcases hrendered : (render name).run t with ⟨rendered, t'⟩
    simp only [StateT.run_bind, hrendered] at hd
    cases rendered with
    | none => exact absurd hd List.not_mem_nil
    | some rendered =>
      have hdir := h.joinRendered rendered
      rcases List.mem_cons.1 hd with rfl | hd
      · exact hdir
      · exact extends_of_mem_gather hdir hd

theorem extends_of_mem_gather {place : List Nat} {i : Nat} {dir : Path}
    (h : Path.Extends root dir) {t : σ} : ∀ {ns : List DocNode},
      d ∈ ((gather render log place i dir ns).run t).1 → Path.Extends root d.path
  | [], hd => by
    rw [gather] at hd
    exact absurd hd List.not_mem_nil
  | n :: ns, hd => by
    rw [gather] at hd
    rcases List.mem_append.1 hd with hd | hd
    · exact extends_of_mem_gatherNode h hd
    · exact extends_of_mem_gather h hd

end

end Scanned

namespace Role

/-- The name under which templates see the root of a role. -/
def key : Role → String
  | web => "webRoot"
  | view => "viewRoot"
  | mockApi => "mockApiRoot"
  | mockView => "mockViewRoot"

end Role

namespace StructuralRoots

variable {σ : Type} {output p : Path}

theorem extends_of_root {docs : List DocNode} {attributes : Option SpecAttributes}
    {render : String → StateM σ (Option String)} {log : LogEvent → StateM σ Unit} {t : σ}
    {role : Role}
    (h : ((discover docs attributes output render log).run t).1.root role = some p) :
    output.Extends p := by
  cases attributes with
  | none =>
    have hnone : ({} : StructuralRoots).root role = some p := h
    simp [root_empty] at hnone
  | some a =>
    rw [Scanned.run_discover] at h
    rcases Scanned.root_foldl a _ {} role p h with ⟨d, hd, -, rfl⟩ | hnone
    · exact Scanned.extends_of_mem_gather (.refl output) hd
    · simp [root_empty] at hnone

/-! ## Keys -/

theorem insertAll_append (ms : Members) (xs ys : List (String × Json)) :
    ms.insertAll (xs ++ ys) = (ms.insertAll xs).insertAll ys := by
  induction xs generalizing ms with
  | nil => rfl
  | cons x xs ih => exact ih (ms.insert x.1 x.2)

/-- What is put in for a value that may be there. -/
theorem find?_insertAll_toList (f key : String) (text : Option String) (ms : Members) :
    (ms.insertAll (text.toList.map fun t => (key, .str t))).find? f =
      if key = f then (text.map .str).or (ms.find? f) else ms.find? f := by
  cases text with
  | none => simp [Members.insertAll]
  | some t => simp [Members.insertAll, Members.find?_insert]

theorem get?_configValue (r : StructuralRoots) (output : Path) (role : Role) :
    (r.configValue output).get? role.key = (relativeText? output (r.root role)).map .str := by
  have hget : ∀ entries, (Json.object entries).get? role.key =
      (Members.insertAll [] entries).find? role.key := fun _ => rfl
  unfold configValue
  rw [hget, insertAll_append, insertAll_append, insertAll_append]
  simp only [find?_insertAll_toList]
  cases role <;> simp [Role.key, root, Members.find?]

/-! ## Texts -/

/-- A root below the output is seen as a text between slashes, and rendered as that text. -/
theorem relativeText?_of_extends (h : output.Extends p) :
    ∃ text : String, relativeText? output (some p) = some text ∧
      text.toList.head? = some '/' ∧ text.toList.getLast? = some '/' ∧
        (output.joinRendered text).components = p.components := by
  obtain ⟨names, hnames, hp⟩ := h
  have hrelative := Path.relativeTo?_of_components hp
  rw [relativeText?, Option.bind_some, hrelative, Option.map_some]
  by_cases hempty : names = []
  · subst hempty
    refine ⟨"/", rfl, rfl, rfl, ?_⟩
    rw [Path.components_joinRendered, hp]
    rfl
  · have hchars : ("/" ++ String.ofList (Text.joinWith ['/'] names) ++ "/").toList =
        '/' :: (Text.joinWith ['/'] names ++ ['/']) := by
      simp
    refine ⟨_, by rw [if_neg fun hnil => hempty ((Path.joinWith_eq_nil_iff hnames).1 hnil)], ?_, ?_,
      ?_⟩
    · rw [hchars, List.head?_cons]
    · rw [hchars, ← List.cons_append, List.getLast?_concat]
    · rw [Path.components_joinRendered, hchars, Path.renderedNames_between hnames, hp]

/-- Whatever names render to, templates see just the roots that were found, each as a text between
slashes, and that text put behind the output leads to the root. -/
theorem config_leads_to_roots (docs : List DocNode) (attributes : Option SpecAttributes)
    (output : Path) (render : String → StateM σ (Option String)) (log : LogEvent → StateM σ Unit)
    (t : σ) (role : Role) :
    let roots := ((discover docs attributes output render log).run t).1
    let config := roots.configValue output
    ((config.get? role.key).isSome = true ↔ (roots.root role).isSome = true) ∧
      ∀ p, roots.root role = some p →
        ∃ text : String, config.get? role.key = some (.str text) ∧
          text.toList.head? = some '/' ∧ text.toList.getLast? = some '/' ∧
            (output.joinRendered text).same p = true := by
  intro roots config
  have hget := get?_configValue roots output role
  cases hroot : roots.root role with
  | none =>
    rw [hroot] at hget
    constructor
    · rw [hget]
      rfl
    · exact fun _ hp => nomatch hp
  | some q =>
    obtain ⟨text, htext, hfirst, hlast, hcomponents⟩ :=
      relativeText?_of_extends (extends_of_root hroot)
    rw [hroot, htext] at hget
    constructor
    · rw [hget]
      simp
    · rintro p hp
      obtain rfl := Option.some.inj hp
      refine ⟨text, hget, hfirst, hlast, ?_⟩
      rw [Path.same, hcomponents]
      exact beq_self_eq_true _

end StructuralRoots

end Scaffold

import Mathlib
import Scaffold.Proofs.Json.WellFormed
import Scaffold.Yaml.Data

/-!
# Documents give well-formed values

The data of a document is well-formed: numbers that are not finite become `null`, and mappings
put their members in order.
-/

namespace Scaffold

theorem Json.wellFormed_ofDouble (x : Double) : (Json.ofDouble x).WellFormed := by
  unfold Json.ofDouble
  split
  · rename_i hfinite
    have hexponent : x.exponentField ≠ 2047 := by
      simpa [Double.isFinite] using hfinite
    exact Double.isNaN_eq_false_iff.2 fun h => absurd h hexponent
  · trivial

namespace Yaml

theorem wellFormed_of_intData? {cs : List Char} {v : Json} (h : intData? cs = some (some v)) :
    v.WellFormed := by
  unfold intData? at h
  split at h
  · simp at h
  · split_ifs at h
    · obtain rfl := Option.some.inj (Option.some.inj h)
      trivial
    · simp at h

theorem wellFormed_of_plainData? {cs : List Char} {v : Json} (h : plainData? cs = some v) :
    v.WellFormed := by
  unfold plainData? at h
  split at h
  · obtain rfl := Option.some.inj h
    trivial
  · split at h
    · obtain rfl := Option.some.inj h
      trivial
    · split at h
      · rename_i w hint
        subst h
        exact wellFormed_of_intData? hint
      · split at h
        · obtain rfl := Option.some.inj h
          exact Json.wellFormed_ofDouble _
        · obtain rfl := Option.some.inj h
          trivial

theorem wellFormed_of_taggedData? {tag cs : List Char} {v : Json}
    (h : taggedData? tag cs = some v) : v.WellFormed := by
  unfold taggedData? at h
  split_ifs at h
  · obtain ⟨b, -, rfl⟩ := Option.map_eq_some_iff.1 h
    trivial
  · obtain ⟨w, hint, rfl⟩ := Option.bind_eq_some_iff.1 h
    exact wellFormed_of_intData? hint
  · obtain ⟨x, -, rfl⟩ := Option.map_eq_some_iff.1 h
    exact Json.wellFormed_ofDouble x
  · obtain rfl := Option.some.inj h
    trivial
  · obtain rfl := Option.some.inj h
    trivial

theorem wellFormed_of_scalarData? {tag : Option (List Char)} {cs : List Char}
    {style : ScalarStyle} {v : Json} (h : scalarData? tag cs style = some v) : v.WellFormed := by
  unfold scalarData? at h
  split at h
  · simp at h
  · split at h
    · exact wellFormed_of_taggedData? h
    · split at h
      · exact wellFormed_of_plainData? h
      · obtain rfl := Option.some.inj h
        trivial

namespace Document

variable {α β : Type} {P : α → Prop} {Q : β → Prop}

/-- Whatever is read satisfies `P`. -/
def Yields (P : α → Prop) (r : Reading α) : Prop :=
  ∀ n a n', r n = some (a, n') → P a

theorem Yields.pure {a : α} (h : P a) : Yields P (pure a) := by
  intro n b n' hb
  cases hb
  exact h

theorem Yields.fail : Yields P fail := by
  intro n a n' h
  cases h

theorem Yields.bind {r : Reading α} {f : α → Reading β} (hr : Yields P r)
    (hf : ∀ a, P a → Yields Q (f a)) : Yields Q (r >>= f) := by
  intro n b n' h
  obtain ⟨⟨a, m⟩, ha, hb⟩ := Option.bind_eq_some_iff.1 h
  exact hf a (hr n a m ha) m b n' hb

theorem yields_true (r : Reading α) : Yields (fun _ => True) r :=
  fun _ _ _ _ => trivial

theorem yields_ofOption {o : Option α} (h : ∀ a ∈ o, P a) : Yields P (ofOption o) := by
  intro n a n' ha
  obtain ⟨b, hb, heq⟩ := Option.map_eq_some_iff.1 ha
  cases heq
  exact h _ hb

variable {value : Node → Reading Json}

theorem yields_values (hvalue : ∀ node, Yields Json.WellFormed (value node))
    (nodes : List Node) :
    Yields (fun vs => ∀ v ∈ vs, v.WellFormed) (values value nodes) := by
  induction nodes with
  | nil => exact .pure (by simp)
  | cons node nodes ih =>
    refine (hvalue node).bind fun v hv => ih.bind fun vs hvs => .pure ?_
    intro w hw
    rcases List.mem_cons.1 hw with rfl | hw
    · exact hv
    · exact hvs w hw

theorem yields_members (d : Document) (hvalue : ∀ node, Yields Json.WellFormed (value node))
    (entries : List (Node × Node)) {ms : Members} (hms : (Json.obj ms).WellFormed) :
    Yields (fun ns => (Json.obj ns).WellFormed) (d.members value entries ms) := by
  induction entries generalizing ms with
  | nil => exact .pure hms
  | cons entry entries ih =>
    obtain ⟨k, node⟩ := entry
    refine (yields_true (d.text k)).bind fun key _ => (hvalue node).bind fun v hv => ih ?_
    obtain ⟨hsorted, hwell⟩ := Json.wellFormed_obj_iff.1 hms
    refine Json.wellFormed_obj_iff.2 ⟨hsorted.insert, fun m hm => ?_⟩
    rcases Members.mem_insert hm with rfl | hm
    · exact hv
    · exact hwell m hm

theorem yields_data (d : Document) (levels : Nat) (node : Node) :
    Yields Json.WellFormed (d.data levels node) := by
  induction levels generalizing node with
  | zero =>
    rw [data]
    refine (yields_true (d.follow node)).bind fun target _ => ?_
    split
    · exact yields_ofOption fun v hv => wellFormed_of_scalarData? hv
    · exact .fail
  | succ levels ih =>
    rw [data]
    refine (yields_true (d.follow node)).bind fun target _ => ?_
    split
    · exact yields_ofOption fun v hv => wellFormed_of_scalarData? hv
    · split
      · exact .fail
      · exact (yields_values ih _).bind fun vs hvs => .pure (Json.wellFormed_arr_iff.2 hvs)
    · split
      · exact .fail
      · have hnone : (Json.obj []).WellFormed := ⟨Members.sorted_nil, trivial⟩
        exact (yields_members d ih _ hnone).bind fun ms hms => .pure hms
    · exact .fail

end Document

theorem wellFormed_of_parse? {text : String} {v : Json} (h : parse? text = some v) :
    v.WellFormed := by
  unfold parse? at h
  split at h
  · simp at h
  · obtain rfl := Option.some.inj h
    trivial
  · rename_i d _
    obtain ⟨⟨w, n⟩, hread, rfl⟩ := Option.map_eq_some_iff.1 h
    exact d.yields_data Document.maxDepth d.root 0 w n hread

end Yaml

end Scaffold

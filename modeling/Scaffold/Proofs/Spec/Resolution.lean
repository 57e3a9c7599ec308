import Mathlib
import Scaffold.Mock.Synthesis
import Scaffold.Proofs.Spec.Normalization

/-!
# Types of parameters

The type of a parameter is looked up in two places: where the fields of a data type are derived,
and where a payload is synthesized. Both find the last entry of the catalog with the number that
the parameter gives, and what they make of it depends on that entry alone.
-/

namespace Scaffold

/-- The entry of a catalog that a parameter refers to: of several with its type number the last. -/
def Param.RefersTo (catalog : List DataType) (p : Param) (d : DataType) : Prop :=
  ∃ before after, catalog = before ++ d :: after ∧ p.typeId = some d.id ∧ ∀ e ∈ after, e.id ≠ d.id

/-- The entry that is found for a parameter. -/
def Param.type? (catalog : List DataType) (p : Param) : Option DataType :=
  p.typeId.bind (lastWithId? catalog)

section Catalog

variable {catalog : List DataType} {p : Param} {d : DataType} {id : Int}

theorem lastWithId?_eq_some_iff :
    lastWithId? catalog id = some d ↔
      ∃ before after, catalog = before ++ d :: after ∧ d.id = id ∧ ∀ e ∈ after, e.id ≠ id := by
  unfold lastWithId?
  rw [List.find?_eq_some_iff_append]
  constructor
  · rintro ⟨hid, after, before, hsplit, hafter⟩
    refine ⟨before.reverse, after.reverse, ?_, by simpa using hid, fun e he => ?_⟩
    · rw [← List.reverse_reverse catalog, hsplit]
      simp
    · simpa using hafter e (List.mem_reverse.1 he)
  · rintro ⟨before, after, rfl, hid, hafter⟩
    refine ⟨by simpa using hid, after.reverse, before.reverse, by simp, fun e he => ?_⟩
    simpa using hafter e (List.mem_reverse.1 he)

theorem lastWithId?_eq_none_iff : lastWithId? catalog id = none ↔ ∀ d ∈ catalog, d.id ≠ id := by
  simp [lastWithId?]

theorem lastWithId?_map {f : DataType → DataType} (hid : ∀ d, (f d).id = d.id) :
    lastWithId? (catalog.map f) id = (lastWithId? catalog id).map f := by
  unfold lastWithId?
  rw [← List.map_reverse, List.find?_map]
  simp only [Function.comp_def, hid]

theorem Param.type?_eq_some_iff : p.type? catalog = some d ↔ p.RefersTo catalog d := by
  unfold Param.type? Param.RefersTo
  rw [Option.bind_eq_some_iff]
  constructor
  · rintro ⟨id, hp, hlast⟩
    obtain ⟨before, after, hsplit, rfl, hafter⟩ := lastWithId?_eq_some_iff.1 hlast
    exact ⟨before, after, hsplit, hp, hafter⟩
  · rintro ⟨before, after, hsplit, hp, hafter⟩
    exact ⟨d.id, hp, lastWithId?_eq_some_iff.2 ⟨before, after, hsplit, rfl, hafter⟩⟩

theorem Param.type?_eq_none_iff : p.type? catalog = none ↔ ∀ d ∈ catalog, p.typeId ≠ some d.id := by
  unfold Param.type?
  cases p.typeId with
  | none => simp
  | some id =>
    rw [Option.bind_some, lastWithId?_eq_none_iff]
    simp only [ne_eq, Option.some.injEq, eq_comm]

theorem Param.type?_withFields (all : List DataType) :
    p.type? (catalog.map (DataType.withFields all)) =
      (p.type? catalog).map (DataType.withFields all) := by
  unfold Param.type?
  cases p.typeId with
  | none => rfl
  | some id => exact lastWithId?_map fun _ => rfl

end Catalog

namespace Mock

variable {catalog : List DataType}

/-- Of a data type only its format and its members count. -/
theorem typeValue_eq (levels : Nat) (d : DataType) :
    typeValue catalog levels d =
      typeValue catalog levels { format := d.format, params := d.params } := by
  cases levels <;> rfl

theorem typeValue_zero_errors (d : DataType) : (typeValue catalog 0 d).2 = [] := rfl

theorem singleValue_of_no_default {p : Param} (hdefault : usableDefault? p = none)
    (value : DataType → Sample) :
    singleValue value catalog p =
      match p.type? catalog with
      | some d => value d
      | none => (.null, [untyped p]) := by
  unfold singleValue Param.type?
  rw [hdefault]
  cases p.typeId.bind (lastWithId? catalog) <;> rfl

/-- The payload of one parameter has one member. -/
theorem synthesize_singleton (depth : Nat) (p : Param) :
    synthesize depth Format.hash [p] catalog =
      let sample := singleValue (typeValue catalog depth) catalog p
      { json := .obj [(p.name, if p.isArray then .arr [sample.1] else sample.1)]
        errors := sample.2 } := by
  have hformat : ¬ Format.hash = Format.array := by decide
  simp [synthesize, payload, hformat, objectValue, paramMembers, paramValue, Members.insert]

/-- What a field tells of a parameter's type, and what a payload is made of. -/
structure ResolvesAlike (catalog : List DataType) (p : Param) (f : Field) : Prop where
  isSome_format_iff : f.format.isSome = true ↔ ∃ d ∈ catalog, p.typeId = some d.id
  format_eq_some_iff : ∀ n, f.format = some n ↔ ∃ d, p.RefersTo catalog d ∧ d.format = n
  typeName_eq : ∀ d, p.RefersTo catalog d → f.typeName = d.name
  complains_iff : usableDefault? p = none →
    ((synthesize 0 Format.hash [p] catalog).errors ≠ [] ↔ f.format = none)
  /-- Only the format and the members of the entry count. -/
  synthesize_eq : usableDefault? p = none → ∀ d, p.RefersTo catalog d → ∀ depth,
    synthesize depth Format.hash [p] catalog =
      let sample := typeValue catalog depth { format := d.format, params := d.params }
      { json := .obj [(p.name, if p.isArray then .arr [sample.1] else sample.1)]
        errors := sample.2 }

theorem resolvesAlike_of_type? {p : Param} {f : Field}
    (hformat : f.format = (p.type? catalog).map (·.format))
    (hname : ∀ d, p.type? catalog = some d → f.typeName = d.name) : ResolvesAlike catalog p f where
  isSome_format_iff := by
    rw [hformat, Option.isSome_map, ← Option.ne_none_iff_isSome, ne_eq, Param.type?_eq_none_iff]
    simp
  format_eq_some_iff n := by
    rw [hformat, Option.map_eq_some_iff]
    simp only [Param.type?_eq_some_iff]
  typeName_eq d hd := hname d (Param.type?_eq_some_iff.2 hd)
  complains_iff hdefault := by
    rw [hformat, synthesize_singleton, singleValue_of_no_default hdefault]
    cases p.type? catalog with
    | none => simp
    | some d => simp [typeValue_zero_errors]
  synthesize_eq hdefault d hd depth := by
    rw [synthesize_singleton, singleValue_of_no_default hdefault, Param.type?_eq_some_iff.2 hd,
      ← typeValue_eq]

end Mock

namespace Spec

variable {raw : Json} {s : Spec}

theorem exists_export_of_ofExport (h : ofExport raw = .ok s) :
    ∃ e info docs, RawExport.decode raw = .ok e ∧ s = ofParts raw e info docs := by
  unfold ofExport at h
  cases he : RawExport.decode raw with
  | error cause => simp [he] at h
  | ok e =>
    rw [he] at h
    cases hspecs : e.specs with
    | nil => simp [hspecs] at h
    | cons first rest =>
      simp only [hspecs] at h
      cases hdocs : DocNode.ofRawAll first.docs with
      | error cause => simp [hdocs] at h
      | ok docs =>
        simp only [hdocs, Except.ok.injEq] at h
        exact ⟨e, first.info, docs, rfl, h.symm⟩

/-- The fields of a data type and the payloads of its parameters go by the same entries of the
catalog, and the lists of user types and of enumerations are the parts of the catalog that they
name. -/
theorem ofExport_resolves_alike (h : ofExport raw = .ok s) :
    (∀ t ∈ s.typeCatalog, t.fields.length = t.params.length ∧
      ∀ (i : Nat) (p : Param), t.params[i]? = some p →
        ∃ f, t.fields[i]? = some f ∧ Mock.ResolvesAlike s.typeCatalog p f) ∧
    s.datatypes = s.typeCatalog.filter (fun d => d.kind = 0) ∧
    s.datatypeEnums =
      s.typeCatalog.filter (fun d => d.kind = 0 ∧ d.format = Format.enumeration) := by
  obtain ⟨e, info, docs, -, rfl⟩ := exists_export_of_ofExport h
  refine ⟨fun t ht => ?_, ?_, ?_⟩
  · obtain ⟨d, -, rfl⟩ := List.mem_map.1 ht
    refine ⟨by simp [DataType.withFields], fun i p hp => ?_⟩
    have hparam : d.params[i]? = some p := hp
    refine ⟨Field.ofParam e.datatypes p, by simp [DataType.withFields, hparam], ?_⟩
    have htype := @Param.type?_withFields e.datatypes p e.datatypes
    refine Mock.resolvesAlike_of_type? ?_ fun d hd => ?_
    · change (p.type? e.datatypes).map (·.format) = (p.type? _).map (·.format)
      rw [ofParts, htype, Option.map_map]
      rfl
    · rw [ofParts, htype] at hd
      obtain ⟨d, hfound, rfl⟩ := Option.map_eq_some_iff.1 hd
      have hfound' : p.typeId.bind (lastWithId? e.datatypes) = some d := hfound
      simp [Field.ofParam, hfound', DataType.withFields]
  · rw [ofParts]
    rfl
  · simp only [ofParts, List.filter_filter]
    refine List.filter_congr fun d _ => ?_
    rw [DataType.isEnum, DataType.isUser, Bool.and_comm]
    exact (Bool.decide_and _ _).symm

/-- A type that takes the number of an earlier one, and refers to itself by it, is what fields and
payloads are made of. -/
theorem ofExport_resolves_repeated_number :
    let raw : Json := .obj
      [("datatypes", .arr
        [.obj [("format", Json.int 3), ("id", Json.int 1), ("name", .str "Text")],
          .obj [("format", Json.int 0), ("id", Json.int 1), ("name", .str "Node"),
            ("params", .arr [.obj [("isArray", Json.int 1), ("name", .str "next"),
              ("type", Json.int 1)]])]]),
        ("specs", .arr [.obj []])]
    ∃ s t p f, ofExport raw = .ok s ∧ t ∈ s.typeCatalog ∧ t.params = [p] ∧ t.fields = [f] ∧
      f.format = some Format.hash ∧ f.typeName = "Node" ∧
      (Mock.synthesize 0 Format.hash [p] s.typeCatalog).errors = [] ∧
      (Mock.synthesize 1 Format.hash [p] s.typeCatalog).json =
        .obj [("next", .arr [.obj [("next", .arr [.null])]])] := by
  intro raw
  let next : Param := { name := "next", typeId := some 1, isArray := true }
  let text : DataType := { id := 1, name := "Text", format := 3 }
  let node : DataType :=
    { id := 1, name := "Node", params := [next]
      fields := [⟨"next", "Node", some 0, true, 1, ""⟩] }
  obtain ⟨s, hs, hcatalog⟩ : ∃ s, ofExport raw = .ok s ∧ s.typeCatalog = [text, node] :=
    ⟨_, rfl, rfl⟩
  obtain ⟨-, hparams⟩ := (ofExport_resolves_alike hs).1 node (by simp [hcatalog])
  obtain ⟨f, hfield, halike⟩ := hparams 0 next rfl
  obtain rfl : _ = f := Option.some.inj hfield
  have hrefers : next.RefersTo s.typeCatalog node := ⟨[text], [], hcatalog, rfl, by simp⟩
  refine ⟨s, node, next, _, hs, by simp [hcatalog], rfl, rfl,
    (halike.format_eq_some_iff _).2 ⟨node, hrefers, rfl⟩, halike.typeName_eq node hrefers, ?_, ?_⟩
  · rw [halike.synthesize_eq rfl node hrefers]
    rfl
  · rw [halike.synthesize_eq rfl node hrefers, hcatalog]
    rfl

end Spec

end Scaffold

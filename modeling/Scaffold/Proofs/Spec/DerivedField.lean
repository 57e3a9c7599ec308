import Mathlib
import Scaffold.Proofs.Spec.Attribute

/-!
# Fields of data types as templates see them

The fields of a data type are derived from its parameters and written among the members it knows.
A member named `fields` in the export is one it does not know, so it is not read as the fields but
kept, and written over them.
-/

namespace Scaffold

open Decoder Members

namespace Field

theorem ofParam_withFields (catalog all : List DataType) (p : Param) :
    ofParam (catalog.map (DataType.withFields all)) p = ofParam catalog p := by
  have htype : p.typeId.bind (lastWithId? (catalog.map (DataType.withFields all))) =
      (p.typeId.bind (lastWithId? catalog)).map (DataType.withFields all) :=
    Param.type?_withFields all
  unfold ofParam
  rw [htype]
  cases p.typeId.bind (lastWithId? catalog) <;> rfl

end Field

namespace DataType

/-- What is written for the fields that the parameters of a data type stand for. -/
def derivedFields (catalog : List DataType) (d : DataType) : Json :=
  encodeList Field.encode (d.params.map (Field.ofParam catalog))

theorem derivedFields_withFields (catalog all : List DataType) (d : DataType) :
    derivedFields (catalog.map (withFields all)) d = derivedFields catalog d := by
  have hfields : Field.ofParam (catalog.map (withFields all)) = Field.ofParam catalog :=
    funext (Field.ofParam_withFields catalog all)
  rw [derivedFields, hfields, derivedFields]

/-- The entry `w` lists the fields that are derived for `v`, unless `v` has a member of that name;
then it has this member. -/
def ShowsFields (catalog : List DataType) (v w : Json) : Prop :=
  ∃ d, decode v = .ok d ∧
    w.get? "fields" = some ((v.get? "fields").getD (derivedFields catalog d))

theorem showsFields_encode (catalog : List DataType) (v : Json) (d : DataType)
    (hv : v.WellFormed) (h : decode v = .ok d) :
    ShowsFields (catalog.map (withFields catalog)) v (d.withFields catalog).encode := by
  refine ⟨d, h, ?_⟩
  obtain ⟨ms, rfl, hextra, -⟩ := exists_members h
  have hextra' : (d.withFields catalog).extra = undeclared declared ms := hextra
  have hderived : ((d.withFields catalog).known.lookup "fields").join =
      some (derivedFields catalog d) := rfl
  -- the name is not declared, so a member of that name is among the unknown ones, which win
  rw [derivedFields_withFields, encode_eq, hextra', Json.get?,
    find?_together (by simp [known]) (foreign_undeclared hv).sorted, hderived,
    find?_undeclared, if_neg (by simp [declared]), Option.or_some]
  rfl

end DataType

namespace Spec

variable {raw : Json} {s : Spec}

theorem ofExport_shows_fields (hraw : raw.WellFormed) (h : ofExport raw = .ok s)
    (args : RunArgs) :
    List.Forall₂ (DataType.ShowsFields s.typeCatalog) (RawExport.userTypesOf raw)
        ((RenderContext.ofSpec s args).listed ["ds", "datatypes"]) ∧
      List.Forall₂ (DataType.ShowsFields s.typeCatalog)
        ((RawExport.userTypesOf raw).filter Json.isEnumType)
        ((RenderContext.ofSpec s args).listed ["datatypeEnums"]) := by
  obtain ⟨e, info, docs, he, rfl⟩ := exists_export_of_ofExport h
  have hwell := RawExport.wellFormed_of_mem_userTypesOf hraw
  have husers := (RawExport.sources_of_decode he).userTypes
  have henums := DataType.reads_filter husers fun v d hd => (DataType.codes_of_decode hd).2
  constructor
  · rw [RenderContext.listed_datatypes, datatypes_ofParts, List.map_map]
    exact husers.forall₂_map fun v hv d hd =>
      DataType.showsFields_encode e.datatypes v d (hwell v hv) hd
  · rw [RenderContext.listed_enums, datatypeEnums_ofParts, List.map_map]
    exact henums.forall₂_map fun v hv d hd =>
      DataType.showsFields_encode e.datatypes v d (hwell v (List.mem_of_mem_filter hv)) hd

/-- An enumeration with one parameter, whose type is one of the system. -/
def enumExport (others : Members) : Json :=
  .obj [("datatypes", .arr
      [.obj (others ++ [("format", Json.int 1), ("id", Json.int 2),
        ("params", .arr [.obj [("name", .str "x"), ("type", Json.int 1)]])]),
      .obj [("format", Json.int 3), ("id", Json.int 1), ("name", .str "Text"),
        ("type", Json.int 1)]]),
    ("specs", .arr [.obj []])]

theorem ofExport_shows_field_of_enumeration :
    ∃ s, ofExport (enumExport []) = .ok s ∧ ∀ args,
      ∃ w ∈ (RenderContext.ofSpec s args).listed ["datatypeEnums"],
        w.get? "fields" = some (encodeList Field.encode [⟨"x", "Text", some 3, false, 0, ""⟩]) := by
  have hwell : (enumExport []).WellFormed := by
    simp only [enumExport, List.nil_append, Json.WellFormed, Json.WellFormedItems,
      Json.WellFormedMembers, Members.Sorted, Json.int, Number.IsDefined, and_true, true_and]
    decide
  refine ⟨_, rfl, fun args => ?_⟩
  obtain ⟨-, henums⟩ := ofExport_shows_fields hwell rfl args
  obtain ⟨w, _, ⟨d, hd, hfields⟩, -, hlist⟩ := List.forall₂_cons_left_iff.1 henums
  obtain rfl := Except.ok.inj hd
  exact ⟨w, hlist ▸ List.mem_cons_self, hfields⟩

theorem ofExport_shows_other_fields :
    ∃ s, ofExport (enumExport [("fields", .str "mine")]) = .ok s ∧ ∀ args,
      ∃ w ∈ (RenderContext.ofSpec s args).listed ["ds", "datatypes"],
        w ∈ (RenderContext.ofSpec s args).listed ["datatypeEnums"] ∧
        ∀ fs : List Field, w.get? "fields" ≠ some (encodeList Field.encode fs) := by
  obtain ⟨s, d, hs, hdatatypes, henums, hfields⟩ :
      ∃ s d, ofExport (enumExport [("fields", .str "mine")]) = .ok s ∧ s.datatypes = [d] ∧
        s.datatypeEnums = [d] ∧ d.encode.get? "fields" = some (.str "mine") :=
    ⟨_, _, rfl, rfl, rfl, rfl⟩
  refine ⟨s, hs, fun args => ⟨d.encode, ?_, ?_, ?_⟩⟩
  · simp [RenderContext.listed_datatypes, hdatatypes]
  · simp [RenderContext.listed_enums, henums]
  · intro fs
    simp [hfields, encodeList]

end Spec

end Scaffold

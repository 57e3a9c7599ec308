import Mathlib
import Scaffold.Proofs.Spec.Comparison
import Scaffold.Proofs.Spec.Loaded
import Scaffold.Render.Context
import Scaffold.Run.Policy

/-!
# Changes between two exports

A change is told from the entities that were read, while templates see what is written of them.
Interfaces are told to have changed just if templates see other ones. As long as data types are
told not to have changed, templates see equal data types and enumerations.
-/

namespace Scaffold

open Members

/-! ## What templates see -/

/-- The values of the entities that changes are told of. -/
structure EntityLists where
  interfaces : Json
  dataTypes : Json
  enums : Json

/-- Templates see these values, whatever the arguments of the run. -/
structure Spec.Shows (s : Spec) (l : EntityLists) : Prop where
  interfaces : ∀ args, RenderContext.follow? (RenderContext.ofSpec s args).data
    ["ds", "interfaces"] = some l.interfaces
  dataTypes : ∀ args, RenderContext.follow? (RenderContext.ofSpec s args).data
    ["ds", "datatypes"] = some l.dataTypes
  enums : ∀ args, RenderContext.follow? (RenderContext.ofSpec s args).data
    ["datatypeEnums"] = some l.enums

def Spec.entityLists (s : Spec) : EntityLists where
  interfaces := encodeList Interface.encode s.interfaces
  dataTypes := encodeList DataType.encode s.datatypes
  enums := encodeList DataType.encode s.datatypeEnums

namespace RenderContext

theorem follow?_object {entries : List (String × Json)} (h : (entries.map (·.1)).Nodup)
    (key : String) (keys : List String) : follow? (Json.object entries) (key :: keys) =
      (entries.lookup key).bind fun w => follow? w keys := by
  rw [follow?, Json.object, Json.get?, find?_ofList h]

theorem data_ofMembers (entries : List (String × Json)) :
    (ofMembers entries).data = Json.object entries := rfl

theorem shows_entityLists (s : Spec) : s.Shows s.entityLists := by
  constructor
  · intro args
    rw [ofSpec, data_ofMembers, follow?_object (by simp)]
    change follow? (entitiesOf s) _ = _
    rw [entitiesOf, follow?_object (by simp)]
    rfl
  · intro args
    rw [ofSpec, data_ofMembers, follow?_object (by simp)]
    change follow? (entitiesOf s) _ = _
    rw [entitiesOf, follow?_object (by simp)]
    rfl
  · intro args
    rw [ofSpec, data_ofMembers, follow?_object (by simp)]
    rfl

end RenderContext

/-! ## What changes are told from -/

/-- The same part is read from two exports. -/
def RawExport.AgreeOn {α : Type} (part : RawExport → α) (raw raw' : Json) : Prop :=
  ∀ e e', decode raw = .ok e → decode raw' = .ok e' → part e = part e'

namespace Change

variable {a b : Spec}

theorem since_some (a b : Spec) : since (some a) b =
    { interfaces := !(a.interfaces == b.interfaces)
      dataTypes := !(a.typeCatalog == b.typeCatalog) } := rfl

theorem interfaces_beq (ha : a.Decoded) (hb : b.Decoded) :
    (a.entityLists.interfaces == b.entityLists.interfaces) = (a.interfaces == b.interfaces) :=
  encodeList_beq fun i hi j hj => Interface.encode_beq (ha.interfaces i hi) (hb.interfaces j hj)

/-- Equal types have equal codes, so the same ones are left out on both sides. -/
theorem filter_beq {p : DataType → Bool} (hp : ∀ d e : DataType, (d == e) = true → p d = p e)
    {ds es : List DataType} (h : (ds == es) = true) : (ds.filter p == es.filter p) = true := by
  rw [list_beq_iff_forall₂] at h ⊢
  apply List.rel_filter _ h
  intro d e hde
  exact Bool.eq_iff_iff.1 (hp d e hde)

theorem isUser_of_beq (d e : DataType) (h : (d == e) = true) : d.isUser = e.isUser := by
  simp only [DataType.beq_eq, Bool.and_eq_true, beq_iff_eq] at h
  rw [DataType.isUser, h.2.2.2.1, DataType.isUser]

theorem isEnum_of_beq (d e : DataType) (h : (d == e) = true) : d.isEnum = e.isEnum := by
  simp only [DataType.beq_eq, Bool.and_eq_true, beq_iff_eq] at h
  rw [DataType.isEnum, h.2.2.1, DataType.isEnum]

theorem encodeList_beq_of_beq {ds es : List DataType} (hd : ∀ d ∈ ds, d.Decoded)
    (he : ∀ e ∈ es, e.Decoded) (h : (ds == es) = true) :
    (encodeList DataType.encode ds == encodeList DataType.encode es) = true := by
  rw [encodeList, encodeList, Json.arr_beq_arr]
  apply map_beq_map_of_beq _ h
  intro d hmem e hmem'
  exact DataType.encode_beq_of_beq (hd d hmem) (he e hmem')

theorem dataTypes_beq_of_beq (ha : a.Decoded) (hb : b.Decoded)
    (h : (a.typeCatalog == b.typeCatalog) = true) :
    (a.entityLists.dataTypes == b.entityLists.dataTypes) = true ∧
      (a.entityLists.enums == b.entityLists.enums) = true := by
  have husers : (a.datatypes == b.datatypes) = true := by
    rw [ha.datatypes, hb.datatypes]
    exact filter_beq isUser_of_beq h
  have henums : (a.datatypeEnums == b.datatypeEnums) = true := by
    rw [ha.datatypeEnums, hb.datatypeEnums]
    exact filter_beq isEnum_of_beq husers
  constructor
  · exact encodeList_beq_of_beq ha.of_mem_datatypes hb.of_mem_datatypes husers
  · exact encodeList_beq_of_beq ha.of_mem_enums hb.of_mem_enums henums

theorem since_comm (ha : a.Decoded) (hb : b.Decoded) :
    since (some a) b = since (some b) a := by
  have hinterfaces : (a.interfaces == b.interfaces) = (b.interfaces == a.interfaces) :=
    list_beq_comm fun i hi j hj => Interface.beq_comm (ha.interfaces i hi) (hb.interfaces j hj)
  have hcatalog : (a.typeCatalog == b.typeCatalog) = (b.typeCatalog == a.typeCatalog) :=
    list_beq_comm fun d hd e he => DataType.beq_comm (ha.typeCatalog d hd) (hb.typeCatalog e he)
  rw [since_some, since_some, hinterfaces, hcatalog]

theorem since_self (ha : a.Decoded) :
    since (some a) a = { interfaces := false, dataTypes := false } := by
  rw [since_some, list_beq_self fun i hi => Interface.beq_self (ha.interfaces i hi),
    list_beq_self fun d hd => DataType.beq_self (ha.typeCatalog d hd)]
  rfl

variable {rawA rawB : Json}

theorem interfaces_of_agreeOn (ha : Spec.ofExport rawA = .ok a) (hb : Spec.ofExport rawB = .ok b)
    (h : RawExport.AgreeOn RawExport.interfaces rawA rawB) : a.interfaces = b.interfaces := by
  obtain ⟨e, _, _, he, rfl⟩ := Spec.exists_export_of_ofExport ha
  obtain ⟨f, _, _, hf, rfl⟩ := Spec.exists_export_of_ofExport hb
  have hsame : e.interfaces = f.interfaces := h e f he hf
  rw [Spec.ofParts, Spec.ofParts, hsame]

theorem typeCatalog_of_agreeOn (ha : Spec.ofExport rawA = .ok a)
    (hb : Spec.ofExport rawB = .ok b) (h : RawExport.AgreeOn RawExport.datatypes rawA rawB) :
    a.typeCatalog = b.typeCatalog := by
  obtain ⟨e, _, _, he, rfl⟩ := Spec.exists_export_of_ofExport ha
  obtain ⟨f, _, _, hf, rfl⟩ := Spec.exists_export_of_ofExport hb
  have hsame : e.datatypes = f.datatypes := h e f he hf
  rw [Spec.ofParts, Spec.ofParts, hsame]

theorem since_tells_what_templates_see (hrawA : rawA.WellFormed) (hrawB : rawB.WellFormed)
    (ha : Spec.ofExport rawA = .ok a) (hb : Spec.ofExport rawB = .ok b) :
    (∃ seenA seenB, a.Shows seenA ∧ b.Shows seenB ∧
      ((since (some a) b).interfaces = true ↔
        (seenA.interfaces == seenB.interfaces) = false) ∧
      ((since (some a) b).dataTypes = false →
        (seenA.dataTypes == seenB.dataTypes) = true ∧ (seenA.enums == seenB.enums) = true)) ∧
    since (some a) b = since (some b) a ∧
    (a = b → since (some a) b = { interfaces := false, dataTypes := false }) ∧
    ∀ rawA' rawB' a' b', Spec.ofExport rawA' = .ok a' → Spec.ofExport rawB' = .ok b' →
      (RawExport.AgreeOn RawExport.interfaces rawA rawA' →
        RawExport.AgreeOn RawExport.interfaces rawB rawB' →
        (since (some a) b).interfaces = (since (some a') b').interfaces) ∧
      (RawExport.AgreeOn RawExport.datatypes rawA rawA' →
        RawExport.AgreeOn RawExport.datatypes rawB rawB' →
        (since (some a) b).dataTypes = (since (some a') b').dataTypes) := by
  have hdecodedA := Spec.decoded_ofExport hrawA ha
  have hdecodedB := Spec.decoded_ofExport hrawB hb
  refine ⟨⟨a.entityLists, b.entityLists, RenderContext.shows_entityLists a,
    RenderContext.shows_entityLists b, ?_, ?_⟩, since_comm hdecodedA hdecodedB, ?_, ?_⟩
  · rw [interfaces_beq hdecodedA hdecodedB, since_some, Bool.not_eq_true']
  · intro hunchanged
    apply dataTypes_beq_of_beq hdecodedA hdecodedB
    simpa [since_some] using hunchanged
  · rintro rfl
    exact since_self hdecodedA
  · intro rawA' rawB' a' b' ha' hb'
    constructor
    · intro hagreeA hagreeB
      rw [since_some, since_some, interfaces_of_agreeOn ha ha' hagreeA,
        interfaces_of_agreeOn hb hb' hagreeB]
    · intro hagreeA hagreeB
      rw [since_some, since_some, typeCatalog_of_agreeOn ha ha' hagreeA,
        typeCatalog_of_agreeOn hb hb' hagreeB]

/-- An export with one interface whose parameters are written as `params`. -/
def exportWith (params : Json) : Json :=
  .obj [("interfaces", .arr [.obj [("id", .int 1), ("params", params), ("path", .str "/a")]]),
    ("specs", .arr [.obj []])]

/-- Parameters by name, with a number for a flag. -/
def namedExport : Json :=
  exportWith (.obj [("inputs", .arr [.obj [("isArray", .int 1), ("name", .str "ids")]])])

/-- The same parameters by position, with a string for the flag. -/
def listedExport : Json :=
  exportWith (.arr [.arr [.obj [("isArray", .str "1"), ("name", .str "ids")]]])

theorem since_sees_through_spelling :
    ∃ a b, Spec.ofExport namedExport = .ok a ∧ Spec.ofExport listedExport = .ok b ∧
      since (some a) b = { interfaces := false, dataTypes := false } ∧
      ∃ seenA seenB, a.Shows seenA ∧ b.Shows seenB ∧
        (seenA.interfaces == seenB.interfaces) = true := by
  have hnamed : namedExport.WellFormed := by
    simp only [namedExport, exportWith, Json.WellFormed, Json.WellFormedItems,
      Json.WellFormedMembers, Members.Sorted, Json.int, Number.IsDefined, and_true, true_and]
    decide
  have hlisted : listedExport.WellFormed := by
    simp only [listedExport, exportWith, Json.WellFormed, Json.WellFormedItems,
      Json.WellFormedMembers, Members.Sorted, Json.int, Number.IsDefined, and_true, true_and]
    decide
  refine ⟨_, _, rfl, rfl, rfl, ?_⟩
  obtain ⟨⟨seenA, seenB, hA, hB, hiff, -⟩, -⟩ :=
    since_tells_what_templates_see hnamed hlisted rfl rfl
  refine ⟨seenA, seenB, hA, hB, ?_⟩
  by_contra hdiffer
  have hflag := hiff.2 (by simpa using hdiffer)
  exact absurd hflag (by decide)

end Change

end Scaffold

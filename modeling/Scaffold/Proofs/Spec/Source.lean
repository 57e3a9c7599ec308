import Mathlib
import Scaffold.Proofs.Render.Binding
import Scaffold.Proofs.Spec.Change
import Scaffold.Run.Generate

/-!
# Where entities are read from

The lists of an export stand under their names in an object, or in their places in an array. One
that is left out is empty. Every item of such a list is read as an entity of its own, in order, and
in this order templates see what is written of the entities, and documents expand over it.
-/

namespace Scaffold

namespace Json

/-- A part of a record, which an object names and an array places. -/
def part? (key : String) (index : Nat) : Json → Option Json
  | obj ms => Members.find? key ms
  | arr xs => xs[index]?
  | _ => none

/-- The items of a list that may be left out. -/
def itemsOf (list : Option Json) : List Json :=
  (list.bind items?).getD []

theorem wellFormed_of_mem_itemsOf {list : Option Json} (h : ∀ v ∈ list, v.WellFormed) :
    ∀ x ∈ itemsOf list, x.WellFormed := by
  cases list with
  | none => simp [itemsOf]
  | some v =>
    cases v with
    | arr xs => exact wellFormed_arr_iff.1 (h _ rfl)
    | _ => simp [itemsOf, items?]

theorem wellFormed_of_part? {v : Json} (hv : v.WellFormed) (key : String) (index : Nat) :
    ∀ w ∈ v.part? key index, w.WellFormed := by
  intro w hw
  cases v with
  | obj ms => exact (wellFormed_obj_iff.1 hv).2 _ (Members.mem_of_find? hw)
  | arr xs => exact wellFormed_arr_iff.1 hv w (List.mem_of_getElem? hw)
  | _ => simp [part?] at hw

theorem wellFormed_of_get? {v : Json} (hv : v.WellFormed) (key : String) :
    ∀ w ∈ v.get? key, w.WellFormed := by
  intro w hw
  cases v with
  | obj ms => exact (wellFormed_obj_iff.1 hv).2 _ (Members.mem_of_find? hw)
  | _ => simp [get?] at hw

end Json

namespace Decoder

variable {α β : Type} {d : Decoder α} {as : List α}

/-- Entities as they are read from values, one from each. -/
def Reads (d : Decoder α) : List Json → List α → Prop :=
  List.Forall₂ fun v a => d v = .ok a

theorem reads_of_each {vs : List Json} (h : each d vs = .ok as) : Reads d vs as := by
  induction vs generalizing as with
  | nil =>
    obtain rfl := Except.ok.inj h
    exact .nil
  | cons v vs ih =>
    obtain ⟨a, rest, ha, hrest, rfl⟩ := each_cons_eq_ok.1 h
    exact .cons ha (ih hrest)

theorem reads_of_list {o : Option Json} (h : o.elim (.ok []) (list d) = .ok as) :
    Reads d (Json.itemsOf o) as := by
  cases o with
  | none =>
    obtain rfl := Except.ok.inj h
    exact .nil
  | some v =>
    cases v with
    | arr xs => exact reads_of_each h
    | _ => simp [list] at h

theorem member_eq_elim (key : String) (default : α) (ms : Members) :
    member d key default ms = (ms.find? key).elim (.ok default) d := by
  unfold member
  cases ms.find? key <;> rfl

theorem item_eq_elim (index : Nat) (default : α) (xs : List Json) :
    item d index default xs = (xs[index]?).elim (.ok default) d := by
  unfold item
  cases xs[index]? <;> rfl

theorem reads_of_member {key : String} {ms : Members} (h : member (list d) key [] ms = .ok as) :
    Reads d (Json.itemsOf (ms.find? key)) as :=
  reads_of_list ((member_eq_elim key [] ms).symm.trans h)

theorem reads_of_item {index : Nat} {xs : List Json} (h : item (list d) index [] xs = .ok as) :
    Reads d (Json.itemsOf xs[index]?) as :=
  reads_of_list ((item_eq_elim index [] xs).symm.trans h)

/-- What is related to each value is related to all of them. -/
theorem Reads.forall₂_map {R : Json → β → Prop} {f : α → β} {vs : List Json} (h : Reads d vs as)
    (hf : ∀ v ∈ vs, ∀ a, d v = .ok a → R v (f a)) : List.Forall₂ R vs (as.map f) := by
  induction h with
  | nil => exact .nil
  | @cons v a vs as hva _ ih =>
    exact .cons (hf v (by simp) a hva) (ih fun w hw => hf w (List.mem_cons_of_mem v hw))

end Decoder

open Decoder Members

/-! ## Exports -/

/-- The values of an export that its entities are read from. -/
structure RawExport.Sources (raw : Json) (e : RawExport) : Prop where
  interfaces : Reads Interface.decode (Json.itemsOf (raw.part? "interfaces" 2)) e.interfaces
  datatypes : Reads DataType.decode (Json.itemsOf (raw.part? "datatypes" 3)) e.datatypes
  templates : Reads PageTemplate.decode (Json.itemsOf (raw.part? "templates" 4)) e.templates
  pages : Reads Page.decode (Json.itemsOf (raw.part? "pages" 5)) e.pages

theorem RawExport.sources_of_decode {raw : Json} {e : RawExport} (h : decode raw = .ok e) :
    Sources raw e := by
  unfold decode at h
  split at h
  · simp only [bind_eq_ok] at h
    obtain ⟨_, -, _, hdatatypes, _, hinterfaces, _, hpages, _, -, _, -, _, htemplates, h⟩ := h
    obtain rfl := Except.ok.inj h
    exact ⟨reads_of_member hinterfaces, reads_of_member hdatatypes, reads_of_member htemplates,
      reads_of_member hpages⟩
  · simp only [bind_eq_ok] at h
    obtain ⟨_, -, _, -, _, hinterfaces, _, hdatatypes, _, htemplates, _, hpages, _, -, _, -, h⟩ := h
    obtain rfl := Except.ok.inj h
    exact ⟨reads_of_item hinterfaces, reads_of_item hdatatypes, reads_of_item htemplates,
      reads_of_item hpages⟩
  · simp at h

/-! ## User types -/

/-- The number under a name; 0 where there is none. -/
def Json.codeAt (key : String) (v : Json) : Int :=
  ((v.get? key).bind int?).getD 0

/-- A data type that is not one of the system. -/
def Json.isUserType (v : Json) : Bool :=
  v.codeAt "type" == 0

def Json.isEnumType (v : Json) : Bool :=
  v.codeAt "format" == Format.enumeration

theorem codeAt_of_member {key : String} {ms : Members} {n : Int}
    (h : member integer key 0 ms = .ok n) : (Json.obj ms).codeAt key = n := by
  unfold Decoder.member at h
  cases hfound : ms.find? key with
  | none =>
    rw [hfound] at h
    obtain rfl := Except.ok.inj h
    simp [Json.codeAt, Json.get?, hfound]
  | some v =>
    rw [hfound] at h
    dsimp only at h
    unfold integer at h
    split at h
    · split_ifs at h
      obtain rfl := Except.ok.inj h
      simp [Json.codeAt, Json.get?, hfound, Json.int?]
    · simp at h

namespace DataType

theorem codes_of_decode {v : Json} {d : DataType} (h : decode v = .ok d) :
    v.isUserType = d.isUser ∧ v.isEnumType = d.isEnum := by
  unfold decode at h
  split at h
  · simp only [bind_eq_ok] at h
    obtain ⟨_, -, _, hformat, _, -, _, -, _, -, _, hkind, h⟩ := h
    obtain rfl := Except.ok.inj h
    constructor
    · rw [Json.isUserType, codeAt_of_member hkind]
      rfl
    · rw [Json.isEnumType, codeAt_of_member hformat]
      rfl
  · simp at h

theorem reads_filter {vs : List Json} {ds : List DataType} (h : Reads decode vs ds)
    {p : Json → Bool} {q : DataType → Bool} (hpq : ∀ v d, decode v = .ok d → p v = q d) :
    Reads decode (vs.filter p) (ds.filter q) := by
  apply List.rel_filter _ h
  intro v d hvd
  exact Bool.eq_iff_iff.1 (hpq v d hvd)

end DataType

namespace RawExport

def userTypesOf (raw : Json) : List Json :=
  (Json.itemsOf (raw.part? "datatypes" 3)).filter Json.isUserType

theorem Sources.userTypes {raw : Json} {e : RawExport} (h : Sources raw e) :
    Reads DataType.decode (userTypesOf raw) (e.datatypes.filter DataType.isUser) := by
  apply DataType.reads_filter h.datatypes
  intro v d hd
  exact (DataType.codes_of_decode hd).1

theorem wellFormed_of_mem_userTypesOf {raw : Json} (hraw : raw.WellFormed) :
    ∀ v ∈ userTypesOf raw, v.WellFormed := by
  intro v hv
  exact Json.wellFormed_of_mem_itemsOf (Json.wellFormed_of_part? hraw "datatypes" 3) v
    (List.mem_of_mem_filter hv)

end RawExport

namespace Spec

variable (raw : Json) (e : RawExport) (info : SpecInfo) (docs : List DocNode)

theorem datatypes_ofParts : (ofParts raw e info docs).datatypes =
    (e.datatypes.filter DataType.isUser).map (DataType.withFields e.datatypes) := by
  rw [ofParts, List.filter_map]
  rfl

theorem datatypeEnums_ofParts : (ofParts raw e info docs).datatypeEnums =
    ((e.datatypes.filter DataType.isUser).filter DataType.isEnum).map
      (DataType.withFields e.datatypes) := by
  change (ofParts raw e info docs).datatypes.filter DataType.isEnum = _
  rw [datatypes_ofParts, List.filter_map]
  rfl

end Spec

/-! ## What templates see -/

/-- What is written of the entities that a source stands for. -/
def Spec.written (s : Spec) (source : DataSource) (enumsOnly : Bool) : List Json :=
  match source, enumsOnly with
  | .interface, _ => s.interfaces.map Interface.encode
  | .dataType, false => s.datatypes.map DataType.encode
  | .dataType, true => s.datatypeEnums.map DataType.encode
  | .template, _ => s.templates.map PageTemplate.encode
  | .webView, _ => s.pages.map Page.encode
  | .none, _ => []
  | .handlebarHelper, _ => []

namespace RenderContext

/-- The values that are listed at the end of a way through the data of templates. -/
def listed (c : RenderContext) (place : List String) : List Json :=
  Json.itemsOf (follow? c.data place)

variable (s : Spec) (args : RunArgs)

theorem listed_interfaces :
    (ofSpec s args).listed ["ds", "interfaces"] = s.interfaces.map Interface.encode := by
  rw [listed, (shows_entityLists s).interfaces]
  rfl

theorem listed_datatypes :
    (ofSpec s args).listed ["ds", "datatypes"] = s.datatypes.map DataType.encode := by
  rw [listed, (shows_entityLists s).dataTypes]
  rfl

theorem listed_enums :
    (ofSpec s args).listed ["datatypeEnums"] = s.datatypeEnums.map DataType.encode := by
  rw [listed, (shows_entityLists s).enums]
  rfl

theorem listed_entities (key : String) :
    (ofSpec s args).listed ["ds", key] = Json.itemsOf ((entitiesOf s).get? key) := by
  rw [listed, ofSpec, data_ofMembers, follow?_object (by simp)]
  change Json.itemsOf (((entitiesOf s).get? key).bind some) = _
  rw [Option.bind_fun_some]

theorem listed_templates :
    (ofSpec s args).listed ["ds", "templates"] = s.templates.map PageTemplate.encode := by
  rw [listed_entities, entitiesOf, Json.object, Json.get?, find?_ofList (by simp)]
  rfl

theorem listed_pages :
    (ofSpec s args).listed ["ds", "pages"] = s.pages.map Page.encode := by
  rw [listed_entities, entitiesOf, Json.object, Json.get?, find?_ofList (by simp)]
  rfl

theorem entities_ofSpec (source : DataSource) (enumsOnly : Bool) :
    (ofSpec s args).entities source enumsOnly = s.written source enumsOnly := by
  cases source with
  | none | handlebarHelper => rfl
  | interface => exact listed_interfaces s args
  | template => exact listed_templates s args
  | webView => exact listed_pages s args
  | dataType =>
    cases enumsOnly with
    | true => exact listed_enums s args
    | false => exact listed_datatypes s args

end RenderContext

/-- A run's walk expands over what is written of the entities that were read; places and routing
rules make no difference. -/
theorem RunSetup.entities_walkContext (c : RunConfig) (s : Spec) (roots : StructuralRoots)
    (mocks : List MockRule) (views : List ViewRule) (source : DataSource) (enumsOnly : Bool) :
    (walkContext c s roots mocks views).entities source enumsOnly = s.written source enumsOnly := by
  refine Eq.trans ?_ (RenderContext.entities_ofSpec s c.args source enumsOnly)
  unfold walkContext
  dsimp only
  split
  · rw [RenderContext.entities_insert (by decide) (by decide),
      RenderContext.entities_insert (by decide) (by decide),
      RenderContext.entities_insert (by decide) (by decide)]
  · rw [RenderContext.entities_insert (by decide) (by decide)]

end Scaffold

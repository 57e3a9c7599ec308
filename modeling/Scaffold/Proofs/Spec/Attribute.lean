import Mathlib
import Scaffold.Proofs.Spec.Source

/-!
# Attributes that no entity knows

An entity holds on to the members it does not know and writes them after the ones it knows, so
they are found again where templates see the entity, among the parameters of an interface as in
the templates of a page. Only the data types of users are seen. Exports are taken to be well-formed,
as is whatever a text gives (`ExportFormat.wellFormed_of_parse`).
-/

namespace Scaffold

open Decoder Members

namespace Json

/-- All members of `v` but the declared ones are members of `w`. -/
def KeptBut (declared : List String) (v w : Json) : Prop :=
  ∀ key ∉ declared, ∀ x, v.get? key = some x → w.get? key = some x

def itemsAt (key : String) (v : Json) : List Json :=
  itemsOf (v.get? key)

/-- Kept in this way, with a list whose items are related to the ones in their places. -/
structure KeptWith (declared : List String) (key : String) (R : Json → Json → Prop)
    (v w : Json) : Prop where
  own : v.KeptBut declared w
  items : List.Forall₂ R (v.itemsAt key) (w.itemsAt key)

theorem KeptWith.mono {declared declared' : List String} {key : String}
    {R : Json → Json → Prop} {v w : Json} (h : v.KeptWith declared key R w)
    (hsub : declared ⊆ declared') : v.KeptWith declared' key R w := by
  constructor
  · intro name hname
    exact h.own name fun hdeclared => hname (hsub hdeclared)
  · exact h.items

/-- The parameters of one direction, in an object that names the two or in an array of both. -/
def paramsAt (key : String) (index : Nat) (v : Json) : List Json :=
  itemsOf ((v.get? "params").bind (part? key index))

theorem wellFormed_paramsAt {v : Json} (hv : v.WellFormed) (key : String) (index : Nat) :
    ∀ x ∈ v.paramsAt key index, x.WellFormed := by
  apply wellFormed_of_mem_itemsOf
  intro w hw
  obtain ⟨params, hparams, hpart⟩ := Option.bind_eq_some_iff.1 hw
  have hwell := wellFormed_of_get? hv "params" params hparams
  exact wellFormed_of_part? hwell key index w hpart

end Json

namespace Members

variable {declared : List String} {known : List (String × Option Json)} {ms : Members}

theorem keptBut_together (hms : (Json.obj ms).WellFormed) (hnodup : (known.map (·.1)).Nodup) :
    (Json.obj ms).KeptBut declared
      (.obj (insertAll (ofSome known) (undeclared declared ms))) := by
  intro key hkey x hx
  have hextra : find? key (undeclared declared ms) = some x := by
    rw [find?_undeclared, if_neg hkey]
    exact hx
  rw [Json.get?, find?_together hnodup (foreign_undeclared hms).sorted, hextra, Option.some_or]

theorem get?_together (hms : (Json.obj ms).WellFormed) (hnodup : (known.map (·.1)).Nodup)
    {key : String} (hkey : key ∈ declared) :
    (Json.obj (insertAll (ofSome known) (undeclared declared ms))).get? key =
      (known.lookup key).join := by
  rw [Json.get?, find?_together hnodup (foreign_undeclared hms).sorted, find?_undeclared,
    if_pos hkey, Option.none_or]

/-- What holds of each item as it is read and written holds through the list. -/
theorem keptWith_together {α : Type} {d : Decoder α} {f : α → Json} {as : List α}
    {R : Json → Json → Prop} {key : String} (hms : (Json.obj ms).WellFormed)
    (hnodup : (known.map (·.1)).Nodup) (hkey : key ∈ declared)
    (hknown : (known.lookup key).join = some (encodeList f as))
    (hreads : Reads d ((Json.obj ms).itemsAt key) as)
    (hR : ∀ v a, v.WellFormed → d v = .ok a → R v (f a)) :
    (Json.obj ms).KeptWith declared key R
      (.obj (insertAll (ofSome known) (undeclared declared ms))) := by
  have hwritten : (Json.obj (insertAll (ofSome known) (undeclared declared ms))).itemsAt key =
      as.map f := by
    rw [Json.itemsAt, get?_together hms hnodup hkey, hknown]
    rfl
  constructor
  · exact keptBut_together hms hnodup
  · rw [hwritten]
    apply hreads.forall₂_map
    intro v hv a ha
    exact hR v a (Json.wellFormed_of_mem_itemsOf (Json.wellFormed_of_get? hms key) v hv) ha

end Members

/-! ## The entities -/

namespace Param

def Kept (v w : Json) : Prop :=
  v.KeptBut declared w

theorem exists_members {v : Json} {p : Param} (h : decode v = .ok p) :
    ∃ ms, v = .obj ms ∧ p.extra = undeclared declared ms := by
  unfold decode at h
  split at h
  · rename_i ms
    simp only [bind_eq_ok] at h
    obtain ⟨_, -, _, -, _, -, _, -, _, -, h⟩ := h
    obtain rfl := Except.ok.inj h
    exact ⟨ms, rfl, rfl⟩
  · simp at h

theorem kept_encode (v : Json) (p : Param) (hv : v.WellFormed) (h : decode v = .ok p) :
    Kept v p.encode := by
  obtain ⟨ms, rfl, hextra⟩ := exists_members h
  rw [encode_eq, hextra]
  exact keptBut_together hv (by simp [known])

theorem forall₂_kept {vs : List Json} {ps : List Param} (hvs : ∀ v ∈ vs, v.WellFormed)
    (h : Reads decode vs ps) : List.Forall₂ Kept vs (ps.map encode) :=
  h.forall₂_map fun v hv p hp => kept_encode v p (hvs v hv) hp

end Param

namespace InterfaceParams

theorem reads_of_decode {v : Json} {p : InterfaceParams} (h : decode v = .ok p) :
    Reads Param.decode (Json.itemsOf (v.part? "inputs" 0)) p.inputs ∧
      Reads Param.decode (Json.itemsOf (v.part? "outputs" 1)) p.outputs := by
  unfold decode at h
  split at h
  · simp only [bind_eq_ok] at h
    obtain ⟨_, hinputs, _, houtputs, h⟩ := h
    obtain rfl := Except.ok.inj h
    exact ⟨reads_of_member hinputs, reads_of_member houtputs⟩
  · simp only [bind_eq_ok] at h
    obtain ⟨_, hinputs, _, houtputs, _, -, h⟩ := h
    obtain rfl := Except.ok.inj h
    exact ⟨reads_of_item hinputs, reads_of_item houtputs⟩
  · simp at h

theorem reads_of_member {ms : Members} {p : InterfaceParams}
    (h : member decode "params" {} ms = .ok p) :
    Reads Param.decode ((Json.obj ms).paramsAt "inputs" 0) p.inputs ∧
      Reads Param.decode ((Json.obj ms).paramsAt "outputs" 1) p.outputs := by
  unfold Decoder.member at h
  cases hfound : ms.find? "params" with
  | none =>
    rw [hfound] at h
    rw [Json.paramsAt, Json.paramsAt, Json.get?, hfound]
    obtain rfl := Except.ok.inj h
    exact ⟨.nil, .nil⟩
  | some v =>
    rw [hfound] at h
    rw [Json.paramsAt, Json.paramsAt, Json.get?, hfound]
    exact reads_of_decode h

theorem part?_inputs (p : InterfaceParams) :
    p.encode.part? "inputs" 0 = some (encodeList Param.encode p.inputs) := by
  rw [encode, Json.object, Json.part?, find?_ofList (by simp)]
  rfl

theorem part?_outputs (p : InterfaceParams) :
    p.encode.part? "outputs" 1 = some (encodeList Param.encode p.outputs) := by
  rw [encode, Json.object, Json.part?, find?_ofList (by simp)]
  rfl

end InterfaceParams

namespace Interface

structure Kept (v w : Json) : Prop where
  own : v.KeptBut declared w
  inputs : List.Forall₂ Param.Kept (v.paramsAt "inputs" 0) (w.paramsAt "inputs" 0)
  outputs : List.Forall₂ Param.Kept (v.paramsAt "outputs" 1) (w.paramsAt "outputs" 1)

theorem exists_members {v : Json} {i : Interface} (h : decode v = .ok i) :
    ∃ ms, v = .obj ms ∧ i.extra = undeclared declared ms ∧
      member InterfaceParams.decode "params" {} ms = .ok i.params := by
  unfold decode at h
  split at h
  · rename_i ms
    simp only [bind_eq_ok] at h
    obtain ⟨_, -, _, -, _, -, _, -, _, -, _, hparams, _, -, _, -, h⟩ := h
    obtain rfl := Except.ok.inj h
    exact ⟨ms, rfl, rfl, hparams⟩
  · simp at h

theorem kept_encode (v : Json) (i : Interface) (hv : v.WellFormed) (h : decode v = .ok i) :
    Kept v i.withUpperMethod.encode := by
  obtain ⟨ms, rfl, hextra, hparams⟩ := exists_members h
  obtain ⟨hinputs, houtputs⟩ := InterfaceParams.reads_of_member hparams
  have hnodup : (i.withUpperMethod.known.map (·.1)).Nodup := by simp [known]
  have hencode : i.withUpperMethod.encode =
      .obj (insertAll (ofSome i.withUpperMethod.known) (undeclared declared ms)) := by
    rw [← hextra]
    rfl
  -- the object of the parameters is written anew, as the lists of both directions alone
  have hwritten : i.withUpperMethod.encode.get? "params" = some i.params.encode := by
    rw [hencode, get?_together hv hnodup (by simp [declared])]
    rfl
  have hlist {key : String} {index : Nat} {ps : List Param}
      (hpart : i.params.encode.part? key index = some (encodeList Param.encode ps)) :
      i.withUpperMethod.encode.paramsAt key index = ps.map Param.encode := by
    rw [Json.paramsAt, hwritten, Option.bind_some, hpart]
    rfl
  constructor
  · rw [hencode]
    exact keptBut_together hv hnodup
  · rw [hlist (InterfaceParams.part?_inputs i.params)]
    exact Param.forall₂_kept (Json.wellFormed_paramsAt hv "inputs" 0) hinputs
  · rw [hlist (InterfaceParams.part?_outputs i.params)]
    exact Param.forall₂_kept (Json.wellFormed_paramsAt hv "outputs" 1) houtputs

end Interface

namespace DataType

/-- The name of the fields is among the declared ones, though they are not read. -/
def Kept : Json → Json → Prop :=
  Json.KeptWith ("fields" :: declared) "params" Param.Kept

theorem exists_members {v : Json} {d : DataType} (h : decode v = .ok d) :
    ∃ ms, v = .obj ms ∧ d.extra = undeclared declared ms ∧
      Reads Param.decode ((Json.obj ms).itemsAt "params") d.params := by
  unfold decode at h
  split at h
  · rename_i ms
    simp only [bind_eq_ok] at h
    obtain ⟨_, -, _, -, _, -, _, -, _, hparams, _, -, h⟩ := h
    obtain rfl := Except.ok.inj h
    exact ⟨ms, rfl, rfl, reads_of_member hparams⟩
  · simp at h

theorem kept_encode (catalog : List DataType) (v : Json) (d : DataType) (hv : v.WellFormed)
    (h : decode v = .ok d) : Kept v (d.withFields catalog).encode := by
  obtain ⟨ms, rfl, hextra, hparams⟩ := exists_members h
  have hextra' : (d.withFields catalog).extra = undeclared declared ms := hextra
  rw [encode_eq, hextra']
  apply Json.KeptWith.mono _ (List.subset_cons_self "fields" declared)
  exact keptWith_together hv (by simp [known]) (by simp [declared]) rfl hparams Param.kept_encode

end DataType

namespace PageTemplate

def Kept : Json → Json → Prop :=
  Json.KeptWith declared "params" Param.Kept

theorem exists_members {v : Json} {t : PageTemplate} (h : decode v = .ok t) :
    ∃ ms, v = .obj ms ∧ t.extra = undeclared declared ms ∧
      Reads Param.decode ((Json.obj ms).itemsAt "params") t.params := by
  unfold decode at h
  split at h
  · rename_i ms
    simp only [bind_eq_ok] at h
    obtain ⟨_, -, _, -, _, -, _, hparams, _, -, h⟩ := h
    obtain rfl := Except.ok.inj h
    exact ⟨ms, rfl, rfl, reads_of_member hparams⟩
  · simp at h

theorem kept_encode (v : Json) (t : PageTemplate) (hv : v.WellFormed) (h : decode v = .ok t) :
    Kept v t.encode := by
  obtain ⟨ms, rfl, hextra, hparams⟩ := exists_members h
  rw [encode_eq, hextra]
  exact keptWith_together hv (by simp [known]) (by simp [declared]) rfl hparams Param.kept_encode

end PageTemplate

namespace Page

def Kept : Json → Json → Prop :=
  Json.KeptWith declared "templates" PageTemplate.Kept

theorem exists_members {v : Json} {p : Page} (h : decode v = .ok p) :
    ∃ ms, v = .obj ms ∧ p.extra = undeclared declared ms ∧
      Reads PageTemplate.decode ((Json.obj ms).itemsAt "templates") p.templates := by
  unfold decode at h
  split at h
  · rename_i ms
    simp only [bind_eq_ok] at h
    obtain ⟨_, -, _, -, _, -, _, -, _, htemplates, h⟩ := h
    obtain rfl := Except.ok.inj h
    exact ⟨ms, rfl, rfl, reads_of_member htemplates⟩
  · simp at h

theorem kept_encode (v : Json) (p : Page) (hv : v.WellFormed) (h : decode v = .ok p) :
    Kept v p.encode := by
  obtain ⟨ms, rfl, hextra, htemplates⟩ := exists_members h
  rw [encode_eq, hextra]
  exact keptWith_together hv (by simp [known]) (by simp [declared]) rfl htemplates
    PageTemplate.kept_encode

end Page

/-! ## The context -/

/-- Templates see the attributes of interfaces, user types, templates and pages, and those of the
parameters and templates in them. -/
structure RenderContext.KeepsAttributes (c : RenderContext) (raw : Json) : Prop where
  interfaces : List.Forall₂ Interface.Kept (Json.itemsOf (raw.part? "interfaces" 2))
    (c.listed ["ds", "interfaces"])
  datatypes : List.Forall₂ DataType.Kept (RawExport.userTypesOf raw)
    (c.listed ["ds", "datatypes"])
  templates : List.Forall₂ PageTemplate.Kept (Json.itemsOf (raw.part? "templates" 4))
    (c.listed ["ds", "templates"])
  pages : List.Forall₂ Page.Kept (Json.itemsOf (raw.part? "pages" 5)) (c.listed ["ds", "pages"])

namespace Spec

variable {raw : Json} {s : Spec}

theorem ofExport_keeps_attributes (hraw : raw.WellFormed) (h : ofExport raw = .ok s)
    (args : RunArgs) : (RenderContext.ofSpec s args).KeepsAttributes raw := by
  obtain ⟨e, info, docs, he, rfl⟩ := exists_export_of_ofExport h
  have hsources := RawExport.sources_of_decode he
  have hwell (key : String) (index : Nat) :
      ∀ v ∈ Json.itemsOf (raw.part? key index), v.WellFormed :=
    Json.wellFormed_of_mem_itemsOf (Json.wellFormed_of_part? hraw key index)
  constructor
  · rw [RenderContext.listed_interfaces, ofParts, List.map_map]
    exact hsources.interfaces.forall₂_map fun v hv i hi =>
      Interface.kept_encode v i (hwell _ _ v hv) hi
  · rw [RenderContext.listed_datatypes, datatypes_ofParts, List.map_map]
    exact hsources.userTypes.forall₂_map fun v hv d hd =>
      DataType.kept_encode e.datatypes v d (RawExport.wellFormed_of_mem_userTypesOf hraw v hv) hd
  · rw [RenderContext.listed_templates]
    exact hsources.templates.forall₂_map fun v hv t ht =>
      PageTemplate.kept_encode v t (hwell _ _ v hv) ht
  · rw [RenderContext.listed_pages]
    exact hsources.pages.forall₂_map fun v hv p hp => Page.kept_encode v p (hwell _ _ v hv) hp

/-- An object with a note, which no entity knows. -/
def noted (others : Members) : Json :=
  .obj (("note", .str "n") :: others)

def notedTemplate : Json :=
  noted [("params", .arr [noted []])]

/-- Notes at every entity and at all that stands in one. -/
def notedExport : Json :=
  .obj [("datatypes", .arr [noted [("params", .arr [noted []])]]),
    ("interfaces", .arr [noted [("params", .obj [("inputs", .arr [noted []])])]]),
    ("pages", .arr [noted [("templates", .arr [notedTemplate])]]),
    ("specs", .arr [.obj []]), ("templates", .arr [notedTemplate])]

theorem ofExport_keeps_note_of_nested_parameter :
    ∃ s, ofExport notedExport = .ok s ∧ ∀ args,
      ∃ page ∈ (RenderContext.ofSpec s args).listed ["ds", "pages"],
        ∃ t ∈ page.itemsAt "templates", ∃ p ∈ t.itemsAt "params",
          p.get? "note" = some (.str "n") := by
  have hwell : notedExport.WellFormed := by
    simp only [notedExport, notedTemplate, noted, Json.WellFormed, Json.WellFormedItems,
      Json.WellFormedMembers, Members.Sorted, and_true, true_and]
    decide
  refine ⟨_, rfl, fun args => ?_⟩
  have hkept := ofExport_keeps_attributes hwell rfl args
  obtain ⟨page, _, hpage, -, hpages⟩ := List.forall₂_cons_left_iff.1 hkept.pages
  obtain ⟨t, _, ht, -, htemplates⟩ := List.forall₂_cons_left_iff.1 hpage.items
  obtain ⟨p, _, hp, -, hparams⟩ := List.forall₂_cons_left_iff.1 ht.items
  refine ⟨page, by simp [hpages], t, by simp [htemplates], p, by simp [hparams], ?_⟩
  exact hp "note" (by simp [Param.declared]) _ rfl

/-- A type of the system with a note, and a note beside the lists of parameters. -/
def unseenExport : Json :=
  .obj [("datatypes", .arr [noted [("type", Json.int 1)]]),
    ("interfaces", .arr [.obj [("params", noted [])]]), ("specs", .arr [.obj []])]

theorem ofExport_loses_notes :
    ∃ s, ofExport unseenExport = .ok s ∧ ∀ args,
      ¬ List.Forall₂ DataType.Kept (Json.itemsOf (unseenExport.part? "datatypes" 3))
          ((RenderContext.ofSpec s args).listed ["ds", "datatypes"]) ∧
      ¬ List.Forall₂ (fun v w => ∀ params ∈ v.get? "params", ∃ params' ∈ w.get? "params",
          params.KeptBut InterfaceParams.declared params')
          (Json.itemsOf (unseenExport.part? "interfaces" 2))
          ((RenderContext.ofSpec s args).listed ["ds", "interfaces"]) := by
  obtain ⟨s, hs, hdatatypes, hinterfaces⟩ :
      ∃ s, ofExport unseenExport = .ok s ∧ s.datatypes = [] ∧ s.interfaces = [{}] :=
    ⟨_, rfl, rfl, rfl⟩
  refine ⟨s, hs, fun args => ⟨?_, ?_⟩⟩
  · rw [RenderContext.listed_datatypes, hdatatypes]
    intro h
    exact absurd h.length_eq (by decide)
  · rw [RenderContext.listed_interfaces, hinterfaces]
    intro h
    obtain ⟨h, -⟩ := List.forall₂_cons.1 h
    obtain ⟨params, hparams, hkept⟩ := h (noted []) rfl
    obtain rfl := Option.some.inj hparams
    have hnote := hkept "note" (by simp [InterfaceParams.declared]) (.str "n") rfl
    have hnone : (InterfaceParams.encode {}).get? "note" = none := rfl
    exact Option.some_ne_none _ (hnote.symm.trans hnone)

end Spec

end Scaffold

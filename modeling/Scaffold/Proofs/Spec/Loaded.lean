import Mathlib
import Scaffold.Proofs.Spec.Decoded
import Scaffold.Proofs.Spec.Resolution
import Scaffold.Proofs.Yaml.WellFormed
import Scaffold.Spec.Load

/-!
# What is loaded

The entities of a spec were all read from its export, and the lists of data types that templates
see are parts of the catalog. Texts of exports give well-formed values however they are written,
so this holds of whatever is loaded.
-/

namespace Scaffold

open Decoder

/-! ## Exports -/

structure RawExport.Decoded (e : RawExport) : Prop where
  interfaces : ∀ i ∈ e.interfaces, i.Decoded
  datatypes : ∀ d ∈ e.datatypes, d.Decoded

theorem RawExport.decode_gives : Gives RawExport.decode RawExport.Decoded := by
  intro v e hv h
  have hinterfaces := Interface.decode_gives.list
  have hdatatypes := DataType.decode_gives.list
  unfold decode at h
  split at h
  · have hms := (Json.wellFormed_obj_iff.1 hv).2
    simp only [bind_eq_ok] at h
    obtain ⟨_, -, _, hd, _, hi, _, -, _, -, _, -, _, -, h⟩ := h
    obtain rfl := Except.ok.inj h
    exact ⟨hinterfaces.member (by simp) hms hi, hdatatypes.member (by simp) hms hd⟩
  · have hxs := Json.wellFormed_arr_iff.1 hv
    simp only [bind_eq_ok] at h
    obtain ⟨_, -, _, -, _, hi, _, hd, _, -, _, -, _, -, _, -, h⟩ := h
    obtain rfl := Except.ok.inj h
    exact ⟨hinterfaces.item (by simp) hxs hi, hdatatypes.item (by simp) hxs hd⟩
  · simp at h

theorem Interface.Decoded.withUpperMethod {i : Interface} (h : i.Decoded) :
    i.withUpperMethod.Decoded :=
  ⟨h.id, h.resFormat, h.params, h.extra⟩

theorem DataType.Decoded.withFields {d : DataType} (h : d.Decoded) (catalog : List DataType) :
    (d.withFields catalog).Decoded :=
  ⟨h.params, h.extra⟩

/-! ## Specs -/

structure Spec.Decoded (s : Spec) : Prop where
  interfaces : ∀ i ∈ s.interfaces, i.Decoded
  typeCatalog : ∀ d ∈ s.typeCatalog, d.Decoded
  datatypes : s.datatypes = s.typeCatalog.filter DataType.isUser
  datatypeEnums : s.datatypeEnums = s.datatypes.filter DataType.isEnum

theorem Spec.decoded_ofParts {e : RawExport} (h : e.Decoded) (raw : Json) (info : SpecInfo)
    (docs : List DocNode) : (ofParts raw e info docs).Decoded where
  interfaces := by
    intro i hi
    obtain ⟨j, hj, rfl⟩ := List.mem_map.1 hi
    exact (h.interfaces j hj).withUpperMethod
  typeCatalog := by
    intro d hd
    obtain ⟨c, hc, rfl⟩ := List.mem_map.1 hd
    exact (h.datatypes c hc).withFields e.datatypes
  datatypes := rfl
  datatypeEnums := rfl

theorem Spec.decoded_ofExport {raw : Json} {s : Spec} (hraw : raw.WellFormed)
    (h : ofExport raw = .ok s) : s.Decoded := by
  obtain ⟨e, info, docs, he, rfl⟩ := exists_export_of_ofExport h
  exact decoded_ofParts (RawExport.decode_gives raw e hraw he) raw info docs

theorem Spec.Decoded.of_mem_datatypes {s : Spec} (h : s.Decoded) :
    ∀ d ∈ s.datatypes, d.Decoded := by
  intro d hd
  rw [h.datatypes] at hd
  exact h.typeCatalog d (List.mem_of_mem_filter hd)

theorem Spec.Decoded.of_mem_enums {s : Spec} (h : s.Decoded) :
    ∀ d ∈ s.datatypeEnums, d.Decoded := by
  intro d hd
  rw [h.datatypeEnums] at hd
  exact h.of_mem_datatypes d (List.mem_of_mem_filter hd)

/-! ## Texts -/

theorem ExportFormat.wellFormed_of_parse {f : ExportFormat} {content : String} {v : Json}
    (h : f.parse content = .ok v) : v.WellFormed := by
  cases f with
  | json =>
    cases hparse : Json.parse? content with
    | none => simp [parse, hparse] at h
    | some w =>
      obtain rfl : w = v := by simpa [parse, hparse] using h
      exact Json.wellFormed_of_parse? hparse
  | yaml =>
    cases hparse : Yaml.parse? content with
    | none => simp [parse, hparse] at h
    | some w =>
      obtain rfl : w = v := by simpa [parse, hparse] using h
      exact Yaml.wellFormed_of_parse? hparse

theorem Spec.decoded_ofText {f : ExportFormat} {content : String} {s : Spec}
    (h : ofText f content = .ok s) : s.Decoded := by
  unfold ofText at h
  cases hparse : f.parse content with
  | error e => simp [hparse, bind, Except.bind] at h
  | ok v =>
    cases hspec : ofExport v with
    | error e => simp [hparse, hspec, bind, Except.bind, Except.mapError] at h
    | ok t =>
      obtain rfl : t = s := by
        simpa [hparse, hspec, bind, Except.bind, Except.mapError] using h
      exact decoded_ofExport (ExportFormat.wellFormed_of_parse hparse) hspec

end Scaffold

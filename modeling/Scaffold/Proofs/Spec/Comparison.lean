import Mathlib
import Scaffold.Proofs.Json.Equality
import Scaffold.Proofs.Spec.Codec

/-!
# Entities and what is written of them

Two interfaces that were read are equal just if equal values are written of them, since nothing
that an interface knows can be taken for something it does not know. Of equal data types equal
values are written. Nothing more is said of them: a data type writes its fields under a name that
may also be among the members it does not know, and those win.
-/

namespace Scaffold

open Decoder Members

/-! ## Members put together -/

namespace Members

variable {declared : List String} {known known' : List (String × Option Json)}
  {extra extra' : Members}

theorem or_beq_or {a a' b b' : Option Json} (ha : (a == a') = true) (hb : (b == b') = true) :
    (a.or b == a'.or b') = true := by
  cases a <;> cases a' <;> simp_all

theorem together_beq_of_beq (hkeys : known.map (·.1) = known'.map (·.1))
    (hnodup : (known.map (·.1)).Nodup) (hsorted : extra.Sorted) (hsorted' : extra'.Sorted)
    (hknown : (known == known') = true) (hextra : (extra == extra') = true) :
    (insertAll (ofSome known) extra == insertAll (ofSome known') extra') = true := by
  rw [beq_iff_find? (sorted_ofSome.insertAll extra) (sorted_ofSome.insertAll extra')]
  intro key
  rw [find?_together hnodup hsorted, find?_together (hkeys ▸ hnodup) hsorted']
  apply or_beq_or
  · exact (beq_iff_find? hsorted hsorted').1 hextra key
  · exact (known_beq_iff_lookup hkeys hnodup).1 hknown key

theorem together_beq (hkeys : known.map (·.1) = known'.map (·.1))
    (hnodup : (known.map (·.1)).Nodup) (hnames : ∀ m ∈ known, m.1 ∈ declared)
    (hnames' : ∀ m ∈ known', m.1 ∈ declared) (h : Foreign declared extra)
    (h' : Foreign declared extra') :
    (insertAll (ofSome known) extra == insertAll (ofSome known') extra') =
      (known == known' && extra == extra') := by
  rw [Bool.eq_iff_iff, Bool.and_eq_true]
  constructor
  · intro heq
    rw [beq_iff_find? (sorted_ofSome.insertAll extra) (sorted_ofSome.insertAll extra')] at heq
    simp only [find?_together hnodup h.sorted, find?_together (hkeys ▸ hnodup) h'.sorted] at heq
    -- under a declared name only what is known is found, under any other only what is not
    constructor
    · rw [known_beq_iff_lookup hkeys hnodup]
      intro key
      by_cases hkey : key ∈ declared
      · simpa [h.find?_eq_none key hkey, h'.find?_eq_none key hkey] using heq key
      · rw [lookup_of_undeclared hnames hkey, lookup_of_undeclared hnames' hkey]
        rfl
    · rw [beq_iff_find? h.sorted h'.sorted]
      intro key
      by_cases hkey : key ∈ declared
      · rw [h.find?_eq_none key hkey, h'.find?_eq_none key hkey]
        rfl
      · simpa [lookup_of_undeclared hnames hkey, lookup_of_undeclared hnames' hkey] using heq key
  · rintro ⟨hknown, hextra⟩
    exact together_beq_of_beq hkeys hnodup h.sorted h'.sorted hknown hextra

theorem ofSome_beq (hkeys : known.map (·.1) = known'.map (·.1))
    (hnodup : (known.map (·.1)).Nodup) :
    (insertAll (ofSome known) [] == insertAll (ofSome known') []) = (known == known') := by
  have hnames : ∀ m ∈ known, m.1 ∈ known.map (·.1) := fun m => List.mem_map_of_mem
  have hnames' : ∀ m ∈ known', m.1 ∈ known.map (·.1) := fun m hm =>
    hkeys ▸ List.mem_map_of_mem hm
  rw [together_beq hkeys hnodup hnames hnames' foreign_nil foreign_nil]
  exact Bool.and_true _

end Members

theorem pair_beq_pair (k : String) (a b : Option Json) : ((k, a) == (k, b)) = (a == b) := by
  change (k == k && a == b) = (a == b)
  simp

theorem encodeList_beq {α : Type} [BEq α] {f : α → Json} {xs ys : List α}
    (h : ∀ x ∈ xs, ∀ y ∈ ys, (f x == f y) = (x == y)) :
    (encodeList f xs == encodeList f ys) = (xs == ys) := by
  rw [encodeList, encodeList, Json.arr_beq_arr, map_beq_map h]

/-! ## Interfaces and their parameters -/

namespace Param

variable {p q : Param}

theorem beq_eq (p q : Param) : (p == q) =
    (p.name == q.name && (p.typeId == q.typeId && (p.typeName == q.typeName &&
      (p.isArray == q.isArray && (p.defaultValue == q.defaultValue &&
        (p.description == q.description && p.extra == q.extra)))))) := rfl

theorem known_beq (p q : Param) : (p.known == q.known) =
    (p.name == q.name && (p.isArray == q.isArray && (p.description == q.description &&
      (p.typeId == q.typeId && (p.typeName == q.typeName &&
        p.defaultValue == q.defaultValue))))) := by
  simp [known, pair_beq_pair, option_map_beq_map]

theorem encode_beq (hp : p.Decoded) (hq : q.Decoded) : (p.encode == q.encode) = (p == q) := by
  have hkeys : p.known.map (·.1) = q.known.map (·.1) := rfl
  rw [encode_eq, encode_eq, Json.obj_beq_obj,
    together_beq hkeys (by simp [known]) (by simp [known, declared]) (by simp [known, declared])
      hp.extra hq.extra, known_beq, beq_eq]
  ac_rfl

theorem beq_comm (hp : p.Decoded) (hq : q.Decoded) : (p == q) = (q == p) := by
  rw [← encode_beq hp hq, Json.beq_comm, encode_beq hq hp]

theorem beq_self (h : p.Decoded) : (p == p) = true := by
  have hdefault : (p.defaultValue == p.defaultValue) = true := by
    cases hv : p.defaultValue with
    | none => rfl
    | some v => exact Json.beq_self (h.defaultValue v hv).1
  rw [beq_eq, hdefault, Members.beq_self h.extra.wellFormed]
  simp

end Param

namespace InterfaceParams

variable {p q : InterfaceParams}

theorem beq_eq (p q : InterfaceParams) :
    (p == q) = (p.inputs == q.inputs && p.outputs == q.outputs) := rfl

theorem encode_beq (hp : p.Decoded) (hq : q.Decoded) : (p.encode == q.encode) = (p == q) := by
  have hkeys : p.known.map (·.1) = q.known.map (·.1) := rfl
  have hinputs : (encodeList Param.encode p.inputs == encodeList Param.encode q.inputs) =
      (p.inputs == q.inputs) :=
    encodeList_beq fun a ha b hb => Param.encode_beq (hp.inputs a ha) (hq.inputs b hb)
  have houtputs : (encodeList Param.encode p.outputs == encodeList Param.encode q.outputs) =
      (p.outputs == q.outputs) :=
    encodeList_beq fun a ha b hb => Param.encode_beq (hp.outputs a ha) (hq.outputs b hb)
  rw [encode_eq, encode_eq, Json.obj_beq_obj, ofSome_beq hkeys (by simp [known]), beq_eq]
  simp [known, pair_beq_pair, hinputs, houtputs]

theorem beq_self (h : p.Decoded) : (p == p) = true := by
  rw [beq_eq, list_beq_self fun q hq => Param.beq_self (h.inputs q hq),
    list_beq_self fun q hq => Param.beq_self (h.outputs q hq)]
  rfl

end InterfaceParams

namespace Interface

variable {i j : Interface}

theorem beq_eq (i j : Interface) : (i == j) =
    (i.id == j.id && (i.name == j.name && (i.method == j.method && (i.path == j.path &&
      (i.description == j.description && (i.resFormat == j.resFormat && (i.params == j.params &&
        (i.afterScript == j.afterScript && i.extra == j.extra)))))))) := rfl

theorem known_beq (i j : Interface) : (i.known == j.known) =
    (i.id == j.id && (i.name == j.name && (i.method == j.method && (i.path == j.path &&
      (i.description == j.description && (i.resFormat == j.resFormat &&
        (i.params.encode == j.params.encode && i.afterScript == j.afterScript))))))) := by
  simp [known, pair_beq_pair, option_map_beq_map]

theorem encode_beq (hi : i.Decoded) (hj : j.Decoded) : (i.encode == j.encode) = (i == j) := by
  have hkeys : i.known.map (·.1) = j.known.map (·.1) := rfl
  rw [encode_eq, encode_eq, Json.obj_beq_obj,
    together_beq hkeys (by simp [known]) (by simp [known, declared]) (by simp [known, declared])
      hi.extra hj.extra, known_beq, InterfaceParams.encode_beq hi.params hj.params, beq_eq]
  ac_rfl

theorem beq_comm (hi : i.Decoded) (hj : j.Decoded) : (i == j) = (j == i) := by
  rw [← encode_beq hi hj, Json.beq_comm, encode_beq hj hi]

theorem beq_self (h : i.Decoded) : (i == i) = true := by
  rw [beq_eq, InterfaceParams.beq_self h.params, Members.beq_self h.extra.wellFormed]
  simp

end Interface

/-! ## Data types -/

namespace Field

variable {f g : Field}

def known (f : Field) : List (String × Option Json) :=
  [("name", some (.str f.name)), ("type", some (.str f.typeName)),
    ("itemIsArray", some (.bool f.itemIsArray)), ("arrDim", some (.int f.arrDim)),
    ("description", some (.str f.description)), ("format", f.format.map Json.int)]

theorem encode_eq (f : Field) : f.encode = .obj (insertAll (ofSome f.known) []) := rfl

theorem beq_eq (f g : Field) : (f == g) =
    (f.name == g.name && (f.typeName == g.typeName && (f.format == g.format &&
      (f.itemIsArray == g.itemIsArray && (f.arrDim == g.arrDim &&
        f.description == g.description))))) := rfl

theorem known_beq (f g : Field) : (f.known == g.known) =
    (f.name == g.name && (f.typeName == g.typeName && (f.itemIsArray == g.itemIsArray &&
      (f.arrDim == g.arrDim && (f.description == g.description && f.format == g.format))))) := by
  have hdim : ((f.arrDim : Int) == g.arrDim) = (f.arrDim == g.arrDim) := by
    rw [Bool.eq_iff_iff, beq_iff_eq, beq_iff_eq, Int.natCast_inj]
  simp [known, pair_beq_pair, option_map_beq_map, hdim]

theorem encode_beq (f g : Field) : (f.encode == g.encode) = (f == g) := by
  have hkeys : f.known.map (·.1) = g.known.map (·.1) := rfl
  rw [encode_eq, encode_eq, Json.obj_beq_obj, ofSome_beq hkeys (by simp [known]), known_beq,
    beq_eq]
  ac_rfl

theorem beq_comm (f g : Field) : (f == g) = (g == f) := by
  rw [← encode_beq, Json.beq_comm, encode_beq]

theorem beq_self (f : Field) : (f == f) = true := by
  simp [beq_eq]

end Field

namespace DataType

variable {d e : DataType}

def known (d : DataType) : List (String × Option Json) :=
  [("id", some (.int d.id)), ("name", some (.str d.name)), ("format", some (.int d.format)),
    ("type", some (.int d.kind)), ("description", some (.str d.description)),
    ("params", some (encodeList Param.encode d.params)),
    ("fields", some (encodeList Field.encode d.fields))]

theorem encode_eq (d : DataType) : d.encode = .obj (insertAll (ofSome d.known) d.extra) := by
  rw [encode, ofList_eq_ofSome]
  rfl

theorem beq_eq (d e : DataType) : (d == e) =
    (d.id == e.id && (d.name == e.name && (d.format == e.format && (d.kind == e.kind &&
      (d.description == e.description && (d.params == e.params && (d.fields == e.fields &&
        d.extra == e.extra))))))) := rfl

theorem known_beq (hd : d.Decoded) (he : e.Decoded) : (d.known == e.known) =
    (d.id == e.id && (d.name == e.name && (d.format == e.format && (d.kind == e.kind &&
      (d.description == e.description && (d.params == e.params && d.fields == e.fields)))))) := by
  have hparams : (encodeList Param.encode d.params == encodeList Param.encode e.params) =
      (d.params == e.params) :=
    encodeList_beq fun p hp q hq => Param.encode_beq (hd.params p hp) (he.params q hq)
  have hfields : (encodeList Field.encode d.fields == encodeList Field.encode e.fields) =
      (d.fields == e.fields) :=
    encodeList_beq fun f _ g _ => Field.encode_beq f g
  simp [known, pair_beq_pair, hparams, hfields]

theorem encode_beq_of_beq (hd : d.Decoded) (he : e.Decoded) (h : (d == e) = true) :
    (d.encode == e.encode) = true := by
  have hkeys : d.known.map (·.1) = e.known.map (·.1) := rfl
  have hparts : (d.known == e.known) = true ∧ (d.extra == e.extra) = true := by
    rw [known_beq hd he, ← Bool.and_eq_true]
    rw [beq_eq] at h
    simpa only [Bool.and_assoc] using h
  rw [encode_eq, encode_eq, Json.obj_beq_obj]
  exact together_beq_of_beq hkeys (by simp [known]) hd.extra.sorted he.extra.sorted
    hparts.1 hparts.2

theorem beq_comm (hd : d.Decoded) (he : e.Decoded) : (d == e) = (e == d) := by
  have hparams : (d.params == e.params) = (e.params == d.params) :=
    list_beq_comm fun p hp q hq => Param.beq_comm (hd.params p hp) (he.params q hq)
  have hfields : (d.fields == e.fields) = (e.fields == d.fields) :=
    list_beq_comm fun f _ g _ => Field.beq_comm f g
  rw [beq_eq, beq_eq, hparams, hfields, Members.beq_comm d.extra, BEq.comm (a := d.id),
    BEq.comm (a := d.name), BEq.comm (a := d.format), BEq.comm (a := d.kind),
    BEq.comm (a := d.description)]

theorem beq_self (h : d.Decoded) : (d == d) = true := by
  rw [beq_eq, list_beq_self fun p hp => Param.beq_self (h.params p hp),
    list_beq_self fun f _ => Field.beq_self f, Members.beq_self h.extra.wellFormed]
  simp

end DataType

end Scaffold

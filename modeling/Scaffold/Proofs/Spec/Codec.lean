import Mathlib
import Scaffold.Proofs.Spec.Decoded

/-!
# Entities survive being written and read

An entity writes the members it knows and then the ones it does not, which have other names. So
the reader finds every member that was written, and what it does not know is what the entity did
not know before. Whatever was read once is read again from what is written.
-/

namespace Scaffold

open Decoder Members

/-! ## Members that are found again -/

namespace Decoder

variable {α : Type} {d : Decoder α}

theorem optional_eq_some {v : Json} {a : α} (hv : v ≠ .null) (h : d v = .ok a) :
    optional d v = .ok (some a) := by
  unfold Decoder.optional
  split
  · exact absurd rfl hv
  · rw [h]

theorem optional_map {f : α → Json} {o : Option α} (hread : ∀ a ∈ o, d (f a) = .ok a)
    (hnull : ∀ a ∈ o, f a ≠ .null) : (o.map f).elim (.ok none) (optional d) = .ok o := by
  cases o with
  | none => rfl
  | some a => exact optional_eq_some (hnull a rfl) (hread a rfl)

theorem each_map {f : α → Json} {as : List α} (h : ∀ a ∈ as, d (f a) = .ok a) :
    each d (as.map f) = .ok as := by
  induction as with
  | nil => rfl
  | cons a as ih =>
    rw [List.map_cons, each, h a (by simp)]
    dsimp only
    rw [ih fun b hb => h b (List.mem_cons_of_mem a hb)]

theorem list_encodeList {f : α → Json} {as : List α} (h : ∀ a ∈ as, d (f a) = .ok a) :
    list d (encodeList f as) = .ok as :=
  each_map h

theorem integer_int {n : Int} (h : InRange n) : integer (Json.int n) = .ok n :=
  if_pos h

end Decoder

namespace Members

/-- Members that hold the known ones under the declared names, and beside them the others. -/
structure Holds (declared : List String) (known : List (String × Option Json))
    (extra ms : Members) : Prop where
  find? : ∀ key ∈ declared, find? key ms = (known.lookup key).join
  undeclared : undeclared declared ms = extra

variable {declared : List String} {known : List (String × Option Json)} {extra ms : Members}

theorem Foreign.holds_together (h : Foreign declared extra)
    (hnames : ∀ m ∈ known, m.1 ∈ declared) (hnodup : (known.map (·.1)).Nodup) :
    Holds declared known extra (insertAll (ofSome known) extra) := by
  constructor
  · intro key hkey
    rw [find?_together hnodup h.sorted, h.find?_eq_none key hkey, Option.none_or]
  · exact h.undeclared_together hnames hnodup

variable {α : Type} {d : Decoder α} {key : String}

theorem Holds.member_eq_ok (h : Holds declared known extra ms) {v : Json} {a default : α}
    (hkey : key ∈ declared) (hknown : (known.lookup key).join = some v) (hread : d v = .ok a) :
    member d key default ms = .ok a := by
  rw [member, h.find? key hkey, hknown]
  exact hread

theorem Holds.member_optional (h : Holds declared known extra ms) {f : α → Json} {o : Option α}
    (hkey : key ∈ declared) (hknown : (known.lookup key).join = o.map f)
    (hread : ∀ a ∈ o, d (f a) = .ok a) (hnull : ∀ a ∈ o, f a ≠ .null) :
    member (optional d) key none ms = .ok o := by
  rw [← optional_map hread hnull, ← hknown, ← h.find? key hkey, member]
  cases Members.find? key ms <;> rfl

end Members

/-! ## The entities -/

namespace Param

/-- The members that a parameter writes of its own. -/
def known (p : Param) : List (String × Option Json) :=
  [("name", some (.str p.name)), ("isArray", some (.bool p.isArray)),
    ("description", some (.str p.description)), ("type", p.typeId.map Json.int),
    ("typeName", p.typeName.map Json.str), ("defaultValue", p.defaultValue)]

theorem encode_eq (p : Param) : p.encode = .obj (insertAll (ofSome p.known) p.extra) := rfl

theorem decode_of_holds {p : Param} (h : p.Decoded) {ms : Members}
    (hms : Holds declared p.known p.extra ms) : decode (.obj ms) = .ok p := by
  have hname : member text "name" "" ms = .ok p.name :=
    hms.member_eq_ok (by simp [declared]) rfl rfl
  have harray : (ms.find? "isArray").elim false flag = p.isArray := by
    rw [hms.find? "isArray" (by simp [declared])]
    rfl
  have hdescription : member text "description" "" ms = .ok p.description :=
    hms.member_eq_ok (by simp [declared]) rfl rfl
  have htype : member (optional integer) "type" none ms = .ok p.typeId :=
    hms.member_optional (by simp [declared]) rfl (fun n hn => integer_int (h.typeId n hn))
      (by simp [Json.int])
  have htypeName : member (optional text) "typeName" none ms = .ok p.typeName :=
    hms.member_optional (by simp [declared]) rfl (fun s _ => rfl) (by simp)
  have hdefault : member (optional any) "defaultValue" none ms = .ok p.defaultValue :=
    hms.member_optional (by simp [declared]) Option.map_id_apply.symm
      (fun v _ => rfl) (fun v hv => (h.defaultValue v hv).2)
  rw [decode, hname, harray, hdescription, htype, htypeName, hdefault, hms.undeclared]
  rfl

theorem decode_encode {p : Param} (h : p.Decoded) : decode p.encode = .ok p := by
  rw [encode_eq]
  exact decode_of_holds h
    (h.extra.holds_together (by simp [known, declared]) (by simp [known]))

end Param

namespace InterfaceParams

def declared : List String :=
  ["inputs", "outputs"]

def known (p : InterfaceParams) : List (String × Option Json) :=
  [("inputs", some (encodeList Param.encode p.inputs)),
    ("outputs", some (encodeList Param.encode p.outputs))]

theorem encode_eq (p : InterfaceParams) : p.encode = .obj (insertAll (ofSome p.known) []) := by
  rw [encode, Json.object, ofList_eq_ofSome]
  rfl

theorem decode_of_holds {p : InterfaceParams} (h : p.Decoded) {ms : Members}
    (hms : Holds declared p.known [] ms) : decode (.obj ms) = .ok p := by
  have hinputs : member (list Param.decode) "inputs" [] ms = .ok p.inputs :=
    hms.member_eq_ok (by simp [declared]) rfl
      (list_encodeList fun q hq => Param.decode_encode (h.inputs q hq))
  have houtputs : member (list Param.decode) "outputs" [] ms = .ok p.outputs :=
    hms.member_eq_ok (by simp [declared]) rfl
      (list_encodeList fun q hq => Param.decode_encode (h.outputs q hq))
  rw [decode, hinputs, houtputs]
  rfl

theorem decode_encode {p : InterfaceParams} (h : p.Decoded) : decode p.encode = .ok p := by
  rw [encode_eq]
  exact decode_of_holds h
    (foreign_nil.holds_together (by simp [known, declared]) (by simp [known]))

end InterfaceParams

namespace Interface

/-- The members that an interface writes of its own. -/
def known (i : Interface) : List (String × Option Json) :=
  [("id", some (.int i.id)), ("name", some (.str i.name)), ("method", some (.str i.method)),
    ("path", some (.str i.path)), ("description", some (.str i.description)),
    ("resFormat", some (.int i.resFormat)), ("params", some i.params.encode),
    ("afterScript", i.afterScript.map Json.str)]

theorem encode_eq (i : Interface) : i.encode = .obj (insertAll (ofSome i.known) i.extra) := rfl

theorem decode_of_holds {i : Interface} (h : i.Decoded) {ms : Members}
    (hms : Holds declared i.known i.extra ms) : decode (.obj ms) = .ok i := by
  have hid : member integer "id" 0 ms = .ok i.id :=
    hms.member_eq_ok (by simp [declared]) rfl (integer_int h.id)
  have hname : member text "name" "" ms = .ok i.name :=
    hms.member_eq_ok (by simp [declared]) rfl rfl
  have hmethod : member text "method" "" ms = .ok i.method :=
    hms.member_eq_ok (by simp [declared]) rfl rfl
  have hpath : member text "path" "" ms = .ok i.path :=
    hms.member_eq_ok (by simp [declared]) rfl rfl
  have hdescription : member text "description" "" ms = .ok i.description :=
    hms.member_eq_ok (by simp [declared]) rfl rfl
  have hformat : member integer "resFormat" 0 ms = .ok i.resFormat :=
    hms.member_eq_ok (by simp [declared]) rfl (integer_int h.resFormat)
  have hparams : member InterfaceParams.decode "params" {} ms = .ok i.params :=
    hms.member_eq_ok (by simp [declared]) rfl (InterfaceParams.decode_encode h.params)
  have hscript : member (optional text) "afterScript" none ms = .ok i.afterScript :=
    hms.member_optional (by simp [declared]) rfl (fun s _ => rfl) (by simp)
  rw [decode, hid, hname, hmethod, hpath, hdescription, hformat, hparams, hscript, hms.undeclared]
  rfl

theorem decode_encode {i : Interface} (h : i.Decoded) : decode i.encode = .ok i := by
  rw [encode_eq]
  exact decode_of_holds h
    (h.extra.holds_together (by simp [known, declared]) (by simp [known]))

end Interface

namespace PageTemplate

/-- The members that a page template writes of its own. -/
def known (t : PageTemplate) : List (String × Option Json) :=
  [("id", some (.int t.id)), ("name", some (.str t.name)), ("path", some (.str t.path)),
    ("description", some (.str t.description)),
    ("params", some (encodeList Param.encode t.params))]

theorem encode_eq (t : PageTemplate) : t.encode = .obj (insertAll (ofSome t.known) t.extra) := by
  rw [encode, ofList_eq_ofSome]
  rfl

theorem decode_of_holds {t : PageTemplate} (h : t.Decoded) {ms : Members}
    (hms : Holds declared t.known t.extra ms) : decode (.obj ms) = .ok t := by
  have hid : member integer "id" 0 ms = .ok t.id :=
    hms.member_eq_ok (by simp [declared]) rfl (integer_int h.id)
  have hname : member text "name" "" ms = .ok t.name :=
    hms.member_eq_ok (by simp [declared]) rfl rfl
  have hpath : member text "path" "" ms = .ok t.path :=
    hms.member_eq_ok (by simp [declared]) rfl rfl
  have hdescription : member text "description" "" ms = .ok t.description :=
    hms.member_eq_ok (by simp [declared]) rfl rfl
  have hparams : member (list Param.decode) "params" [] ms = .ok t.params :=
    hms.member_eq_ok (by simp [declared]) rfl
      (list_encodeList fun p hp => Param.decode_encode (h.params p hp))
  rw [decode, hid, hname, hpath, hdescription, hparams, hms.undeclared]
  rfl

theorem decode_encode {t : PageTemplate} (h : t.Decoded) : decode t.encode = .ok t := by
  rw [encode_eq]
  exact decode_of_holds h
    (h.extra.holds_together (by simp [known, declared]) (by simp [known]))

end PageTemplate

namespace Page

/-- The members that a page writes of its own. -/
def known (p : Page) : List (String × Option Json) :=
  [("id", some (.int p.id)), ("name", some (.str p.name)), ("path", some (.str p.path)),
    ("description", some (.str p.description)),
    ("templates", some (encodeList PageTemplate.encode p.templates))]

theorem encode_eq (p : Page) : p.encode = .obj (insertAll (ofSome p.known) p.extra) := by
  rw [encode, ofList_eq_ofSome]
  rfl

theorem decode_of_holds {p : Page} (h : p.Decoded) {ms : Members}
    (hms : Holds declared p.known p.extra ms) : decode (.obj ms) = .ok p := by
  have hid : member integer "id" 0 ms = .ok p.id :=
    hms.member_eq_ok (by simp [declared]) rfl (integer_int h.id)
  have hname : member text "name" "" ms = .ok p.name :=
    hms.member_eq_ok (by simp [declared]) rfl rfl
  have hpath : member text "path" "" ms = .ok p.path :=
    hms.member_eq_ok (by simp [declared]) rfl rfl
  have hdescription : member text "description" "" ms = .ok p.description :=
    hms.member_eq_ok (by simp [declared]) rfl rfl
  have htemplates : member (list PageTemplate.decode) "templates" [] ms = .ok p.templates :=
    hms.member_eq_ok (by simp [declared]) rfl
      (list_encodeList fun t ht => PageTemplate.decode_encode (h.templates t ht))
  rw [decode, hid, hname, hpath, hdescription, htemplates, hms.undeclared]
  rfl

theorem decode_encode {p : Page} (h : p.Decoded) : decode p.encode = .ok p := by
  rw [encode_eq]
  exact decode_of_holds h
    (h.extra.holds_together (by simp [known, declared]) (by simp [known]))

end Page

namespace SpecAttributes

def declared : List String :=
  ["webRoot", "viewRoot", "mockApiRoot", "mockViewRoot"]

def known (a : SpecAttributes) : List (String × Option Json) :=
  [("webRoot", some (encodeId a.webRoot)), ("viewRoot", some (encodeId a.viewRoot)),
    ("mockApiRoot", some (encodeId a.mockApiRoot)),
    ("mockViewRoot", some (encodeId a.mockViewRoot))]

theorem encode_eq (a : SpecAttributes) : a.encode = .obj (insertAll (ofSome a.known) []) := by
  rw [encode, Json.object, ofList_eq_ofSome]
  rfl

theorem optional_integer_encodeId {n : Option Int} (h : ∀ k ∈ n, InRange k) :
    optional integer (encodeId n) = .ok n := by
  cases n with
  | none => rfl
  | some k => exact optional_eq_some (by simp [encodeId, Json.int]) (integer_int (h k rfl))

theorem decode_of_holds {a : SpecAttributes} (h : a.Decoded) {ms : Members}
    (hms : Holds declared a.known [] ms) : decode (.obj ms) = .ok a := by
  have hweb : member (optional integer) "webRoot" none ms = .ok a.webRoot :=
    hms.member_eq_ok (by simp [declared]) rfl (optional_integer_encodeId h.webRoot)
  have hview : member (optional integer) "viewRoot" none ms = .ok a.viewRoot :=
    hms.member_eq_ok (by simp [declared]) rfl (optional_integer_encodeId h.viewRoot)
  have hmockApi : member (optional integer) "mockApiRoot" none ms = .ok a.mockApiRoot :=
    hms.member_eq_ok (by simp [declared]) rfl (optional_integer_encodeId h.mockApiRoot)
  have hmockView : member (optional integer) "mockViewRoot" none ms = .ok a.mockViewRoot :=
    hms.member_eq_ok (by simp [declared]) rfl (optional_integer_encodeId h.mockViewRoot)
  rw [decode, hweb, hview, hmockApi, hmockView]
  rfl

theorem decode_encode {a : SpecAttributes} (h : a.Decoded) : decode a.encode = .ok a := by
  rw [encode_eq]
  exact decode_of_holds h
    (foreign_nil.holds_together (by simp [known, declared]) (by simp [known]))

end SpecAttributes

namespace SpecInfo

/-- The members that the spec writes of its own. -/
def known (s : SpecInfo) : List (String × Option Json) :=
  [("name", some (.str s.name)), ("engine", some (s.engine.getD .null)),
    ("viewExt", some (Json.ofText? s.viewExt)),
    ("attributes", s.attributes.map SpecAttributes.encode)]

theorem encode_eq (s : SpecInfo) : s.encode = .obj (insertAll (ofSome s.known) s.extra) := rfl

theorem optional_any_getD {v : Option Json} (h : ∀ w ∈ v, Present w) :
    optional any (v.getD .null) = .ok v := by
  cases v with
  | none => rfl
  | some w => exact optional_eq_some (h w rfl).2 rfl

theorem optional_text_ofText? (s : Option String) :
    optional text (Json.ofText? s) = .ok s := by
  cases s <;> rfl

theorem decode_of_holds {s : SpecInfo} (h : s.Decoded) {ms : Members}
    (hms : Holds declared s.known s.extra ms) : decode (.obj ms) = .ok s := by
  have hname : member text "name" "" ms = .ok s.name :=
    hms.member_eq_ok (by simp [declared]) rfl rfl
  have hengine : member (optional any) "engine" none ms = .ok s.engine :=
    hms.member_eq_ok (by simp [declared]) rfl (optional_any_getD h.engine)
  have hviewExt : member (optional text) "viewExt" none ms = .ok s.viewExt :=
    hms.member_eq_ok (by simp [declared]) rfl (optional_text_ofText? s.viewExt)
  have hattributes :
      member (optional SpecAttributes.decode) "attributes" none ms = .ok s.attributes :=
    hms.member_optional (by simp [declared]) rfl
      (fun a ha => SpecAttributes.decode_encode (h.attributes a ha))
      (by simp [SpecAttributes.encode_eq])
  rw [decode, hname, hengine, hviewExt, hattributes, hms.undeclared]
  rfl

theorem decode_encode {s : SpecInfo} (h : s.Decoded) : decode s.encode = .ok s := by
  rw [encode_eq]
  exact decode_of_holds h
    (h.extra.holds_together (by simp [known, declared]) (by simp [known]))

end SpecInfo

/-! ## Reading and writing in turn -/

variable {α : Type}

/-- Read an entity and write it. -/
def recode (decode : Decoder α) (encode : α → Json) (v : Json) : Except ShapeError Json :=
  (decode v).map encode

/-- What is read from a value is read from what is then written, so that writing it once more
changes nothing. -/
structure Recodes (decode : Decoder α) (encode : α → Json) (v : Json) : Prop where
  back : ∀ x, decode v = .ok x → decode (encode x) = .ok x
  again : ∀ w, recode decode encode v = .ok w → recode decode encode w = .ok w

theorem Decoder.Gives.recodes {decode : Decoder α} {encode : α → Json} {P : α → Prop}
    (hgives : Gives decode P) (hback : ∀ x, P x → decode (encode x) = .ok x) {v : Json}
    (hv : v.WellFormed) : Recodes decode encode v := by
  have hfirst : ∀ x, decode v = .ok x → decode (encode x) = .ok x := fun x hx =>
    hback x (hgives v x hv hx)
  constructor
  · exact hfirst
  · intro w hw
    unfold recode at hw ⊢
    cases hread : decode v with
    | error e => simp [hread, Except.map] at hw
    | ok x =>
      obtain rfl : encode x = w := by simpa [hread, Except.map] using hw
      rw [hfirst x hread]
      rfl

/-- All that is asked of the value is what every value of the program has: members in order, and
no undefined numbers. -/
theorem entities_survive_recoding {v : Json} (hv : v.WellFormed) :
    Recodes Interface.decode Interface.encode v ∧
      Recodes PageTemplate.decode PageTemplate.encode v ∧
      Recodes Page.decode Page.encode v ∧
      Recodes SpecInfo.decode SpecInfo.encode v :=
  ⟨Interface.decode_gives.recodes (fun _ => Interface.decode_encode) hv,
    PageTemplate.decode_gives.recodes (fun _ => PageTemplate.decode_encode) hv,
    Page.decode_gives.recodes (fun _ => Page.decode_encode) hv,
    SpecInfo.decode_gives.recodes (fun _ => SpecInfo.decode_encode) hv⟩

/-- An interface that lists its parameters by position, with flags that are no truth values. -/
def looseInterface : Json :=
  .obj [("afterScript", .null), ("className", .str "UserApi"), ("id", .int 7),
    ("params", .arr [
      .arr [.obj [("isArray", .int 1), ("name", .str "ids")],
        .obj [("isArray", .str "true"), ("note", .null), ("type", .int 3)]],
      .arr [.obj [("defaultValue", .null), ("isArray", .str "0")]]])]

theorem looseInterface_survives_recoding :
    looseInterface.WellFormed ∧ ∃ x, Interface.decode looseInterface = .ok x ∧
      x.params.inputs.map (·.isArray) = [true, true] ∧
      x.params.outputs.map (·.isArray) = [false] ∧
      Interface.decode x.encode = .ok x := by
  have hwell : looseInterface.WellFormed := by
    simp only [looseInterface, Json.WellFormed, Json.WellFormedItems, Json.WellFormedMembers,
      Members.Sorted, Json.int, Number.IsDefined, and_true, true_and]
    decide
  exact ⟨hwell, _, rfl, rfl, rfl, (entities_survive_recoding hwell).1.back _ rfl⟩

end Scaffold

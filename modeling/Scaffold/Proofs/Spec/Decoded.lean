import Mathlib
import Scaffold.Proofs.Json.Lookup
import Scaffold.Proofs.Json.WellFormed

/-!
# What is decoded

What an entity that is read from a well-formed value keeps to: its numbers have sixty-four bits,
a value that may be left out is never `null`, and the members it does not know are in order and
have none of the declared names.
-/

namespace Scaffold

/-! ## Readers -/

namespace Decoder

variable {α β : Type} {d : Decoder α} {P : α → Prop}

theorem bind_eq_ok {x : Except ShapeError α} {f : α → Except ShapeError β} {b : β} :
    x >>= f = .ok b ↔ ∃ a, x = .ok a ∧ f a = .ok b := by
  cases x <;> simp [bind, Except.bind]

theorem each_cons_eq_ok {v : Json} {vs : List Json} {as : List α} :
    each d (v :: vs) = .ok as ↔
      ∃ a rest, d v = .ok a ∧ each d vs = .ok rest ∧ as = a :: rest := by
  rw [each]
  cases d v with
  | error e => simp
  | ok a => cases each d vs <;> simp [eq_comm]

/-- Whatever is read from a well-formed value satisfies `P`. -/
def Gives (d : Decoder α) (P : α → Prop) : Prop :=
  ∀ v a, v.WellFormed → d v = .ok a → P a

theorem Gives.member (hd : Gives d P) {key : String} {default a : α} (hdefault : P default)
    {ms : Members} (hms : ∀ m ∈ ms, m.2.WellFormed) (h : member d key default ms = .ok a) :
    P a := by
  unfold Decoder.member at h
  split at h
  · rename_i v hfound
    exact hd v a (hms _ (Members.mem_of_find? hfound)) h
  · obtain rfl := Except.ok.inj h
    exact hdefault

theorem Gives.item (hd : Gives d P) {index : Nat} {default a : α} (hdefault : P default)
    {xs : List Json} (hxs : ∀ x ∈ xs, x.WellFormed) (h : item d index default xs = .ok a) :
    P a := by
  unfold Decoder.item at h
  split at h
  · rename_i v hfound
    exact hd v a (hxs v (List.mem_of_getElem? hfound)) h
  · obtain rfl := Except.ok.inj h
    exact hdefault

theorem Gives.optional (hd : Gives d P) : Gives (optional d) fun o => ∀ a ∈ o, P a := by
  intro v o hv h
  unfold Decoder.optional at h
  split at h
  · obtain rfl := Except.ok.inj h
    simp
  · split at h
    · rename_i a ha
      obtain rfl := Except.ok.inj h
      intro b hb
      obtain rfl := Option.some.inj hb
      exact hd v a hv ha
    · simp at h

theorem Gives.each (hd : Gives d P) {xs : List Json} {as : List α} (hxs : ∀ x ∈ xs, x.WellFormed)
    (h : each d xs = .ok as) : ∀ a ∈ as, P a := by
  induction xs generalizing as with
  | nil =>
    obtain rfl := Except.ok.inj h
    simp
  | cons x xs ih =>
    obtain ⟨a, rest, ha, hrest, rfl⟩ := each_cons_eq_ok.1 h
    have hfront : P a := hd x a (hxs x (by simp)) ha
    exact List.forall_mem_cons.2
      ⟨hfront, ih (fun y hy => hxs y (List.mem_cons_of_mem x hy)) hrest⟩

theorem Gives.list (hd : Gives d P) : Gives (list d) fun as => ∀ a ∈ as, P a := by
  intro v as hv h
  unfold Decoder.list at h
  split at h
  · exact hd.each (Json.wellFormed_arr_iff.1 hv) h
  · simp at h

/-- What fits into sixty-four bits with sign. -/
def InRange (n : Int) : Prop := -2 ^ 63 ≤ n ∧ n < 2 ^ 63

theorem inRange_zero : InRange 0 := by
  unfold InRange
  omega

theorem integer_gives : Gives integer InRange := by
  intro v n _ h
  unfold integer at h
  split at h
  · split_ifs at h with hrange
    obtain rfl := Except.ok.inj h
    exact hrange
  · simp at h

/-- A value that is there: `null` is read as one that is not. -/
def Present (v : Json) : Prop := v.WellFormed ∧ v ≠ .null

theorem optional_any_gives : Gives (optional any) fun o => ∀ v ∈ o, Present v := by
  intro v o hv h
  unfold optional any at h
  split at h
  · obtain rfl := Except.ok.inj h
    simp
  · rename_i hne
    obtain rfl := Except.ok.inj h
    intro w hw
    obtain rfl := Option.some.inj hw
    exact ⟨hv, hne⟩

end Decoder

/-! ## Unknown members -/

namespace Members

/-- Members in order, none of them under a declared name. -/
structure Foreign (declared : List String) (extra : Members) : Prop where
  sorted : extra.Sorted
  wellFormed : ∀ m ∈ extra, m.2.WellFormed
  find?_eq_none : ∀ key ∈ declared, find? key extra = none

theorem foreign_nil {declared : List String} : Foreign declared [] :=
  ⟨sorted_nil, by simp, fun _ _ => rfl⟩

theorem foreign_undeclared {declared : List String} {ms : Members} (h : (Json.obj ms).WellFormed) :
    Foreign declared (undeclared declared ms) := by
  obtain ⟨hsorted, hwell⟩ := Json.wellFormed_obj_iff.1 h
  refine ⟨hsorted.undeclared, ?_, ?_⟩
  · intro m hm
    exact hwell m (List.mem_of_mem_filter hm)
  · intro key hkey
    rw [find?_undeclared, if_pos hkey]

theorem Foreign.undeclared_together {declared : List String} {extra : Members}
    (h : Foreign declared extra) {known : List (String × Option Json)}
    (hnames : ∀ m ∈ known, m.1 ∈ declared) (hnodup : (known.map (·.1)).Nodup) :
    undeclared declared (insertAll (ofSome known) extra) = extra := by
  apply ext_of_sorted (sorted_ofSome.insertAll extra).undeclared h.sorted
  intro key
  rw [find?_undeclared]
  split_ifs with hkey
  · exact (h.find?_eq_none key hkey).symm
  · rw [find?_together hnodup h.sorted, lookup_of_undeclared hnames hkey]
    simp

end Members

/-! ## Entities -/

open Decoder Members

structure Param.Decoded (p : Param) : Prop where
  typeId : ∀ n ∈ p.typeId, InRange n
  defaultValue : ∀ v ∈ p.defaultValue, Present v
  extra : Foreign Param.declared p.extra

structure InterfaceParams.Decoded (p : InterfaceParams) : Prop where
  inputs : ∀ q ∈ p.inputs, q.Decoded
  outputs : ∀ q ∈ p.outputs, q.Decoded

structure Interface.Decoded (i : Interface) : Prop where
  id : InRange i.id
  resFormat : InRange i.resFormat
  params : i.params.Decoded
  extra : Foreign Interface.declared i.extra

structure DataType.Decoded (d : DataType) : Prop where
  params : ∀ p ∈ d.params, p.Decoded
  extra : Foreign DataType.declared d.extra

structure PageTemplate.Decoded (t : PageTemplate) : Prop where
  id : InRange t.id
  params : ∀ p ∈ t.params, p.Decoded
  extra : Foreign PageTemplate.declared t.extra

structure Page.Decoded (p : Page) : Prop where
  id : InRange p.id
  templates : ∀ t ∈ p.templates, t.Decoded
  extra : Foreign Page.declared p.extra

structure SpecAttributes.Decoded (a : SpecAttributes) : Prop where
  webRoot : ∀ n ∈ a.webRoot, InRange n
  viewRoot : ∀ n ∈ a.viewRoot, InRange n
  mockApiRoot : ∀ n ∈ a.mockApiRoot, InRange n
  mockViewRoot : ∀ n ∈ a.mockViewRoot, InRange n

structure SpecInfo.Decoded (s : SpecInfo) : Prop where
  engine : ∀ v ∈ s.engine, Present v
  attributes : ∀ a ∈ s.attributes, a.Decoded
  extra : Foreign SpecInfo.declared s.extra

theorem Param.decode_gives : Gives Param.decode Param.Decoded := by
  intro v p hv h
  unfold decode at h
  split at h
  · rename_i ms
    have hms := (Json.wellFormed_obj_iff.1 hv).2
    simp only [bind_eq_ok] at h
    obtain ⟨_, hdefault, _, -, _, -, _, htype, _, -, h⟩ := h
    obtain rfl := Except.ok.inj h
    exact {
      typeId := integer_gives.optional.member (by simp) hms htype
      defaultValue := optional_any_gives.member (by simp) hms hdefault
      extra := foreign_undeclared hv }
  · simp at h

theorem InterfaceParams.decode_gives : Gives InterfaceParams.decode InterfaceParams.Decoded := by
  intro v p hv h
  have hlist := Param.decode_gives.list
  unfold decode at h
  split at h
  · have hms := (Json.wellFormed_obj_iff.1 hv).2
    simp only [bind_eq_ok] at h
    obtain ⟨_, hinputs, _, houtputs, h⟩ := h
    obtain rfl := Except.ok.inj h
    exact ⟨hlist.member (by simp) hms hinputs, hlist.member (by simp) hms houtputs⟩
  · have hxs := Json.wellFormed_arr_iff.1 hv
    simp only [bind_eq_ok] at h
    obtain ⟨_, hinputs, _, houtputs, _, -, h⟩ := h
    obtain rfl := Except.ok.inj h
    exact ⟨hlist.item (by simp) hxs hinputs, hlist.item (by simp) hxs houtputs⟩
  · simp at h

theorem Interface.decode_gives : Gives Interface.decode Interface.Decoded := by
  intro v i hv h
  unfold decode at h
  split at h
  · have hms := (Json.wellFormed_obj_iff.1 hv).2
    simp only [bind_eq_ok] at h
    obtain ⟨_, -, _, -, _, hid, _, -, _, -, _, hparams, _, -, _, hformat, h⟩ := h
    obtain rfl := Except.ok.inj h
    exact {
      id := integer_gives.member inRange_zero hms hid
      resFormat := integer_gives.member inRange_zero hms hformat
      params := InterfaceParams.decode_gives.member ⟨by simp, by simp⟩ hms hparams
      extra := foreign_undeclared hv }
  · simp at h

theorem DataType.decode_gives : Gives DataType.decode DataType.Decoded := by
  intro v d hv h
  unfold decode at h
  split at h
  · have hms := (Json.wellFormed_obj_iff.1 hv).2
    simp only [bind_eq_ok] at h
    obtain ⟨_, -, _, -, _, -, _, -, _, hparams, _, -, h⟩ := h
    obtain rfl := Except.ok.inj h
    exact {
      params := Param.decode_gives.list.member (by simp) hms hparams
      extra := foreign_undeclared hv }
  · simp at h

theorem PageTemplate.decode_gives : Gives PageTemplate.decode PageTemplate.Decoded := by
  intro v t hv h
  unfold decode at h
  split at h
  · have hms := (Json.wellFormed_obj_iff.1 hv).2
    simp only [bind_eq_ok] at h
    obtain ⟨_, -, _, hid, _, -, _, hparams, _, -, h⟩ := h
    obtain rfl := Except.ok.inj h
    exact {
      id := integer_gives.member inRange_zero hms hid
      params := Param.decode_gives.list.member (by simp) hms hparams
      extra := foreign_undeclared hv }
  · simp at h

theorem Page.decode_gives : Gives Page.decode Page.Decoded := by
  intro v p hv h
  unfold decode at h
  split at h
  · have hms := (Json.wellFormed_obj_iff.1 hv).2
    simp only [bind_eq_ok] at h
    obtain ⟨_, -, _, hid, _, -, _, -, _, htemplates, h⟩ := h
    obtain rfl := Except.ok.inj h
    exact {
      id := integer_gives.member inRange_zero hms hid
      templates := PageTemplate.decode_gives.list.member (by simp) hms htemplates
      extra := foreign_undeclared hv }
  · simp at h

theorem SpecAttributes.decode_gives : Gives SpecAttributes.decode SpecAttributes.Decoded := by
  intro v a hv h
  have hid := integer_gives.optional
  unfold decode at h
  split at h
  · have hms := (Json.wellFormed_obj_iff.1 hv).2
    simp only [bind_eq_ok] at h
    obtain ⟨_, hmockApi, _, hmockView, _, hview, _, hweb, h⟩ := h
    obtain rfl := Except.ok.inj h
    exact ⟨hid.member (by simp) hms hweb, hid.member (by simp) hms hview,
      hid.member (by simp) hms hmockApi, hid.member (by simp) hms hmockView⟩
  · have hxs := Json.wellFormed_arr_iff.1 hv
    simp only [bind_eq_ok] at h
    obtain ⟨_, hweb, _, hview, _, hmockApi, _, hmockView, _, -, h⟩ := h
    obtain rfl := Except.ok.inj h
    exact ⟨hid.item (by simp) hxs hweb, hid.item (by simp) hxs hview,
      hid.item (by simp) hxs hmockApi, hid.item (by simp) hxs hmockView⟩
  · simp at h

theorem SpecInfo.decode_gives : Gives SpecInfo.decode SpecInfo.Decoded := by
  intro v s hv h
  unfold decode at h
  split at h
  · have hms := (Json.wellFormed_obj_iff.1 hv).2
    simp only [bind_eq_ok] at h
    obtain ⟨_, hattributes, _, hengine, _, -, _, -, h⟩ := h
    obtain rfl := Except.ok.inj h
    exact {
      engine := optional_any_gives.member (by simp) hms hengine
      attributes := SpecAttributes.decode_gives.optional.member (by simp) hms hattributes
      extra := foreign_undeclared hv }
  · simp at h

end Scaffold

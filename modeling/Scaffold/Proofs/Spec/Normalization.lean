import Mathlib
import Scaffold.Spec.Export

/-!
# Reading document trees

A raw tree is read from the top, below directories only. The first node whose codes mean nothing
ends the reading and is named by the error. Without such a node the tree that is read has the
shape of the raw one, with defaults for what is left out.
-/

namespace Scaffold

namespace DataSource

def code : DataSource → Int
  | none => 0
  | interface => 1
  | dataType => 2
  | template => 3
  | webView => 4
  | handlebarHelper => 5

theorem code_of_ofCode? {c : Int} {source : DataSource} (h : ofCode? c = some source) :
    source.code = c := by
  unfold ofCode? at h
  split_ifs at h <;> cases h <;> simp_all [code]

theorem ofCode?_eq_none_iff {c : Int} : ofCode? c = Option.none ↔ c < 0 ∨ 5 < c := by
  unfold ofCode?
  split_ifs <;> simp only [false_iff, true_iff] <;> omega

end DataSource

namespace RawNode

/-- The code of what a file expands over; without one it is a document. -/
def sourceCode (n : RawNode) : Int :=
  n.dataSource.getD 0

/-- A node of an unknown type, or a file with an unknown source. -/
def IsFaulty (n : RawNode) : Prop :=
  (n.kind ≠ fileCode ∧ n.kind ≠ directoryCode) ∨
    (n.kind = fileCode ∧ (n.sourceCode < 0 ∨ 5 < n.sourceCode))

instance (n : RawNode) : Decidable n.IsFaulty :=
  inferInstanceAs (Decidable (_ ∨ _))

/-- The error that names a faulty node. -/
def complaint (n : RawNode) : DocError :=
  if n.kind = fileCode then .unknownSource n.id n.sourceCode else .unknownKind n.id n.kind

def fault? (n : RawNode) : Option DocError :=
  if n.IsFaulty then some n.complaint else none

theorem fault?_eq_none_iff {n : RawNode} : n.fault? = none ↔ ¬ n.IsFaulty := by
  simp [fault?]

theorem isSome_fault?_iff {n : RawNode} : n.fault?.isSome = true ↔ n.IsFaulty := by
  simp [fault?]

theorem fault?_eq_some_iff {n : RawNode} {e : DocError} :
    n.fault? = some e ↔ n.IsFaulty ∧ e = n.complaint := by
  simp [fault?, eq_comm]

theorem findSome?_fault?_eq_some_iff {ns : List RawNode} {e : DocError} :
    ns.findSome? fault? = some e ↔
      ∃ before n after, ns = before ++ n :: after ∧ (∀ m ∈ before, ¬ m.IsFaulty) ∧
        n.IsFaulty ∧ e = n.complaint := by
  simp only [List.findSome?_eq_some_iff, fault?_eq_some_iff, fault?_eq_none_iff]
  constructor
  · rintro ⟨before, n, after, hsplit, ⟨hn, he⟩, hbefore⟩
    exact ⟨before, n, after, hsplit, hbefore, hn, he⟩
  · rintro ⟨before, n, after, hsplit, hbefore, hn, he⟩
    exact ⟨before, n, after, hsplit, ⟨hn, he⟩, hbefore⟩

theorem fault?_of_directory {n : RawNode} (h : n.kind = directoryCode) : n.fault? = none := by
  simp [fault?, IsFaulty, h, directoryCode, fileCode]

theorem fault?_of_file {n : RawNode} (h : n.kind = fileCode) :
    n.fault? = if (DataSource.ofCode? n.sourceCode).isNone then some n.complaint else none := by
  have hnone : (DataSource.ofCode? n.sourceCode).isNone = true ↔ n.IsFaulty := by
    rw [Option.isNone_iff_eq_none, DataSource.ofCode?_eq_none_iff]
    simp [IsFaulty, h]
  simp only [fault?, hnone]

theorem fault?_of_other {n : RawNode} (hdirectory : n.kind ≠ directoryCode)
    (hfile : n.kind ≠ fileCode) : n.fault? = some (.unknownKind n.id n.kind) := by
  have hfaulty : n.IsFaulty := .inl ⟨hfile, hdirectory⟩
  simp [fault?, hfaulty, complaint, hfile]

mutual

/-- A node, and behind a directory what is below it, in document order. -/
def reached : RawNode → List RawNode
  | ⟨id, kind, name, mime, dataSource, content, children⟩ =>
    ⟨id, kind, name, mime, dataSource, content, children⟩ ::
      if kind = directoryCode then reachedAll children else []

def reachedAll : List RawNode → List RawNode
  | [] => []
  | n :: ns => reached n ++ reachedAll ns

end

end RawNode

namespace DocNode

/-- A raw node and what it is read as: a directory with its children in order, or a file, which
has no children. -/
inductive Reads : RawNode → DocNode → Prop
  | directory {n : RawNode} {children : List DocNode} :
      n.kind = RawNode.directoryCode → List.Forall₂ Reads n.children children →
        Reads n (.directory n.id n.name children)
  | file {n : RawNode} {source : DataSource} :
      n.kind = RawNode.fileCode → source.code = n.dataSource.getD 0 →
        Reads n (.file ⟨n.id, n.name, n.mime, source, n.content.getD ""⟩)

/-- What comes of reading, if the first fault is known. -/
def ReadsAs {α : Type} (P : α → Prop) (fault? : Option DocError) (result : Except DocError α) :
    Prop :=
  match fault? with
  | some e => result = .error e
  | none => ∃ a, result = .ok a ∧ P a

section ReadsAs

variable {α : Type} {P : α → Prop} {fault? : Option DocError} {result : Except DocError α}

theorem ReadsAs.eq_error_iff (h : ReadsAs P fault? result) {e : DocError} :
    result = .error e ↔ fault? = some e := by
  cases fault? with
  | some e' =>
    obtain rfl : result = .error e' := h
    simp
  | none =>
    obtain ⟨a, rfl, -⟩ := h
    simp

theorem ReadsAs.of_ok (h : ReadsAs P fault? result) {a : α} (ha : result = .ok a) : P a := by
  cases fault? with
  | some e =>
    have herror : result = .error e := h
    rw [ha] at herror
    cases herror
  | none =>
    obtain ⟨a', ha', hP⟩ := h
    rw [ha] at ha'
    cases ha'
    exact hP

end ReadsAs

mutual

theorem ofRaw_readsAs : ∀ n : RawNode,
    ReadsAs (Reads n) (n.reached.findSome? RawNode.fault?) (ofRaw n)
  | ⟨id, kind, name, mime, dataSource, content, children⟩ => by
    set n : RawNode := ⟨id, kind, name, mime, dataSource, content, children⟩ with hn
    rw [hn, RawNode.reached, ofRaw, ← hn, List.findSome?_cons]
    by_cases hdirectory : kind = RawNode.directoryCode
    · have hchildren := ofRawAll_readsAs children
      rw [RawNode.fault?_of_directory (n := n) hdirectory, if_pos hdirectory, if_pos hdirectory]
      unfold ReadsAs at hchildren ⊢
      cases hfault : (RawNode.reachedAll children).findSome? RawNode.fault? with
      | some e =>
        simp only [hfault] at hchildren ⊢
        rw [hchildren]
      | none =>
        simp only [hfault] at hchildren ⊢
        obtain ⟨cs, hcs, hreads⟩ := hchildren
        refine ⟨.directory id name cs, by rw [hcs], ?_⟩
        exact Reads.directory (n := n) hdirectory hreads
    · rw [if_neg hdirectory, if_neg hdirectory]
      by_cases hfile : kind = RawNode.fileCode
      · rw [if_pos hfile, RawNode.fault?_of_file (n := n) hfile]
        cases hsource : DataSource.ofCode? (dataSource.getD 0) with
        | none =>
          have hcomplaint : n.complaint = .unknownSource id (dataSource.getD 0) := if_pos hfile
          simp only [RawNode.sourceCode, hn, hsource]
          simp [ReadsAs, ← hn, hcomplaint]
        | some source =>
          simp only [RawNode.sourceCode, hn, hsource]
          exact ⟨_, rfl, Reads.file (n := n) hfile (DataSource.code_of_ofCode? hsource)⟩
      · rw [if_neg hfile, RawNode.fault?_of_other (n := n) hdirectory hfile]
        rfl

/-- The first fault below directories decides what comes of reading a tree. -/
theorem ofRawAll_readsAs : ∀ ns : List RawNode,
    ReadsAs (List.Forall₂ Reads ns) ((RawNode.reachedAll ns).findSome? RawNode.fault?)
      (ofRawAll ns)
  | [] => by
    rw [RawNode.reachedAll, ofRawAll]
    exact ⟨[], rfl, .nil⟩
  | n :: ns => by
    have hfirst := ofRaw_readsAs n
    have hrest := ofRawAll_readsAs ns
    rw [RawNode.reachedAll, ofRawAll, List.findSome?_append]
    unfold ReadsAs at hfirst hrest ⊢
    cases hfault : n.reached.findSome? RawNode.fault? with
    | some e =>
      simp only [hfault] at hfirst
      rw [hfirst]
      rfl
    | none =>
      simp only [hfault] at hfirst
      obtain ⟨d, hd, hreads⟩ := hfirst
      rw [hd, Option.none_or]
      cases hfault' : (RawNode.reachedAll ns).findSome? RawNode.fault? with
      | some e =>
        simp only [hfault'] at hrest ⊢
        rw [hrest]
      | none =>
        simp only [hfault'] at hrest ⊢
        obtain ⟨ds, hds, hall⟩ := hrest
        exact ⟨d :: ds, by rw [hds], .cons hreads hall⟩

end

theorem ofRawAll_eq_error_iff {ns : List RawNode} {cause : DocError} :
    ofRawAll ns = .error cause ↔
      ∃ before n after, RawNode.reachedAll ns = before ++ n :: after ∧
        (∀ m ∈ before, ¬ m.IsFaulty) ∧ n.IsFaulty ∧ cause = n.complaint := by
  rw [(ofRawAll_readsAs ns).eq_error_iff, RawNode.findSome?_fault?_eq_some_iff]

/-- Where a node is faulty, one is the first. -/
theorem exists_ofRawAll_eq_error_iff {ns : List RawNode} :
    (∃ cause, ofRawAll ns = .error cause) ↔ ∃ n ∈ RawNode.reachedAll ns, n.IsFaulty := by
  simp only [(ofRawAll_readsAs ns).eq_error_iff]
  rw [← Option.isSome_iff_exists, List.findSome?_isSome_iff]
  simp only [RawNode.isSome_fault?_iff]

end DocNode

namespace Spec

variable {raw : Json} {e : RawExport} {first : RawSpec} {rest : List RawSpec}

theorem ofExport_of_specs (h : RawExport.decode raw = .ok e) (hspecs : e.specs = first :: rest) :
    ofExport raw =
      match DocNode.ofRawAll first.docs with
      | .error cause => .error (.document cause)
      | .ok docs => .ok (ofParts raw e first.info docs) := by
  cases hdocs : DocNode.ofRawAll first.docs with
  | error cause => simp only [ofExport, h, hspecs, hdocs]
  | ok docs => simp only [ofExport, h, hspecs, hdocs]

theorem ofExport_eq_error_iff (h : RawExport.decode raw = .ok e)
    (hspecs : e.specs = first :: rest) {err : SpecError} :
    ofExport raw = .error err ↔
      ∃ cause, DocNode.ofRawAll first.docs = .error cause ∧ err = .document cause := by
  rw [ofExport_of_specs h hspecs]
  cases DocNode.ofRawAll first.docs with
  | error cause => simp [eq_comm]
  | ok docs => simp

theorem docs_of_ofExport (h : RawExport.decode raw = .ok e) (hspecs : e.specs = first :: rest)
    {s : Spec} (hs : ofExport raw = .ok s) : DocNode.ofRawAll first.docs = .ok s.docs := by
  rw [ofExport_of_specs h hspecs] at hs
  cases hdocs : DocNode.ofRawAll first.docs with
  | error cause => simp [hdocs] at hs
  | ok docs =>
    simp only [hdocs, Except.ok.injEq] at hs
    rw [← hs, ofParts]

/-- An export without specs has no document tree. Any other is refused for the first faulty node
of its first spec, as far as there is one, and otherwise read as it stands. -/
theorem ofExport_normalizes (h : RawExport.decode raw = .ok e) :
    (ofExport raw = .error .missingSpec ↔ e.specs = []) ∧
      ∀ first rest, e.specs = first :: rest →
        ((∃ err, ofExport raw = .error err) ↔
            ∃ n ∈ RawNode.reachedAll first.docs, n.IsFaulty) ∧
          (∀ err, ofExport raw = .error err ↔
            ∃ before n after, RawNode.reachedAll first.docs = before ++ n :: after ∧
              (∀ m ∈ before, ¬ m.IsFaulty) ∧ n.IsFaulty ∧ err = .document n.complaint) ∧
          ∀ s, ofExport raw = .ok s → List.Forall₂ DocNode.Reads first.docs s.docs := by
  constructor
  · cases hspecs : e.specs with
    | nil => simp [ofExport, h, hspecs]
    | cons first rest => simp [ofExport_eq_error_iff h hspecs]
  · intro first rest hspecs
    refine ⟨?_, ?_, ?_⟩
    · rw [← DocNode.exists_ofRawAll_eq_error_iff]
      constructor
      · rintro ⟨err, herr⟩
        obtain ⟨cause, hcause, -⟩ := (ofExport_eq_error_iff h hspecs).1 herr
        exact ⟨cause, hcause⟩
      · rintro ⟨cause, hcause⟩
        exact ⟨_, (ofExport_eq_error_iff h hspecs).2 ⟨cause, hcause, rfl⟩⟩
    · intro err
      rw [ofExport_eq_error_iff h hspecs]
      constructor
      · rintro ⟨cause, hcause, rfl⟩
        obtain ⟨before, n, after, hsplit, hbefore, hn, rfl⟩ :=
          DocNode.ofRawAll_eq_error_iff.1 hcause
        exact ⟨before, n, after, hsplit, hbefore, hn, rfl⟩
      · rintro ⟨before, n, after, hsplit, hbefore, hn, rfl⟩
        exact ⟨_, DocNode.ofRawAll_eq_error_iff.2 ⟨before, n, after, hsplit, hbefore, hn, rfl⟩,
          rfl⟩
    · intro s hs
      exact (DocNode.ofRawAll_readsAs first.docs).of_ok (docs_of_ofExport h hspecs hs)

/-- What stands below a file is passed over, and so are the specs behind the first one. -/
theorem ofExport_names_first_fault :
    let raw : Json := .obj [("specs", .arr
      [.obj [("docs", .arr
        [.obj [("id", Json.int 1), ("type", Json.int 1), ("children", .arr
          [.obj [("id", Json.int 2), ("type", Json.int 0), ("children", .arr
              [.obj [("id", Json.int 3), ("type", Json.int 7)]])],
            .obj [("id", Json.int 4), ("type", Json.int 0), ("dataSource", Json.int 42)],
            .obj [("id", Json.int 5), ("type", Json.int 7)]])]])],
        .obj [("docs", .arr [.obj [("id", Json.int 6), ("type", Json.int 7)]])]])]
    (∃ e, RawExport.decode raw = .ok e ∧ e.specs.length = 2) ∧
      ofExport raw = .error (.document (.unknownSource 4 42)) := by
  intro raw
  obtain ⟨e, he, hspecs⟩ : ∃ e, RawExport.decode raw = .ok e ∧ e.specs =
      [{ docs := [{ RawNode.blank with id := 1, kind := 1, children :=
          [{ RawNode.blank with id := 2, children := [{ RawNode.blank with id := 3, kind := 7 }] },
            { RawNode.blank with id := 4, dataSource := some 42 },
            { RawNode.blank with id := 5, kind := 7 }] }] },
        { docs := [{ RawNode.blank with id := 6, kind := 7 }] }] := ⟨_, rfl, rfl⟩
  refine ⟨⟨e, he, by rw [hspecs]; rfl⟩, ?_⟩
  have herror := ((ofExport_normalizes he).2 _ _ hspecs).2.1
  rw [herror]
  refine ⟨[_, _], _, [_], rfl, ?_, ?_, rfl⟩
  · decide
  · decide

end Spec

end Scaffold

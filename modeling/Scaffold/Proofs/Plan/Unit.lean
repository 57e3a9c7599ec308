import Mathlib
import Scaffold.Proofs.Plan.Output
import Scaffold.Proofs.Plan.Walk

/-!
# Units of a document tree

The files that a document tree asks for, each with its target and with what is to be done if a
file is there already. They are listed depth first: documents come once, nodes of a source once
for each of its entities, and assets are not among them. Names and contents that fail to render
take their file away, and a directory's name takes all files of the directory away. So the units
of a tree are those of its files, each at the place that its directories are rendered to.
-/

namespace Scaffold

namespace DocNode

mutual

def keepFilesIn (keep : DocFile → Bool) : DocNode → List DocNode
  | .file f => if keep f then [.file f] else []
  | .directory id name children => [.directory id name (keepFiles keep children)]

/-- The tree with all its directories, but only some of its files. -/
def keepFiles (keep : DocFile → Bool) : List DocNode → List DocNode
  | [] => []
  | n :: ns => keepFilesIn keep n ++ keepFiles keep ns

end

mutual

/-- The files of a node, each with the directory that is rendered for it. -/
def placedFilesIn (render : Rendering) (data : Json) (dir : Path) :
    DocNode → List (Path × DocFile)
  | .file f => [(dir, f)]
  | .directory _ name children =>
    match render name data with
    | none => []
    | some rendered => placedFiles render data (dir.joinRendered rendered) children

/-- The files of a tree, with their directories; in one whose name does not render there are
none. -/
def placedFiles (render : Rendering) (data : Json) (dir : Path) :
    List DocNode → List (Path × DocFile)
  | [] => []
  | n :: ns => placedFilesIn render data dir n ++ placedFiles render data dir ns

end

variable {render : Rendering} {data : Json} {keep : DocFile → Bool}

theorem placedFiles_append (dir : Path) (ms ns : List DocNode) :
    placedFiles render data dir (ms ++ ns) =
      placedFiles render data dir ms ++ placedFiles render data dir ns := by
  induction ms with
  | nil => rfl
  | cons m ms ih => rw [List.cons_append, placedFiles, ih, placedFiles, List.append_assoc]

mutual

theorem placedFiles_keepFilesIn (dir : Path) : ∀ n : DocNode,
    placedFiles render data dir (keepFilesIn keep n) =
      (placedFilesIn render data dir n).filter fun p => keep p.2
  | .file f => by
    rw [keepFilesIn, placedFilesIn]
    cases hf : keep f with
    | true => simp [placedFiles, placedFilesIn, hf]
    | false => simp [placedFiles, hf]
  | .directory _ name children => by
    rw [keepFilesIn, placedFiles, placedFiles, List.append_nil, placedFilesIn, placedFilesIn]
    cases render name data with
    | none => rfl
    | some rendered => exact placedFiles_keepFiles (dir.joinRendered rendered) children

/-- The files that are left keep their places. -/
theorem placedFiles_keepFiles (dir : Path) : ∀ ns : List DocNode,
    placedFiles render data dir (keepFiles keep ns) =
      (placedFiles render data dir ns).filter fun p => keep p.2
  | [] => by rw [keepFiles, placedFiles, List.filter_nil]
  | n :: ns => by
    rw [keepFiles, placedFiles_append, placedFiles, List.filter_append,
      placedFiles_keepFilesIn dir n, placedFiles_keepFiles dir ns]

end

end DocNode

structure FileUnit where
  target : Path
  overwrites : Bool
  content : String
deriving DecidableEq

namespace FileUnit

/-- The file of a joined path; its first marker decides what is done with an older one. -/
def atPath (overwrite : Bool) (path : Path) (content : String) : FileUnit where
  target := WriteDirective.target path
  overwrites := WriteDirective.overwrites (WriteDirective.first? path.chars) overwrite
  content := content

def ofEntry (overwrite : Bool) (e : Path × String) : FileUnit :=
  atPath overwrite e.1 e.2

/-- The file of a node in one context, if its name and its content render. -/
def inContext? (render : Rendering) (overwrite : Bool) (dir : Path) (f : DocFile)
    (c : RenderContext) : Option FileUnit :=
  match Plan.fileName? render c.data f.nameTemplate, render f.content c.data with
  | some rendered, some content => some (atPath overwrite (dir.joinRendered rendered) content)
  | _, _ => none

/-- The contexts that a node is rendered in. -/
def contexts (normalDocs : Bool) (c : RenderContext) (f : DocFile) : List RenderContext :=
  match f.dataSource.bindingKey? with
  | some key => (c.entities f.dataSource f.isEnumsOnly).map fun e => c.insert key e
  | none => if f.dataSource == .none && normalDocs then [c] else []

def ofFile (render : Rendering) (overwrite normalDocs : Bool) (c : RenderContext) (dir : Path)
    (f : DocFile) : List FileUnit :=
  if !f.isText && normalDocs then []
  else (contexts normalDocs c f).filterMap (inContext? render overwrite dir f)

mutual

def ofNode (render : Rendering) (overwrite normalDocs : Bool) (c : RenderContext) (dir : Path) :
    DocNode → List FileUnit
  | .file f => ofFile render overwrite normalDocs c dir f
  | .directory _ name children =>
    match render name c.data with
    | none => []
    | some rendered => ofNodes render overwrite normalDocs c (dir.joinRendered rendered) children

def ofNodes (render : Rendering) (overwrite normalDocs : Bool) (c : RenderContext) (dir : Path) :
    List DocNode → List FileUnit
  | [] => []
  | n :: ns =>
    ofNode render overwrite normalDocs c dir n ++ ofNodes render overwrite normalDocs c dir ns

end

/-! ## Units and places -/

section Places

variable {render : Rendering} {overwrite normalDocs : Bool}

mutual

theorem ofNode_eq_flatMap (c : RenderContext) (dir : Path) : ∀ n : DocNode,
    ofNode render overwrite normalDocs c dir n =
      (DocNode.placedFilesIn render c.data dir n).flatMap fun p =>
        ofFile render overwrite normalDocs c p.1 p.2
  | .file f => by rw [ofNode, DocNode.placedFilesIn, List.flatMap_singleton]
  | .directory _ name children => by
    rw [ofNode, DocNode.placedFilesIn]
    cases render name c.data with
    | none => rfl
    | some rendered => exact ofNodes_eq_flatMap c (dir.joinRendered rendered) children

/-- The units of a tree are those of its files, each at its place. -/
theorem ofNodes_eq_flatMap (c : RenderContext) (dir : Path) : ∀ ns : List DocNode,
    ofNodes render overwrite normalDocs c dir ns =
      (DocNode.placedFiles render c.data dir ns).flatMap fun p =>
        ofFile render overwrite normalDocs c p.1 p.2
  | [] => by rw [ofNodes, DocNode.placedFiles, List.flatMap_nil]
  | n :: ns => by
    rw [ofNodes, DocNode.placedFiles, List.flatMap_append, ofNode_eq_flatMap c dir n,
      ofNodes_eq_flatMap c dir ns]

end

/-- Files that have no units may be left out. -/
theorem ofNodes_keepFiles {keep : DocFile → Bool}
    (hkeep : ∀ f c dir, keep f = false → ofFile render overwrite normalDocs c dir f = [])
    (c : RenderContext) (dir : Path) (ns : List DocNode) :
    ofNodes render overwrite normalDocs c dir (DocNode.keepFiles keep ns) =
      ofNodes render overwrite normalDocs c dir ns := by
  rw [ofNodes_eq_flatMap, ofNodes_eq_flatMap, DocNode.placedFiles_keepFiles]
  induction DocNode.placedFiles render c.data dir ns with
  | nil => rfl
  | cons p ps ih =>
    rw [List.filter_cons, List.flatMap_cons, ← ih]
    split
    · rw [List.flatMap_cons]
    · rename_i hp
      rw [hkeep p.2 c p.1 (Bool.eq_false_iff.2 hp), List.nil_append]

end Places

/-! ## Units and outputs -/

section Outputs

variable (render : Rendering) (overwrite normalDocs : Bool) (c : RenderContext) (dir : Path)

def ofOutputs (overwrite : Bool) (dir : Path) (ps : List Plan) : List FileUnit :=
  (Plan.outputsAll dir ps).map fun o => ofEntry overwrite o.entry

@[simp] theorem ofOutputs_nil : ofOutputs overwrite dir [] = [] := rfl

@[simp] theorem ofOutputs_cons (p : Plan) (ps : List Plan) :
    ofOutputs overwrite dir (p :: ps) =
      (Plan.outputs dir p).map (fun o => ofEntry overwrite o.entry) ++
        ofOutputs overwrite dir ps := by
  rw [ofOutputs, Plan.outputsAll, List.map_append, ofOutputs]

theorem ofOutputs_append (ps qs : List Plan) :
    ofOutputs overwrite dir (ps ++ qs) =
      ofOutputs overwrite dir ps ++ ofOutputs overwrite dir qs := by
  induction ps with
  | nil => rfl
  | cons p ps ih => rw [List.cons_append, ofOutputs_cons, ih, ofOutputs_cons, List.append_assoc]

/-- A node in one context is one file or none. -/
theorem outputs_ofTexts (f : DocFile) :
    (Plan.outputs dir (Plan.ofTexts render c.data f.nameTemplate f.content)).map
        (fun o => ofEntry overwrite o.entry) =
      (inContext? render overwrite dir f c).toList := by
  unfold Plan.ofTexts inContext?
  cases Plan.fileName? render c.data f.nameTemplate with
  | none => rfl
  | some rendered =>
    cases render f.content c.data with
    | none => rfl
    | some content => rfl

theorem ofOutputs_ofEntities (f : DocFile) (key : String) (entities : List Json) :
    ofOutputs overwrite dir (Plan.ofEntities render c f key entities) =
      (entities.map fun e => c.insert key e).filterMap (inContext? render overwrite dir f) := by
  unfold Plan.ofEntities
  induction entities with
  | nil => rfl
  | cons e entities ih =>
    have hfirst := outputs_ofTexts render overwrite (c.insert key e) dir f
    rw [List.map_cons, ofOutputs_cons, hfirst, ih, List.map_cons, List.filterMap_cons]
    cases inContext? render overwrite dir f (c.insert key e) with
    | none => rfl
    | some u => rfl

theorem ofOutputs_ofFile (f : DocFile) :
    ofOutputs overwrite dir (Plan.ofFile render normalDocs c f) =
      ofFile render overwrite normalDocs c dir f := by
  unfold Plan.ofFile ofFile contexts
  by_cases hasset : (!f.isText && normalDocs) = true
  · rw [if_pos hasset, if_pos hasset]
    unfold Plan.ofAsset
    cases Plan.fileName? render c.data f.name with
    | none => rfl
    | some rendered => rfl
  · rw [if_neg hasset, if_neg hasset]
    cases f.dataSource.bindingKey? with
    | some key =>
      dsimp only
      rw [ofOutputs_append, ofOutputs_ofEntities]
      split <;> rfl
    | none =>
      dsimp only
      split
      · have hone := outputs_ofTexts render overwrite c dir f
        rw [ofOutputs_cons, hone, List.filterMap_cons]
        cases inContext? render overwrite dir f c with
        | none => rfl
        | some u => rfl
      · rfl

mutual

theorem ofOutputs_ofNode (dir : Path) : ∀ n : DocNode,
    ofOutputs overwrite dir (Plan.ofNode render normalDocs c n) =
      ofNode render overwrite normalDocs c dir n
  | .file f => by
    rw [Plan.ofNode, ofNode]
    exact ofOutputs_ofFile render overwrite normalDocs c dir f
  | .directory _ name children => by
    rw [Plan.ofNode, ofNode]
    cases render name c.data with
    | none => rfl
    | some rendered =>
      have hinside := ofOutputs_ofNodes (dir.joinRendered rendered) children
      rw [ofOutputs] at hinside
      simpa only [ofOutputs_cons, ofOutputs_nil, List.append_nil, Plan.outputs] using hinside

/-- The outputs of a tree's plan are its units. -/
theorem ofOutputs_ofNodes (dir : Path) : ∀ ns : List DocNode,
    ofOutputs overwrite dir (Plan.ofNodes render normalDocs c ns) =
      ofNodes render overwrite normalDocs c dir ns
  | [] => by
    rw [Plan.ofNodes, ofNodes]
    rfl
  | n :: ns => by
    rw [Plan.ofNodes, ofNodes, ofOutputs_append, ofOutputs_ofNode dir n, ofOutputs_ofNodes dir ns]

end

end Outputs

end FileUnit

end Scaffold

import Mathlib
import Scaffold.Proofs.Plan.Roots

/-!
# What a scan for structural roots finds

A scan goes through the directories of a tree whose names render, those below others whose names
render. Each gets the first role that asks for its number, and a role ends up with the last
directory that has got it.
-/

namespace Scaffold

/-- A part that a directory can play in a project. -/
inductive Role where
  | web
  | view
  | mockApi
  | mockView
deriving DecidableEq

namespace StructuralRoots

def root (r : StructuralRoots) : Role → Option Path
  | .web => r.webRoot
  | .view => r.viewRoot
  | .mockApi => r.mockApiRoot
  | .mockView => r.mockViewRoot

theorem root_empty (role : Role) : ({} : StructuralRoots).root role = none := by
  cases role <;> rfl

/-- The role that a directory of number `id` gets. -/
def roleOf? (a : SpecAttributes) (id : Int) : Option Role :=
  if a.webRoot = some id then some .web
  else if a.viewRoot = some id then some .view
  else if a.mockApiRoot = some id then some .mockApi
  else if a.mockViewRoot = some id then some .mockView
  else none

theorem root_assign (a : SpecAttributes) (id : Int) (path : Path) (r : StructuralRoots)
    (role : Role) :
    (r.assign a id path).root role =
      if roleOf? a id = some role then some path else r.root role := by
  unfold assign roleOf?
  split_ifs <;> cases role <;> simp_all [root]

end StructuralRoots

/-- A directory of a tree, and where its rendered name leads. -/
structure Scanned where
  /-- The way to the node from the top of the tree, by positions. -/
  place : List Nat
  id : Int
  name : String
  children : List DocNode
  path : Path

namespace Scanned

def node (d : Scanned) : DocNode :=
  .directory d.id d.name d.children

mutual

/-- The directories that are scanned from a node on. -/
def atNode (render : String → Option String) (place : List Nat) (dir : Path) :
    DocNode → List Scanned
  | .file _ => []
  | .directory id name children =>
    match render name with
    | none => []
    | some rendered =>
      ⟨place, id, name, children, dir.joinRendered rendered⟩ ::
        inside render place 0 (dir.joinRendered rendered) children

/-- The directories that are scanned in a list of nodes, the first of which stands at position `i`
below a place. -/
def inside (render : String → Option String) (place : List Nat) (i : Nat) (dir : Path) :
    List DocNode → List Scanned
  | [] => []
  | n :: ns => atNode render (place ++ [i]) dir n ++ inside render place (i + 1) dir ns

end

/-! ## Scanning is assigning -/

/-- Give a directory its role. -/
def assignTo (a : SpecAttributes) (r : StructuralRoots) (d : Scanned) : StructuralRoots :=
  r.assign a d.id d.path

section Gather

variable {m : Type → Type} [Monad m]

mutual

/-- Come to the directories that a scan comes to from a node on, whatever names render to on the
way. -/
def gatherNode (render : String → m (Option String)) (log : LogEvent → m Unit) (place : List Nat)
    (dir : Path) : DocNode → m (List Scanned)
  | .file _ => return []
  | .directory id name children => do
    match ← render name with
    | none =>
      log (.error "Directory name failed to render, subtree not scanned" [("node", .str name)])
      return []
    | some rendered =>
      let path := dir.joinRendered rendered
      let below ← gather render log place 0 path children
      return ⟨place, id, name, children, path⟩ :: below

def gather (render : String → m (Option String)) (log : LogEvent → m Unit) (place : List Nat)
    (i : Nat) (dir : Path) : List DocNode → m (List Scanned)
  | [] => return []
  | n :: ns => do
    let front ← gatherNode render log (place ++ [i]) dir n
    let back ← gather render log place (i + 1) dir ns
    return front ++ back

end

variable [LawfulMonad m] {render : String → m (Option String)} {log : LogEvent → m Unit}

mutual

theorem scanNode_eq_gatherNode (a : SpecAttributes) (place : List Nat) (dir : Path)
    (r : StructuralRoots) : ∀ n : DocNode,
    StructuralRoots.scanNode a render log dir r n =
      (fun ds => ds.foldl (assignTo a) r) <$> gatherNode render log place dir n
  | .file _ => by
    rw [StructuralRoots.scanNode, gatherNode, map_pure]
    rfl
  | .directory id name children => by
    rw [StructuralRoots.scanNode, gatherNode, map_bind]
    apply bind_congr
    intro rendered
    cases rendered with
    | none =>
      simp only [map_bind, map_pure]
      rfl
    | some rendered =>
      simp only [map_bind, map_pure]
      rw [scanNodes_eq_gather a place 0, ← bind_pure_comp]
      rfl

theorem scanNodes_eq_gather (a : SpecAttributes) (place : List Nat) (i : Nat) (dir : Path)
    (r : StructuralRoots) : ∀ ns : List DocNode,
    StructuralRoots.scanNodes a render log dir r ns =
      (fun ds => ds.foldl (assignTo a) r) <$> gather render log place i dir ns
  | [] => by
    rw [StructuralRoots.scanNodes, gather, map_pure]
    rfl
  | n :: ns => by
    rw [StructuralRoots.scanNodes, gather, map_bind, scanNode_eq_gatherNode a (place ++ [i]),
      bind_map_left]
    apply bind_congr
    intro front
    simp only [map_bind, map_pure, List.foldl_append]
    rw [scanNodes_eq_gather a place (i + 1), ← bind_pure_comp]

end

theorem run_discover {σ : Type} (a : SpecAttributes) (docs : List DocNode) (output : Path)
    (render : String → StateM σ (Option String)) (log : LogEvent → StateM σ Unit) (t : σ) :
    ((StructuralRoots.discover docs (some a) output render log).run t).1 =
      ((gather render log [] 0 output docs).run t).1.foldl (assignTo a) {} := by
  rw [StructuralRoots.discover, scanNodes_eq_gather a [] 0]
  rfl

end Gather

variable {render : String → Option String}

mutual

/-- Without effects the directories are known before. -/
theorem gatherNode_id (place : List Nat) (dir : Path) : ∀ n : DocNode,
    gatherNode (m := Id) render (fun _ => ()) place dir n = atNode render place dir n
  | .file _ => by
    rw [gatherNode, atNode]
    rfl
  | .directory id name children => by
    rw [gatherNode, atNode]
    change (match render name with
      | none => []
      | some rendered => mk place id name children (dir.joinRendered rendered) ::
          gather (m := Id) render (fun _ => ()) place 0 (dir.joinRendered rendered) children) = _
    cases render name with
    | none => rfl
    | some rendered => exact congrArg _ (gather_id place 0 _ children)

theorem gather_id (place : List Nat) (i : Nat) (dir : Path) : ∀ ns : List DocNode,
    gather (m := Id) render (fun _ => ()) place i dir ns = inside render place i dir ns
  | [] => by
    rw [gather, inside]
    rfl
  | n :: ns => by
    rw [gather, inside, ← gatherNode_id, ← gather_id]
    rfl

end

theorem scanNodes_eq_foldl (a : SpecAttributes) (place : List Nat) (i : Nat) (dir : Path)
    (r : StructuralRoots) (ns : List DocNode) :
    StructuralRoots.scanNodes (m := Id) a render (fun _ => ()) dir r ns =
      (inside render place i dir ns).foldl (assignTo a) r := by
  rw [scanNodes_eq_gather a place i, gather_id]
  rfl

/-- A role is given to one of the directories, or it stays as it was. -/
theorem root_foldl (a : SpecAttributes) (ds : List Scanned) (r : StructuralRoots) (role : Role)
    (p : Path) (h : (ds.foldl (assignTo a) r).root role = some p) :
    (∃ d ∈ ds, StructuralRoots.roleOf? a d.id = some role ∧ d.path = p) ∨ r.root role = some p := by
  induction ds generalizing r with
  | nil => exact .inr h
  | cons d ds ih =>
    rcases ih (assignTo a r d) h with ⟨e, he, hrole⟩ | hassigned
    · exact .inl ⟨e, List.mem_cons_of_mem d he, hrole⟩
    · rw [assignTo, StructuralRoots.root_assign] at hassigned
      split at hassigned
      · rename_i hrole
        exact .inl ⟨d, List.mem_cons_self, hrole, Option.some.inj hassigned⟩
      · exact .inr hassigned

/-- A root that is found is where a scanned directory leads that has the role. -/
theorem of_root_found {docs : List DocNode} {attributes : Option SpecAttributes} {output p : Path}
    {role : Role}
    (h : (StructuralRoots.found docs attributes output render).root role = some p) :
    ∃ a, attributes = some a ∧ ∃ d ∈ inside render [] 0 output docs,
      StructuralRoots.roleOf? a d.id = some role ∧ d.path = p := by
  cases attributes with
  | none =>
    have hnone : ({} : StructuralRoots).root role = some p := h
    simp [StructuralRoots.root_empty] at hnone
  | some a =>
    refine ⟨a, rfl, ?_⟩
    have hfold : StructuralRoots.found docs (some a) output render = _ :=
      scanNodes_eq_foldl a [] 0 output {} docs
    rw [hfold] at h
    rcases root_foldl a _ {} role p h with hd | hnone
    · exact hd
    · simp [StructuralRoots.root_empty] at hnone

/-! ## Places of scanned directories -/

mutual

theorem place_of_mem_atNode {place : List Nat} {dir : Path} {d : Scanned} :
    ∀ {n : DocNode}, d ∈ atNode render place dir n → place <+: d.place
  | .file _, hd => by simp [atNode] at hd
  | .directory id name children, hd => by
    rw [atNode] at hd
    cases hrendered : render name with
    | none => simp [hrendered] at hd
    | some rendered =>
      simp only [hrendered, List.mem_cons] at hd
      rcases hd with rfl | hd
      · exact List.prefix_refl _
      · obtain ⟨j, -, hplace⟩ := place_of_mem_inside hd
        exact (List.prefix_append place [j]).trans hplace

theorem place_of_mem_inside {place : List Nat} {i : Nat} {dir : Path} {d : Scanned} :
    ∀ {ns : List DocNode}, d ∈ inside render place i dir ns →
      ∃ j, i ≤ j ∧ place ++ [j] <+: d.place
  | [], hd => by simp [inside] at hd
  | n :: ns, hd => by
    rw [inside, List.mem_append] at hd
    rcases hd with hd | hd
    · exact ⟨i, le_refl i, place_of_mem_atNode hd⟩
    · obtain ⟨j, hj, hplace⟩ := place_of_mem_inside hd
      exact ⟨j, by omega, hplace⟩

end

end Scanned

end Scaffold

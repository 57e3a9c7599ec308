import Mathlib
import Scaffold.Output.Walk
import Scaffold.Proofs.Host.Preservation
import Scaffold.Proofs.Path.Rendered

/-!
# The visits of a walk

A walk meets the nodes of a tree in document order, those below a directory only if it could be
entered. Each node that is met is a visit: where it stands in the tree, the directory it is met
in, and the states it is met in. A walk is the work of its visits, one after another; so what is
to be shown of a walk is shown of the work of one visit.
-/

namespace Scaffold

variable {σ : Type}

structure Visit (σ : Type) where
  /-- The way to the node from the top of the tree, by positions. -/
  place : List Nat
  node : DocNode
  /-- The directory that the node is met in. -/
  dir : Path
  state : WalkState
  /-- What the host keeps. -/
  world : σ

namespace DocNode

def children : DocNode → List DocNode
  | .directory _ _ children => children
  | .file _ => []

/-- The node that stands at a place. -/
def at? : List DocNode → List Nat → Option DocNode
  | _, [] => none
  | ns, i :: place => ns[i]?.bind fun n => if place = [] then some n else at? n.children place

theorem at?_cons_succ (n : DocNode) (ns : List DocNode) (i : Nat) (place : List Nat) :
    at? (n :: ns) ((i + 1) :: place) = at? ns (i :: place) := by
  rw [at?, at?, List.getElem?_cons_succ]

end DocNode

namespace Walker

mutual

/-- The visits from a node on, the node's own first. -/
def visitsAt (w : Walker (StateM σ)) (place : List Nat) (dir : Path) :
    DocNode → WalkState → σ → List (Visit σ)
  | .file f, s, t => [⟨place, .file f, dir, s, t⟩]
  | .directory id name children, s, t =>
    ⟨place, .directory id name children, dir, s, t⟩ ::
      match (w.enter name dir s t).1 with
      | some path => w.visitsIn place 0 path children s (w.enter name dir s t).2
      | none => []

/-- The visits of nodes in turn, the first of which stands at position `i` below a place. -/
def visitsIn (w : Walker (StateM σ)) (place : List Nat) (i : Nat) (dir : Path) :
    List DocNode → WalkState → σ → List (Visit σ)
  | [], _, _ => []
  | n :: ns, s, t =>
    w.visitsAt (place ++ [i]) dir n s t ++
      w.visitsIn place (i + 1) dir ns (w.walkNode dir n s t).1 (w.walkNode dir n s t).2

end

/-- All visits of a walk. -/
def visits (w : Walker (StateM σ)) (docs : List DocNode) (dir : Path) (c : RenderContext)
    (t : σ) : List (Visit σ) :=
  w.visitsIn [] 0 dir docs { context := c } t

end Walker

namespace Visit

/-- What is done at a node itself; a directory is entered, or else counted as a failure. -/
def work (w : Walker (StateM σ)) (v : Visit σ) : WalkState × σ :=
  match v.node with
  | .file f => w.walkFile f v.dir v.state v.world
  | .directory _ name _ =>
    match (w.enter name v.dir v.state v.world).1 with
    | some _ => (v.state, (w.enter name v.dir v.state v.world).2)
    | none => (Walker.onReport v.state Report.fail, (w.enter name v.dir v.state v.world).2)

/-- Where a visit starts. -/
def start (v : Visit σ) : WalkState × σ :=
  (v.state, v.world)

end Visit

/-- The work of visits, one after another, leads from one state to another. -/
def Leads (w : Walker (StateM σ)) (a : WalkState × σ) : List (Visit σ) → WalkState × σ → Prop
  | [], b => b = a
  | v :: vs, b => v.start = a ∧ Leads w (v.work w) vs b

namespace Leads

variable {w : Walker (StateM σ)} {a b : WalkState × σ} {us vs : List (Visit σ)}

theorem append_iff :
    Leads w a (us ++ vs) b ↔ ∃ m, Leads w a us m ∧ Leads w m vs b := by
  induction us generalizing a with
  | nil => simp [Leads]
  | cons u us ih => simp [Leads, ih, and_assoc]

/-- What comes after a visit starts from what it did. -/
theorem after {v : Visit σ} (h : Leads w a (us ++ v :: vs) b) : Leads w (v.work w) vs b := by
  obtain ⟨m, -, -, hrest⟩ := append_iff.1 h
  exact hrest

/-- What the work of each visit preserves holds at all visits and in the end. -/
theorem invariant {P : WalkState × σ → Prop} (h : Leads w a vs b)
    (hwork : ∀ v ∈ vs, P v.start → P (v.work w)) (ha : P a) :
    P b ∧ ∀ v ∈ vs, P v.start := by
  induction vs generalizing a with
  | nil =>
    obtain rfl : b = a := h
    exact ⟨ha, by simp⟩
  | cons v vs ih =>
    obtain ⟨rfl, hrest⟩ := h
    have hdone := hwork v List.mem_cons_self ha
    obtain ⟨hb, hvs⟩ := ih hrest (fun u hu => hwork u (List.mem_cons_of_mem v hu)) hdone
    exact ⟨hb, List.forall_mem_cons.2 ⟨ha, hvs⟩⟩

/-- What each visit adds to a view of the state is added up in the order of the visits. -/
theorem collect {α β : Type} {R : Visit σ → List α → Prop} (view : WalkState × σ → β)
    (add : β → α → β) (h : Leads w a vs b)
    (hwork : ∀ v ∈ vs, ∃ xs, R v xs ∧ view (v.work w) = xs.foldl add (view v.start)) :
    ∃ parts, List.Forall₂ R vs parts ∧ view b = parts.flatten.foldl add (view a) := by
  induction vs generalizing a with
  | nil =>
    obtain rfl : b = a := h
    exact ⟨[], .nil, rfl⟩
  | cons v vs ih =>
    obtain ⟨rfl, hrest⟩ := h
    obtain ⟨xs, hR, hview⟩ := hwork v List.mem_cons_self
    obtain ⟨parts, hparts, hend⟩ := ih hrest fun u hu => hwork u (List.mem_cons_of_mem v hu)
    refine ⟨xs :: parts, .cons hR hparts, ?_⟩
    rw [hend, hview, List.flatten_cons, List.foldl_append]

/-- The same for a list that grows. -/
theorem collect_map {α β : Type} {R : Visit σ → List α → Prop} (view : WalkState × σ → List β)
    (g : α → β) (h : Leads w a vs b)
    (hwork : ∀ v ∈ vs, ∃ xs, R v xs ∧ view (v.work w) = view v.start ++ xs.map g) :
    ∃ parts, List.Forall₂ R vs parts ∧ view b = view a ++ parts.flatten.map g := by
  have hfold : ∀ (xs : List α) (ys : List β),
      xs.foldl (fun ys x => ys ++ [g x]) ys = ys ++ xs.map g := by
    intro xs ys
    rw [List.foldl_append_eq_append, ← List.flatMap_def, List.map_eq_flatMap]
  simpa only [hfold] using
    h.collect (R := R) view (fun ys x => ys ++ [g x]) (by simpa only [hfold])

theorem collect_append {α : Type} {R : Visit σ → List α → Prop} (view : WalkState × σ → List α)
    (h : Leads w a vs b)
    (hwork : ∀ v ∈ vs, ∃ xs, R v xs ∧ view (v.work w) = view v.start ++ xs) :
    ∃ parts, List.Forall₂ R vs parts ∧ view b = view a ++ parts.flatten := by
  simpa only [List.map_id_fun, id_eq] using
    h.collect_map (R := R) view id (by simpa only [List.map_id_fun, id_eq])

end Leads

namespace Walker

variable {w : Walker (StateM σ)}

theorem walkNode_directory_apply (id : Int) (name : String) (children : List DocNode)
    (dir : Path) (s : WalkState) (t : σ) :
    w.walkNode dir (.directory id name children) s t =
      match (w.enter name dir s t).1 with
      | some path => w.walkNodes path children s (w.enter name dir s t).2
      | none => (onReport s Report.fail, (w.enter name dir s t).2) := by
  rw [walkNode, stateM_bind]
  cases (w.enter name dir s t).1 with
  | some path => rfl
  | none => rfl

theorem walkNodes_cons_apply (n : DocNode) (ns : List DocNode) (dir : Path) (s : WalkState)
    (t : σ) :
    w.walkNodes dir (n :: ns) s t =
      w.walkNodes dir ns (w.walkNode dir n s t).1 (w.walkNode dir n s t).2 := by
  rw [walkNodes, stateM_bind]

theorem walkNodes_append_apply (ms ns : List DocNode) (dir : Path) (s : WalkState) (t : σ) :
    w.walkNodes dir (ms ++ ns) s t =
      w.walkNodes dir ns (w.walkNodes dir ms s t).1 (w.walkNodes dir ms s t).2 := by
  induction ms generalizing s t with
  | nil =>
    rw [List.nil_append, walkNodes]
    rfl
  | cons m ms ih => rw [List.cons_append, walkNodes_cons_apply, ih, walkNodes_cons_apply]

theorem walkNodes_singleton_apply (n : DocNode) (dir : Path) (s : WalkState) (t : σ) :
    w.walkNodes dir [n] s t = w.walkNode dir n s t := by
  rw [walkNodes_cons_apply, walkNodes]
  rfl

mutual

theorem walkNode_leads (place : List Nat) (dir : Path) : ∀ (n : DocNode) (s : WalkState) (t : σ),
    Leads w (s, t) (w.visitsAt place dir n s t) (w.walkNode dir n s t)
  | .file f, s, t => by
    rw [visitsAt, walkNode]
    exact ⟨rfl, rfl⟩
  | .directory id name children, s, t => by
    rw [visitsAt, walkNode_directory_apply]
    refine ⟨rfl, ?_⟩
    cases hentered : (w.enter name dir s t).1 with
    | some path =>
      have hinside := walkNodes_leads place 0 path children s (w.enter name dir s t).2
      simpa only [Visit.work, hentered] using hinside
    | none => simp only [Visit.work, hentered, Leads]

/-- Walking nodes is the work of their visits. -/
theorem walkNodes_leads (place : List Nat) (i : Nat) (dir : Path) :
    ∀ (ns : List DocNode) (s : WalkState) (t : σ),
      Leads w (s, t) (w.visitsIn place i dir ns s t) (w.walkNodes dir ns s t)
  | [], s, t => by
    rw [visitsIn, walkNodes]
    rfl
  | n :: ns, s, t => by
    rw [visitsIn, walkNodes_cons_apply]
    exact Leads.append_iff.2 ⟨_, walkNode_leads _ dir n s t, walkNodes_leads place _ dir ns _ _⟩

end

theorem walk_leads (docs : List DocNode) (dir : Path) (c : RenderContext) (t : σ) :
    Leads w ({ context := c }, t) (w.visits docs dir c t) (w.walk docs dir c t) :=
  walkNodes_leads [] 0 dir docs _ t

/-! ## Where visits are -/

/-- A directory is entered if its name renders and it can be created. -/
theorem enter_eq_some_iff {name : String} {dir path : Path} {s : WalkState} {t : σ} :
    (w.enter name dir s t).1 = some path ↔
      ∃ rendered, (w.render name s.context.data t).1 = some rendered ∧
        path = dir.joinRendered rendered ∧
        (w.host.createDirAll path (w.render name s.context.data t).2).1 = true := by
  rw [enter, stateM_bind]
  cases (w.render name s.context.data t).1 with
  | none => simp
  | some rendered =>
    simp only [makeDir, bind_assoc, stateM_bind, Option.some.injEq]
    cases hmade :
        (w.host.createDirAll (dir.joinRendered rendered) (w.render name s.context.data t).2).1 with
    | true =>
      constructor
      · intro h
        obtain rfl : dir.joinRendered rendered = path := by simpa using h
        exact ⟨rendered, rfl, rfl, hmade⟩
      · rintro ⟨_, rfl, rfl, -⟩
        simp
    | false =>
      constructor
      · intro h
        simp at h
      · rintro ⟨_, rfl, rfl, h⟩
        simp [hmade] at h

theorem extends_of_enter {name : String} {root dir path : Path} {s : WalkState} {t : σ}
    (hdir : root.Extends dir) (h : (w.enter name dir s t).1 = some path) : root.Extends path := by
  obtain ⟨rendered, -, rfl, -⟩ := enter_eq_some_iff.1 h
  exact hdir.joinRendered rendered

mutual

theorem extends_of_mem_visitsAt {place : List Nat} {root dir : Path} (hdir : root.Extends dir)
    {v : Visit σ} : ∀ {n : DocNode} {s : WalkState} {t : σ},
      v ∈ w.visitsAt place dir n s t → root.Extends v.dir
  | .file f, s, t, hv => by
    rw [visitsAt, List.mem_singleton] at hv
    rwa [hv]
  | .directory id name children, s, t, hv => by
    rw [visitsAt, List.mem_cons] at hv
    rcases hv with rfl | hv
    · exact hdir
    · cases hentered : (w.enter name dir s t).1 with
      | none => simp [hentered] at hv
      | some path =>
        simp only [hentered] at hv
        exact extends_of_mem_visitsIn (extends_of_enter hdir hentered) hv

/-- Nodes are met below the directory that the walk starts in. -/
theorem extends_of_mem_visitsIn {place : List Nat} {i : Nat} {root dir : Path}
    (hdir : root.Extends dir) {v : Visit σ} : ∀ {ns : List DocNode} {s : WalkState} {t : σ},
      v ∈ w.visitsIn place i dir ns s t → root.Extends v.dir
  | [], s, t, hv => by simp [visitsIn] at hv
  | n :: ns, s, t, hv => by
    rw [visitsIn, List.mem_append] at hv
    rcases hv with hv | hv
    · exact extends_of_mem_visitsAt hdir hv
    · exact extends_of_mem_visitsIn hdir hv

end

theorem extends_of_mem_visits {docs : List DocNode} {dir : Path} {c : RenderContext} {t : σ}
    {v : Visit σ} (hv : v ∈ w.visits docs dir c t) : dir.Extends v.dir :=
  extends_of_mem_visitsIn (.refl dir) hv

mutual

theorem place_of_mem_visitsAt {place : List Nat} {dir : Path} {v : Visit σ} :
    ∀ {n : DocNode} {s : WalkState} {t : σ}, v ∈ w.visitsAt place dir n s t →
      ∃ rest, v.place = place ++ rest ∧
        (if rest = [] then some n else DocNode.at? n.children rest) = some v.node
  | .file f, s, t, hv => by
    rw [visitsAt, List.mem_singleton] at hv
    exact ⟨[], by simp [hv]⟩
  | .directory id name children, s, t, hv => by
    rw [visitsAt, List.mem_cons] at hv
    rcases hv with rfl | hv
    · exact ⟨[], by simp⟩
    · cases hentered : (w.enter name dir s t).1 with
      | none => simp [hentered] at hv
      | some path =>
        simp only [hentered] at hv
        obtain ⟨j, rest, hplace, hnode⟩ := place_of_mem_visitsIn hv
        exact ⟨j :: rest, by simpa using hplace, by simpa [DocNode.children] using hnode⟩

theorem place_of_mem_visitsIn {place : List Nat} {i : Nat} {dir : Path} {v : Visit σ} :
    ∀ {ns : List DocNode} {s : WalkState} {t : σ}, v ∈ w.visitsIn place i dir ns s t →
      ∃ j rest, v.place = place ++ (i + j) :: rest ∧ DocNode.at? ns (j :: rest) = some v.node
  | [], s, t, hv => by simp [visitsIn] at hv
  | n :: ns, s, t, hv => by
    rw [visitsIn, List.mem_append] at hv
    rcases hv with hv | hv
    · obtain ⟨rest, hplace, hnode⟩ := place_of_mem_visitsAt hv
      exact ⟨0, rest, by simpa using hplace, by simpa [DocNode.at?] using hnode⟩
    · obtain ⟨j, rest, hplace, hnode⟩ := place_of_mem_visitsIn hv
      refine ⟨j + 1, rest, ?_, by rwa [DocNode.at?_cons_succ]⟩
      rw [hplace, Nat.add_right_comm, Nat.add_assoc]

end

/-- The node that is met is the one that stands there in the tree. -/
theorem at?_of_mem_visits {docs : List DocNode} {dir : Path} {c : RenderContext} {t : σ}
    {v : Visit σ} (hv : v ∈ w.visits docs dir c t) : DocNode.at? docs v.place = some v.node := by
  obtain ⟨j, rest, hplace, hnode⟩ := place_of_mem_visitsIn hv
  rw [hplace]
  simpa using hnode

end Walker

end Scaffold

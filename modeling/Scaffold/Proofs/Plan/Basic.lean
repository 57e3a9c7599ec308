import Mathlib
import Scaffold.Output.Walk

/-!
# Plans

What a walk over a document tree comes to, once all names and contents are rendered: the
directories to enter, the files to put there, the assets to ask for. A plan does not know where
it will be carried out, nor what it will find there; a directory that cannot be created takes
the part of the plan inside it away.
-/

namespace Scaffold

/-- A rendering of templates, without what is told about it. -/
abbrev Rendering := String → Json → Option String

inductive Plan where
  | enter (rendered : String) (inside : List Plan)
  /-- Prepare the current directory for generated sources. -/
  | prepare
  | put (rendered content : String)
  | fetch (rendered url : String)
  | suppress
  | fail

namespace Plan

/-- The rendered name, unless it is blank. -/
def fileName? (render : Rendering) (data : Json) (name : String) : Option String :=
  (render name data).filter fun rendered => !(Text.trim rendered.toList).isEmpty

def ofTexts (render : Rendering) (data : Json) (name content : String) : Plan :=
  match fileName? render data name with
  | none => suppress
  | some rendered =>
    match render content data with
    | none => fail
    | some text => put rendered text

def ofAsset (render : Rendering) (data : Json) (f : DocFile) : Plan :=
  match fileName? render data f.name with
  | none => suppress
  | some rendered => fetch rendered f.content

/-- One file for each entity, each with its own binding on top of the same context. -/
def ofEntities (render : Rendering) (c : RenderContext) (f : DocFile) (key : String)
    (entities : List Json) : List Plan :=
  entities.map fun e => ofTexts render (c.insert key e).data f.nameTemplate f.content

def ofFile (render : Rendering) (normalDocs : Bool) (c : RenderContext) (f : DocFile) :
    List Plan :=
  if !f.isText && normalDocs then [ofAsset render c.data f]
  else
    match f.dataSource.bindingKey? with
    | some key =>
      (if f.dataSource.isTracked then [prepare] else []) ++
        ofEntities render c f key (c.entities f.dataSource f.isEnumsOnly)
    | none =>
      if f.dataSource == .none && normalDocs then
        [ofTexts render c.data f.nameTemplate f.content]
      else []

mutual

def ofNode (render : Rendering) (normalDocs : Bool) (c : RenderContext) : DocNode → List Plan
  | .file f => ofFile render normalDocs c f
  | .directory _ name children =>
    match render name c.data with
    | none => [fail]
    | some rendered => [enter rendered (ofNodes render normalDocs c children)]

/-- The plan of a walk in a context. -/
def ofNodes (render : Rendering) (normalDocs : Bool) (c : RenderContext) :
    List DocNode → List Plan
  | [] => []
  | n :: ns => ofNode render normalDocs c n ++ ofNodes render normalDocs c ns

end

end Plan

namespace Walker

variable {m : Type → Type} [Monad m]

mutual

def carryOut (w : Walker m) (dir : Path) : Plan → WalkState → m WalkState
  | .enter rendered inside, s => do
    if ← w.makeDir (dir.joinRendered rendered) then
      w.carryOutAll (dir.joinRendered rendered) inside s
    else return onReport s Report.fail
  | .prepare, s => w.prepare dir s
  | .put rendered content, s => w.output (dir.joinRendered rendered) content s
  | .fetch rendered url, s => w.fetchTo (dir.joinRendered rendered) url s
  | .suppress, s => return onReport s Report.suppress
  | .fail, s => return onReport s Report.fail

/-- Carry out a plan in a directory, part after part. -/
def carryOutAll (w : Walker m) (dir : Path) : List Plan → WalkState → m WalkState
  | [], s => return s
  | p :: ps, s => do
    let s ← w.carryOut dir p s
    w.carryOutAll dir ps s

end

@[simp] theorem carryOutAll_nil (w : Walker m) (dir : Path) :
    w.carryOutAll dir [] = pure := by
  funext s
  rw [carryOutAll]

@[simp] theorem carryOutAll_cons (w : Walker m) (dir : Path) (p : Plan) (ps : List Plan)
    (s : WalkState) :
    w.carryOutAll dir (p :: ps) s = w.carryOut dir p s >>= w.carryOutAll dir ps := by
  rw [carryOutAll]

theorem carryOutAll_singleton [LawfulMonad m] (w : Walker m) (dir : Path) (p : Plan)
    (s : WalkState) : w.carryOutAll dir [p] s = w.carryOut dir p s := by
  simp

theorem carryOutAll_append [LawfulMonad m] (w : Walker m) (dir : Path) (ps qs : List Plan)
    (s : WalkState) :
    w.carryOutAll dir (ps ++ qs) s = w.carryOutAll dir ps s >>= w.carryOutAll dir qs := by
  induction ps generalizing s with
  | nil => simp
  | cons p ps ih =>
    simp only [List.cons_append, carryOutAll_cons, bind_assoc]
    exact bind_congr ih

/-! ## The context plays no part -/

/-- The state with another context. -/
def inContext (c : RenderContext) (s : WalkState) : WalkState :=
  { s with context := c }

section Context

variable [LawfulMonad m]

theorem output_inContext (w : Walker m) (path : Path) (content : String) (c : RenderContext)
    (s : WalkState) :
    w.output path content (inContext c s) = inContext c <$> w.output path content s := by
  simp only [output, map_bind]
  refine bind_congr fun created => ?_
  split <;> simp [inContext, onReport]

theorem purge_inContext (w : Walker m) (dir : Path) (c : RenderContext) (s : WalkState) :
    w.purge dir (inContext c s) = inContext c <$> w.purge dir s := by
  simp only [purge, map_bind]
  refine bind_congr fun removed => ?_
  cases removed with
  | false => simp [inContext]
  | true =>
    simp only [if_true, map_bind]
    refine bind_congr fun created => ?_
    cases created <;> simp [inContext, onReport]

theorem prepare_inContext (w : Walker m) (dir : Path) (c : RenderContext) (s : WalkState) :
    w.prepare dir (inContext c s) = inContext c <$> w.prepare dir s := by
  simp only [prepare, show (inContext c s).purged = s.purged from rfl]
  split
  · rw [purge_inContext]
    simp [inContext, onReport]
  · simp [inContext, onReport]

theorem fetchTo_inContext (w : Walker m) (path : Path) (url : String) (c : RenderContext)
    (s : WalkState) :
    w.fetchTo path url (inContext c s) = inContext c <$> w.fetchTo path url s := by
  simp only [fetchTo, map_bind]
  refine bind_congr fun found => ?_
  cases found with
  | true => simp [inContext, onReport]
  | false =>
    simp only [Bool.false_eq_true, if_false, map_bind]
    refine bind_congr fun created => ?_
    cases created <;> simp [inContext, onReport]

mutual

theorem carryOut_inContext (w : Walker m) (c : RenderContext) (dir : Path) :
    ∀ (p : Plan) (s : WalkState),
      w.carryOut dir p (inContext c s) = inContext c <$> w.carryOut dir p s
  | .enter rendered inside, s => by
    simp only [carryOut, map_bind]
    refine bind_congr fun made => ?_
    split
    · exact carryOutAll_inContext w c _ inside s
    · simp [inContext, onReport]
  | .prepare, s => by simpa only [carryOut] using prepare_inContext w dir c s
  | .put _ _, s => by simpa only [carryOut] using output_inContext w _ _ c s
  | .fetch _ _, s => by simpa only [carryOut] using fetchTo_inContext w _ _ c s
  | .suppress, s => by simp [carryOut, inContext, onReport]
  | .fail, s => by simp [carryOut, inContext, onReport]

theorem carryOutAll_inContext (w : Walker m) (c : RenderContext) (dir : Path) :
    ∀ (ps : List Plan) (s : WalkState),
      w.carryOutAll dir ps (inContext c s) = inContext c <$> w.carryOutAll dir ps s
  | [], s => by simp
  | p :: ps, s => by
    simp only [carryOutAll_cons, map_bind, carryOut_inContext w c dir p s, bind_map_left]
    exact bind_congr fun s => carryOutAll_inContext w c dir ps s

end

end Context

end Walker

end Scaffold

import Scaffold.Log
import Scaffold.Path
import Scaffold.Script.Evaluator
import Scaffold.Spec.Document
import Scaffold.Template.Render

/-!
# Script helpers

Helpers of a project are scripts in its document tree. A registry holds them under their names;
a script registered under a name that is taken replaces the one before and keeps its place. A
helper sees its operands as `params` and `hash`, and its value is what it puts in place.
-/

namespace Scaffold

open Script (Value)

/-- Why a helper is not registered. -/
inductive HelperError where
  /-- The node's name leaves nothing to call the helper by. -/
  | noName (node : String)
  /-- The source is no script. -/
  | badScript (name : String)
deriving DecidableEq

namespace HelperError

def message : HelperError → String
  | noName node => "helper node '" ++ node ++ "' does not yield a helper name"
  | badScript name => "helper '" ++ name ++ "' failed to compile"

end HelperError

/-- The name of the helper in a node: the stem of its file name. -/
def helperName? (nodeName : String) : Option String :=
  (Path.fileStem? ⟨Text.trim nodeName.toList⟩).map String.ofList

structure HelperRegistry where
  /-- Names and scripts, in the order in which the names came. -/
  helpers : List (String × Script.Program) := []
deriving Inhabited

namespace HelperRegistry

def names (r : HelperRegistry) : List String :=
  r.helpers.map (·.1)

def find? (r : HelperRegistry) (name : String) : Option Script.Program :=
  r.helpers.lookup name

/-- Replace the script of a name, or put it at the end under a new one. -/
def put (name : String) (script : Script.Program) :
    List (String × Script.Program) → List (String × Script.Program)
  | [] => [(name, script)]
  | (n, s) :: rest => if n = name then (n, script) :: rest else (n, s) :: put name script rest

/-- Register the script in a source text, with scripts read by `compile?`. -/
def registerBy (compile? : String → Option Script.Program) (r : HelperRegistry)
    (name source : String) : Except HelperError HelperRegistry :=
  if name = "" then .error (.noName name)
  else
    match compile? source with
    | some script => .ok ⟨put name script r.helpers⟩
    | none => .error (.badScript name)

def register (r : HelperRegistry) (name source : String) : Except HelperError HelperRegistry :=
  registerBy Script.parse? r name source

/-- Register the helper of a file node. -/
def registerNode (compile? : String → Option Script.Program) (r : HelperRegistry) (f : DocFile) :
    Except HelperError HelperRegistry :=
  match helperName? f.name with
  | some name => registerBy compile? r name f.content
  | none => .error (.noName f.name)

/-- A registry while it is filled from a document tree. -/
structure Loading where
  registry : HelperRegistry := {}
  /-- How many nodes have been registered. -/
  count : Nat := 0
  /-- What was told about it, last event first. -/
  events : List LogEvent := []

namespace Loading

variable (compile? : String → Option Script.Program)

/-- Register a file node if it is a helper; a failure is told and passed over. -/
def addFile (l : Loading) (f : DocFile) : Loading :=
  if f.dataSource = .handlebarHelper then
    match registerNode compile? l.registry f with
    | .ok r =>
      { registry := r
        count := l.count + 1
        events := .debug "Registered script helper" [("helper", .str f.name)] :: l.events }
    | .error _ =>
      { l with
        events := .error "Helper registration failed" [("node", .str f.name)] :: l.events }
  else l

mutual

def addNode (l : Loading) : DocNode → Loading
  | .directory _ _ children => addNodes l children
  | .file f => addFile compile? l f

/-- Register the helpers of nodes in document order. -/
def addNodes (l : Loading) : List DocNode → Loading
  | [] => l
  | n :: ns => addNodes (addNode l n) ns

end

end Loading

/-- The registry of all helpers in a document tree, with what was told about loading them. -/
def ofDocs (docs : List DocNode) : HelperRegistry × List LogEvent :=
  let l := Loading.addNodes Script.parse? {} docs
  (l.registry, l.events.reverse)

/-! ## Rendering with helpers -/

/-- A script as a helper; it fails where the script does or where its value is no data. -/
def asHelper (script : Script.Program) : Template.CustomHelper := fun a =>
  let inputs : List (String × Value) :=
    [("params", .array (Value.ofJsonItems a.args).toArray),
     ("hash", .map (Value.ofJsonMembers a.named))]
  let r := script.run inputs ""
  (r.value.bind fun v => v.1.toJson?, r.printed)

def env (r : HelperRegistry) (data : Json) : Template.Env :=
  { data := data, custom? := fun name => (r.find? name).map asHelper }

/-- How much of a template is told when it fails. -/
def previewLength : Nat := 80

def preview (template : String) : String :=
  let cs := template.toList
  if previewLength < cs.length then String.ofList (cs.take previewLength) ++ "..." else template

/-- Render a template, with what is told about it. -/
def render (r : HelperRegistry) (template : String) (data : Json) :
    Option String × List LogEvent :=
  let (text?, lines) := Template.render (r.env data) template
  let told := lines.map LogEvent.printed
  match text? with
  | some text => (some text, told)
  | none =>
    (none, told ++ [.error "Template compilation failed" [("template", .str (preview template))]])

end HelperRegistry

end Scaffold

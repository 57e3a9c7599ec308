import Scaffold.Template.Helper
import Scaffold.Template.Parser

/-!
# Rendering

A template renders against one value, the data. Blocks move the point of view: inside of `each`
and `with` names are looked up from the current entity, which is a place in the data where it
comes from there and a value of its own otherwise. Rendering fails as a whole where a helper
fails; the lines that helpers print are kept even then.

Nodes that a definition keeps are known to all that follows it, but a definition inside of
included nodes is forgotten after them. Included nodes can include others, so they are rendered
with a bound on how deep that goes.
-/

namespace Scaffold.Template

/-- What rendering leaves behind besides its text. -/
structure Progress where
  /-- The lines that helpers printed. -/
  printed : List String := []
  /-- Nodes kept under names, the latest first. -/
  kept : List (String × List Node) := []
deriving Inhabited

/-- A computation that may fail and that makes progress even then. -/
abbrev Rendering (α : Type) := OptionT (StateM Progress) α

/-- A helper that is not built in: its value, if it has one, and the lines that it prints. -/
abbrev CustomHelper := Args → Option Json × List String

structure Env where
  data : Json
  custom? : String → Option CustomHelper
  /-- The bodies of the including blocks around, innermost first. -/
  bodies : List (List Node) := []
  /-- Which of the bodies is included under the name for bodies. -/
  level : Nat := 0
  /-- The blanks that each line but the first one begins with. -/
  indent : List Char := []

/-- Call a helper that is not built in. -/
def callCustom (f : CustomHelper) (a : Args) : Rendering Json :=
  OptionT.mk fun p =>
    let (value?, lines) := f a
    (value?, { p with printed := p.printed ++ lines })

/-- Put blanks after each line end, except one at the end of the text. -/
def indentLines (blanks : List Char) : List Char → List Char
  | [] => []
  | [c] => [c]
  | c :: d :: cs =>
    if c = '\n' then c :: (blanks ++ indentLines blanks (d :: cs))
    else c :: indentLines blanks (d :: cs)

/-- A text as it is written, under the indent. -/
def written (env : Env) (s : String) : String :=
  if env.indent.isEmpty then s else String.ofList (indentLines env.indent s.toList)

/-- A value with its place in the data, if it has one; `none` where nothing is. -/
structure Scoped where
  value : Option Json := none
  place : Option (List String) := none
deriving Inhabited

namespace Scoped

def json (s : Scoped) : Json := s.value.getD .null

def ofValue (v : Json) : Scoped := { value := some v }

end Scoped

/-- What a name given by a block stands for. -/
inductive Binding where
  | value (value : Json)
  /-- The block's own place. -/
  | place
deriving Inhabited

/-- A point of view. -/
structure Scope where
  place : List String := []
  value : Option Json := none
  vars : List (String × Json) := []
  bindings : List (String × Binding) := []
deriving Inhabited

namespace Scope

def var? (s : Scope) (name : String) : Option Json :=
  s.vars.lookup name

def binding? (s : Scope) (name : String) : Option Binding :=
  s.bindings.lookup name

end Scope

/-! ## References -/

/-- A key as the number of an item. -/
def indexOf? (key : String) : Option Nat :=
  let digits := match key.toList with
    | '+' :: rest => rest
    | cs => cs
  (Number.natOfDigits? digits).filter (· < 2 ^ 64)

/-- The item or member under a key; items need a number. -/
def child? (v : Json) (key : String) : Option (Option Json) :=
  match v with
  | .arr xs => (indexOf? key).map fun i => xs[i]?
  | .obj ms => some (Members.find? key ms)
  | _ => some none

def follow (v : Json) : List String → Option (Option Json)
  | [] => some (some v)
  | key :: keys =>
    match child? v key with
    | none => none
    | some none => some none
    | some (some w) => follow w keys

def nameOf? : Step → Option String
  | .name n => some n
  | _ => none

def countUps : List Step → Nat
  | .up :: rest => countUps rest + 1
  | _ => 0

/-- The binding of a name in the innermost scope that has one, with that scope. -/
def findBinding (name : String) : List Scope → Option (Binding × Scope)
  | [] => none
  | s :: rest =>
    match s.binding? name with
    | some b => some (b, s)
    | none => findBinding name rest

/-- The variable that a reference names, as a level and a name, if it names one. -/
def variableOf? : List Step → Option (Nat × String)
  | .here :: rest =>
    let level := countUps rest
    match rest.drop level with
    | .name n :: _ => some (level, n)
    | _ => none
  | _ => none

/-- Look from a value that has no place. -/
def fromValue (v : Json) (keys : List String) : Option Scoped :=
  (follow v keys).map fun found => { value := found }

/-- Look from a place in the data. -/
def fromPlace (data : Json) (place keys : List String) : Option Scoped :=
  let full := place ++ keys
  (follow data full).map fun found =>
    match found with
    | some v => { value := some v, place := some full }
    | none => {}

def fromScope (data : Json) (s : Scope) (keys : List String) : Option Scoped :=
  match s.value with
  | some v => fromValue v keys
  | none => fromPlace data s.place keys

/-- What a reference that is no variable means. -/
def resolve (data : Json) (scopes : List Scope) (steps : List Step) : Option Scoped :=
  let ups := countUps steps
  let keys := steps.filterMap nameOf?
  let bound := match steps.drop ups with
    | .name n :: rest => (findBinding n scopes).map fun found => (found, rest.filterMap nameOf?)
    | _ => none
  match bound with
  | some ((.value v, _), keys) => fromValue v keys
  | some ((.place, s), keys) => fromPlace data s.place keys
  | none =>
    let front := scopes.head?.getD {}
    match steps with
    | .root :: _ => fromPlace data [] keys
    | _ => fromScope data (if ups = 0 then front else (scopes[ups]?).getD front) keys

def evaluate (data : Json) (scopes : List Scope) (r : Reference) : Option Scoped :=
  match variableOf? r.steps with
  | some (level, name) =>
    some { value := (scopes[level]?).bind (·.var? name) }
  | none => resolve data scopes r.steps

/-! ## Operands -/

/-- Helpers that decide about blocks. -/
inductive BlockHelper where
  | test (positive : Bool)
  | each
  | scope
  | log
  | raw
  | compare
deriving DecidableEq

def blockHelper? (name : String) : Option BlockHelper :=
  match name with
  | "if" => some (.test true)
  | "unless" => some (.test false)
  | "each" => some .each
  | "with" => some .scope
  | "log" => some .log
  | "raw" => some .raw
  | "ifCond" => some .compare
  | _ => none

def isLogLevel (s : String) : Bool :=
  ["error", "warn", "info", "debug", "trace"].contains
    (String.ofList (s.toList.map Text.asciiLower))

/-- Whether a block helper accepts its operands. -/
def accepts (h : BlockHelper) (a : Args) : Bool :=
  match h with
  | .test _ => (a.at? 0).isSome
  | .each => (a.at? 0).isSome
  | .scope => (a.at? 0).isSome
  | .log => isLogLevel (((a.named? "level").bind Json.text?).getD "info")
  | .raw => true
  | .compare => true

def ofOption {α : Type} (o : Option α) : Rendering α := OptionT.mk (pure o)

/-- The helper that stands in for one that is not known. -/
def missingHelper? (env : Env) (inBlock : Bool) : Option CustomHelper :=
  env.custom? (if inBlock then "blockHelperMissing" else "helperMissing")

/-- What the name of a helper stands for. -/
inductive NamedHelper where
  | custom (helper : CustomHelper)
  | block (helper : BlockHelper)
  | value (helper : Args → HelperValue)

/-- The built-in helper of a name. -/
def builtIn? (data : Json) (name : String) : Option NamedHelper :=
  match blockHelper? name with
  | some h => some (.block h)
  | none => (valueHelper? data name).map .value

/-- The helper of a name. One that is not built in stands before the built-in one. -/
def Env.helper? (env : Env) (name : String) : Option NamedHelper :=
  match env.custom? name with
  | some f => some (.custom f)
  | none => builtIn? env.data name

/-- Call a helper for its value. Helpers that decide about blocks have no block here and leave
an empty text. -/
def callForValue (env : Env) (name : String) (a : Args) : Rendering Scoped :=
  match env.helper? name with
  | some (.custom f) => do return .ofValue (← callCustom f a)
  | some (.block h) => if accepts h a then return .ofValue (.str "") else failure
  | some (.value f) => do return { value := ← ofOption (f a) }
  | none =>
    match missingHelper? env false with
    | some f => do return .ofValue (← callCustom f a)
    | none => failure

def argsOf (args : List Scoped) (named : List (String × Scoped)) : Args :=
  { args := args.map Scoped.json, named := Members.ofList (named.map fun (k, s) => (k, s.json)) }

mutual

def evalOperand (env : Env) (scopes : List Scope) : Operand → Rendering Scoped
  | .word _ => return {}
  | .literal v => return .ofValue v
  | .reference r => ofOption (evaluate env.data scopes r)
  | .call head args named => do
    let name ← nameOfHead env scopes head
    let args ← evalOperands env scopes args
    let named ← evalNamed env scopes named
    callForValue env name (argsOf args named)

/-- The name of the helper that stands at the head of a call. -/
def nameOfHead (env : Env) (scopes : List Scope) : Operand → Rendering String
  | .word w => return w
  | .literal v => return valueText v
  | .reference r => return r.raw
  | .call head args named => do
    let name ← nameOfHead env scopes head
    let args ← evalOperands env scopes args
    let named ← evalNamed env scopes named
    return valueText (← callForValue env name (argsOf args named)).json

def evalOperands (env : Env) (scopes : List Scope) : List Operand → Rendering (List Scoped)
  | [] => return []
  | o :: os => do
    let s ← evalOperand env scopes o
    return s :: (← evalOperands env scopes os)

def evalNamed (env : Env) (scopes : List Scope) :
    List (String × Operand) → Rendering (List (String × Scoped))
  | [] => return []
  | (k, o) :: os => do
    let s ← evalOperand env scopes o
    return (k, s) :: (← evalNamed env scopes os)

end

/-! ## Nodes -/

/-- A scope that looks from a value. -/
def scopeOf (s : Scoped) : Scope :=
  match s.place with
  | some p => { place := p }
  | none => { value := some s.json }

/-- What the first binder stands for, and the second one if there are two. -/
def bindingsOf (binders : List String) (placed : Bool) (v key : Json) :
    List (String × Binding) :=
  let first : Binding := if placed then .place else .value v
  match binders with
  | [a] => [(a, first)]
  | [a, b] => [(b, .value key), (a, first)]
  | _ => []

/-- The scope of an item or member of what is gone through. -/
def entryScope (whole : Scoped) (binders : List String) (vars : List (String × Json))
    (key : String) (keyValue v : Json) : Scope :=
  let placed := whole.place.isSome
  { place := (whole.place.getD []) ++ [key]
    value := if placed then none else some v
    vars := vars
    bindings := bindingsOf binders placed v keyValue }

def positionVars (i count : Nat) : List (String × Json) :=
  [("first", .bool (i == 0)), ("last", .bool (i + 1 == count)), ("index", Json.int i)]

/-- The scopes of all items or members of what is gone through, if it can be. -/
def entryScopes (whole : Scoped) (binders : List String) : Option (List Scope) :=
  match whole.json with
  | .arr xs => some <| xs.zipIdx.map fun (v, i) =>
    entryScope whole binders (positionVars i xs.length) (String.ofList (Number.natDigits i))
      (Json.int i) v
  | .obj ms => some <| ms.zipIdx.map fun ((k, v), i) =>
    entryScope whole binders (("key", .str k) :: positionVars i ms.length) k (.str k) v
  | _ => none

/-- The scope that `with` opens. -/
def withScope (s : Scoped) (binders : List String) : Scope :=
  let bindings := match binders with
    | [a] => bindingsOf [a] s.place.isSome s.json .null
    | _ => []
  { scopeOf s with bindings := bindings }

/-- The branch of a condition. -/
def testHolds (positive : Bool) (a : Args) : Bool :=
  let withZero := match a.named? "includeZero" with
    | some (.bool b) => b
    | _ => false
  holds withZero (a.atOrNull 0) == positive

def compareHolds (a : Args) : Bool :=
  (condition? (a.atOrNull 0) ((a.atOrNull 1).text?.getD "") (a.atOrNull 2)).getD false

/-- A value as it is written. -/
def writtenValue (env : Env) (escaped : Bool) (v : Json) : String :=
  written env (output escaped (valueText v))

/-- Write the result of a helper that is called outside of an operand and has no block. -/
def callForText (env : Env) (name : String) (a : Args) (escaped inBlock : Bool) :
    Rendering String :=
  match env.helper? name with
  | some (.custom f) => do return writtenValue env escaped (← callCustom f a)
  | some (.block h) => if accepts h a then return "" else failure
  | some (.value f) => do
    return writtenValue env escaped ((← ofOption (f a)).getD .null)
  | none =>
    match missingHelper? env inBlock with
    | some f => do return writtenValue env escaped (← callCustom f a)
    | none => failure

def isHelper (env : Env) (name : String) : Bool :=
  (env.helper? name).isSome

/-- A value or the result of a helper. -/
def renderValue (env : Env) (scopes : List Scope) (call : Call) (escaped : Bool) :
    Rendering String := do
  let name ← nameOfHead env scopes call.head
  if call.isBare && !isHelper env name then
    let found ← evalOperand env scopes call.head
    match found.value with
    | some v => return writtenValue env escaped v
    | none =>
      match missingHelper? env false with
      | some f => return writtenValue env escaped (← callCustom f {})
      | none => return ""
  else
    let args ← evalOperands env scopes call.args
    let named ← evalNamed env scopes call.named
    callForText env name (argsOf args named) escaped false

/-! ## Nodes under a name -/

/-- Keep the body of a definition under the name in its operand. -/
def keep (env : Env) (scopes : List Scope) (call : Call) (body : Option (List Node)) :
    Rendering Unit := do
  let how ← nameOfHead env scopes call.head
  let args ← evalOperands env scopes call.args
  let _ ← evalNamed env scopes call.named
  match how, (args.head?.getD {}).json, body with
  | "inline", .str name, some nodes =>
    modify fun p => { p with kept := (name, nodes) :: p.kept }
  | _, _, _ => failure

/-- Keep what the definitions among some nodes define. -/
def keepAll (env : Env) (scopes : List Scope) : List Node → Rendering Unit
  | [] => return ()
  | .define call body :: ns => do
    keep env scopes call body
    keepAll env scopes ns
  | _ :: ns => keepAll env scopes ns

/-- The name under which the body of an including block is included. -/
def bodyName : String := "@partial-block"

/-- The nodes to include under a name. -/
def included? (env : Env) (kept : List (String × List Node)) (name : String)
    (body : Option (List Node)) : Option (List Node) :=
  match (if name = bodyName then env.bodies[env.level]? else kept.lookup name) with
  | some nodes => some nodes
  | none => body

/-- The surroundings of the nodes that are included under a name. -/
def enter (env : Env) (name : String) (indent : List Char) (body : Option (List Node)) : Env :=
  { env with
    bodies := body.toList ++ env.bodies
    level := if name = bodyName then env.level + 1 else env.level - 1
    indent := env.indent ++ indent }

/-- The members of a value, others put over them; a value without members has none. -/
def withMembers (v : Json) (named : List (String × Scoped)) : Json :=
  let own := match v with
    | .obj ms => ms
    | _ => []
  .obj (named.foldl (fun ms (k, s) => Members.insert k s.json ms) own)

/-- The scopes of included nodes: an operand with a place is entered and nothing around it is
seen from there; named operands are put over what is seen. -/
def includedScopes (data : Json) (scopes : List Scope) (args : List Scoped)
    (named : List (String × Scoped)) : Option (List Scope) :=
  let scopes := match args.head?.bind Scoped.place with
    | some place => [{ place := place }]
    | none => scopes
  if named.isEmpty then some scopes
  else
    let front := scopes.head?.getD {}
    (fromScope data front []).map fun here =>
      [{ front with value := some (withMembers here.json named) }]

/-- How an inclusion is rendered: its call, the blanks in front of it and its body. -/
abbrev Inclusion :=
  Env → List Scope → Call → List Char → Option (List Node) → Rendering String

/-- Render an inclusion, given how nodes are rendered. -/
def renderInclude (nodesOf : Env → List Scope → List Node → Rendering String) : Inclusion :=
  fun env scopes call indent body => do
    let name ← nameOfHead env scopes call.head
    let args ← evalOperands env scopes call.args
    let named ← evalNamed env scopes call.named
    keepAll env scopes (body.getD [])
    let kept := (← get).kept
    let nodes ← ofOption (included? env kept name body)
    let inside ← ofOption (includedScopes env.data scopes args named)
    let out ← nodesOf (enter env name indent body) inside nodes
    modify fun p => { p with kept := kept }
    return out

mutual

def renderNode (inclusion : Inclusion) (env : Env) (scopes : List Scope) : Node → Rendering String
  | .text cs => return written env (String.ofList cs)
  | .value call escaped => renderValue env scopes call escaped
  | .define call body => do
    keep env scopes call body
    return ""
  | .inclusion call indent body => inclusion env scopes call indent body
  | .block opening body otherwise => do
    let call := opening.call
    let name ← nameOfHead env scopes call.head
    let args ← evalOperands env scopes call.args
    let named ← evalNamed env scopes call.named
    let a := argsOf args named
    match env.helper? name with
    | some (.block h) =>
      if !accepts h a then failure
      else
        match h with
        | .test positive =>
          if testHolds positive a then renderNodes inclusion env scopes body
          else renderNodes inclusion env scopes otherwise
        | .compare =>
          if compareHolds a then renderNodes inclusion env scopes body
          else renderNodes inclusion env scopes otherwise
        | .raw => renderNodes inclusion env scopes body
        | .log => return ""
        | .scope =>
          let subject := args.head?.getD {}
          if holds false subject.json then
            renderNodes inclusion env (withScope subject opening.binders :: scopes) body
          else renderNodes inclusion env scopes otherwise
        | .each =>
          match entryScopes (args.head?.getD {}) opening.binders with
          | none => renderNodes inclusion env scopes otherwise
          | some [] => renderNodes inclusion env scopes otherwise
          | some entries =>
            entries.foldlM (fun out entry => do
              return out ++ (← renderNodes inclusion env (entry :: scopes) body)) ""
    | _ => callForText env name a true true

def renderNodes (inclusion : Inclusion) (env : Env) (scopes : List Scope) :
    List Node → Rendering String
  | [] => return ""
  | n :: ns => do
    let s ← renderNode inclusion env scopes n
    return s ++ (← renderNodes inclusion env scopes ns)

end

/-- Render inclusions, at most so many inside each other. -/
def includeWithin : Nat → Inclusion
  | 0 => fun _ _ _ _ _ => failure
  | depth + 1 => renderInclude (renderNodes (includeWithin depth))

/-- How deep inclusions may go. -/
def maxIncludeDepth : Nat := 1000

/-- Render a template, with the lines that helpers print. -/
def render (env : Env) (source : String) : Option String × List String :=
  match parse? source with
  | none => (none, [])
  | some nodes =>
    let (text?, p) := (renderNodes (includeWithin maxIncludeDepth) env [{}] nodes).run {}
    (text?, p.printed)

end Scaffold.Template

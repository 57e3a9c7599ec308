import Scaffold.Spec.Export
import Scaffold.Number.Reading
import Scaffold.Text.Blank

/-!
# Synthesis of payloads

An example payload is built from the parameters of an interface or a template. A parameter has
its default value, or else an example value of its data type; hash and array types are gone into
as many levels as the depth limit allows and are `null` below. Parameters without a type are
`null` and give an error each, in the order in which they are visited.
-/

namespace Scaffold

/-- A payload, the problems met with it, and the lines that scripts printed. -/
structure MockData where
  json : Json := .null
  errors : List String := []
  printed : List String := []
deriving Inhabited

namespace Mock

/-- How many levels of hash and array types are gone into. -/
def defaultDepth : Nat := 6

/-- The example value of a simple format. -/
def dummyValue (format : Int) : Json :=
  if format = Format.string ∨ format = Format.file then .str "example"
  else if format = Format.number then Json.int 42
  else if format = Format.boolean then .bool true
  else .null

/-! ## Defaults -/

/-- A number as it is written: whole ones as integers, if sixty-four bits with sign hold them. -/
def numberOfText? (cs : List Char) : Option Json :=
  match Double.ofText? (Text.trim cs) with
  | none => none
  | some x =>
    match x.toInt? with
    | some n => some (if n.natAbs < 2 ^ 63 then Json.int n else Json.float x)
    | none => if x.isFinite then some (Json.float x) else none

/-- A written default in the format of its parameter, where it can be read so. -/
def coerceText (s : String) (format : Option Int) : Json :=
  if format = some Format.number then (numberOfText? s.toList).getD (.str s)
  else if format = some Format.boolean then
    let word := String.ofList (Text.trim s.toList)
    if word = "true" then .bool true else if word = "false" then .bool false else .str s
  else .str s

def coerceDefault (v : Json) (format : Option Int) : Json :=
  match v with
  | .str s => coerceText s format
  | _ => v

/-- The default value of a parameter, unless it is `null` or an empty text. -/
def usableDefault? (p : Param) : Option Json :=
  match p.defaultValue with
  | none => none
  | some .null => none
  | some (.str s) => if s = "" then none else some (.str s)
  | some v => some v

/-! ## Values -/

/-- A value with the problems met while it was built. -/
abbrev Sample := Json × List String

/-- Why a parameter has no type. -/
def untyped (p : Param) : String :=
  match p.typeId with
  | some id =>
    "unknown data type " ++ String.ofList (Number.intDigits id) ++ " for param '" ++ p.name ++ "'"
  | none => "param '" ++ p.name ++ "' has no data type"

/-- A value of a parameter, not repeated. -/
def singleValue (value : DataType → Sample) (catalog : List DataType) (p : Param) : Sample :=
  let type? := p.typeId.bind (lastWithId? catalog)
  match usableDefault? p, type? with
  | some v, _ => (coerceDefault v (type?.map (·.format)), [])
  | none, some d => value d
  | none, none => (.null, [untyped p])

/-- The value of a parameter, where `value` gives those of data types. -/
def paramValue (value : DataType → Sample) (catalog : List DataType) (p : Param) : Sample :=
  let (v, errors) := singleValue value catalog p
  (if p.isArray then .arr [v] else v, errors)

/-- Members for parameters onto those of earlier ones; a name that comes again counts anew. -/
def paramMembers (value : DataType → Sample) (catalog : List DataType) (ms : Members) :
    List Param → Members × List String
  | [] => (ms, [])
  | p :: ps =>
    let (v, errors) := paramValue value catalog p
    let (ms, more) := paramMembers value catalog (ms.insert p.name v) ps
    (ms, errors ++ more)

def objectValue (value : DataType → Sample) (catalog : List DataType) (ps : List Param) :
    Sample :=
  let (ms, errors) := paramMembers value catalog [] ps
  (.obj ms, errors)

/-- The first member of an enumeration: its default value, or else its name. -/
def enumValue (d : DataType) : Json :=
  match d.params with
  | [] => .null
  | p :: _ =>
    match p.defaultValue with
    | none => .str p.name
    | some .null => .str p.name
    | some v => v

/-- The value of a type that is not gone into. -/
def plainValue (d : DataType) : Json :=
  if d.format = Format.enumeration then enumValue d else dummyValue d.format

def isNested (d : DataType) : Bool :=
  d.format == Format.hash || d.format == Format.array

/-- The value of a data type with so many levels left. -/
def typeValue (catalog : List DataType) : Nat → DataType → Sample
  | 0, d => (if isNested d then .null else plainValue d, [])
  | levels + 1, d =>
    if d.format = Format.hash then objectValue (typeValue catalog levels) catalog d.params
    else if d.format = Format.array then
      match d.params with
      | [] => (.arr [.null], [])
      | p :: _ =>
        let (v, errors) := paramValue (typeValue catalog levels) catalog p
        (.arr [v], errors)
    else (plainValue d, [])

/-- The payload of parameters in the format that a response has. -/
def payload (depth : Nat) (resFormat : Int) (params : List Param) (catalog : List DataType) :
    Sample :=
  let value := typeValue catalog depth
  if resFormat = Format.array then
    let (v, errors) := objectValue value catalog params
    (.arr [v], errors)
  else if resFormat = Format.hash then objectValue value catalog params
  else
    match params with
    | p :: _ => paramValue value catalog p
    | [] => (dummyValue resFormat, [])

def synthesize (depth : Nat) (resFormat : Int) (params : List Param) (catalog : List DataType) :
    MockData :=
  let (json, errors) := payload depth resFormat params catalog
  { json, errors }

end Mock

end Scaffold

import Scaffold.Template.Condition
import Scaffold.Template.Value
import Scaffold.Text.Words

/-!
# Helpers

Helpers that compute a value from their operands. They fail where an operand is missing or of
the wrong kind; a value that is not there is no failure and counts as nothing.
-/

namespace Scaffold.Template

/-- Operands of a call, evaluated. -/
structure Args where
  args : List Json := []
  named : Members := []
deriving Inhabited

namespace Args

def at? (a : Args) (i : Nat) : Option Json := a.args[i]?

/-- The operand at a position, `null` where there is none. -/
def atOrNull (a : Args) (i : Nat) : Json := (a.at? i).getD .null

def named? (a : Args) (name : String) : Option Json := Members.find? name a.named

end Args

/-- The outcome of a helper: `none` for a failure, `some none` for a value that is not there. -/
abbrev HelperValue := Option (Option Json)

def valueOf (v : Json) : HelperValue := some (some v)

/-! ## Text -/

def onText (f : List Char → List Char) (a : Args) : HelperValue :=
  match a.at? 0 with
  | some (.str s) => valueOf (.str (String.ofList (f s.toList)))
  | _ => none

/-- Line breaks replaced by the text named `sep`, a comma without one. -/
def noLineBreak (a : Args) : HelperValue :=
  match a.named? "sep" with
  | none => onText (Text.joinLines [',']) a
  | some (.str sep) => onText (Text.joinLines sep.toList) a
  | some _ => none

def jsonText (a : Args) : HelperValue :=
  (a.at? 0).map fun v => some (.str (Json.pretty "\t" v))

/-! ## Values -/

def onTwo (f : Json → Json → Bool) (a : Args) : HelperValue :=
  match a.at? 0, a.at? 1 with
  | some x, some y => valueOf (.bool (f x y))
  | _, _ => none

def lengthOf (v : Json) : Nat :=
  match v with
  | .arr xs => xs.length
  | .obj ms => ms.length
  | .str s => s.utf8ByteSize
  | _ => 0

/-- The item or member of a container that an operand names. -/
def lookup (a : Args) : HelperValue :=
  match a.at? 0, a.at? 1 with
  | some (.arr xs), some (.num (.int i)) => some (if 0 ≤ i then xs[i.toNat]? else none)
  | some (.obj ms), some (.str key) => some (Members.find? key ms)
  | some _, some _ => some none
  | _, _ => none

/-! ## Types -/

def textOf? : Json → Option String
  | .null => none
  | .str s => some s
  | v => some v.compact

/-- Numbers as array dimensions: cut to a whole number, never below zero. -/
def dimension (v : Json) : Nat :=
  match numberOf? v with
  | none => 0
  | some x =>
    if x.isNaN || x.negative then 0
    else if x.isInfinite then 2 ^ 64 - 1
    else min x.truncated.1.toNat (2 ^ 64 - 1)

def repeated (s : String) (n : Nat) : String :=
  Nat.repeat (· ++ s) n ""

/-- A type name with its array dimensions, as brackets or as nested lists. -/
def nestedTypeName (name : String) (dim : Nat) (asList : Bool) : String :=
  if dim = 0 then name
  else if asList then repeated "List<" dim ++ name ++ repeated ">" dim
  else name ++ repeated "[]" dim

/-- The type name of a model or of named operands. -/
def typeName (a : Args) : HelperValue :=
  let model := a.atOrNull 0
  let named (key : String) : Json := (a.named? key).getD .null
  let (type, dim) := match model.get? "type" with
    | some t => (t, (model.get? "arrDim").getD .null)
    | none => (named "type", named "arrDim")
  match textOf? type with
  | none => valueOf .null
  | some t =>
    valueOf (.str (nestedTypeName t (dimension dim) (named "useList" == .bool true)))

/-! ## Property declarations -/

namespace Property

/-- The ownership of a property, and whether it is declared without a pointer. -/
def ownership (field : Json) : String × Bool :=
  if (field.get? "itemIsArray").any truthy then ("strong", false)
  else
    match (field.get? "format").bind Json.int? with
    | some 4 => ("assign", true)
    | some 5 => ("assign", true)
    | some 3 => ("copy", false)
    | _ => ("strong", false)

def memberText (field : Json) (key : String) : String :=
  ((field.get? key).bind textOf?).getD ""

/-- A property with its comment; types of the project carry a lead before their names. -/
def declaration (lead : String) (withLead : Bool) (field : Json) : String :=
  let (ref, plain) := ownership field
  let isHash := (field.get? "format").bind Json.int? == some 0
  let type :=
    if isHash && withLead then lead ++ memberText field "type" else memberText field "type"
  "/**\n *  " ++ memberText field "description" ++ "\n */\n@property (nonatomic, " ++ ref ++ ") " ++
    type ++ " " ++ (if plain then "" else "*") ++ memberText field "name" ++ ";"

def declarations (lead : String) (withLead : Bool) (sep : String) (fields : List Json) : String :=
  String.intercalate sep (fields.map (declaration lead withLead))

/-- The lead of type names among the run's arguments. -/
def leadOf (data : Json) : String :=
  (((data.get? "args").bind (·.get? "prefix")).bind textOf?).getD ""

/-- Declarations of a data type's fields, or of a list of fields. -/
def ofFields (data : Json) (a : Args) : HelperValue :=
  let withLead := truthy (a.atOrNull 1)
  match a.atOrNull 0 with
  | .obj ms =>
    match Members.find? "fields" ms with
    | some (.arr fields) => valueOf (.str (declarations (leadOf data) withLead "\n" fields))
    | _ => valueOf .null
  | .arr fields => valueOf (.str (declarations (leadOf data) withLead "," fields))
  | .null => none
  | _ => valueOf .null

end Property

/-! ## The set -/

/-- The helper of a name that computes a value; `data` is what the template renders against. -/
def valueHelper? (data : Json) (name : String) : Option (Args → HelperValue) :=
  match name with
  | "lookup" => some lookup
  | "eq" => some (onTwo (· == ·))
  | "ne" => some (onTwo fun x y => !(x == y))
  | "gt" => some (onTwo fun x y => order? x y == some .gt)
  | "gte" => some (onTwo fun x y => (order? x y).any (· != .lt))
  | "lt" => some (onTwo fun x y => order? x y == some .lt)
  | "lte" => some (onTwo fun x y => (order? x y).any (· != .gt))
  | "and" => some (onTwo fun x y => holds false x && holds false y)
  | "or" => some (onTwo fun x y => holds false x || holds false y)
  | "not" => some fun a => (a.at? 0).map fun v => some (.bool !(holds false v))
  | "len" => some fun a => (a.at? 0).map fun v => some (Json.int (lengthOf v))
  | "typeName" => some typeName
  | "iosProperty" => some (Property.ofFields data)
  | "extname" => some (onText Text.afterLastDot)
  | "hyphenToUnderline" => some (onText Text.hyphenToUnderline)
  | "hyphenToCamel" => some (onText Text.hyphenToCamel)
  | "camelToHyphen" => some (onText Text.camelToHyphen)
  | "lowerFirst" => some (onText Text.lowerFirst)
  | "upperFirst" => some (onText Text.upperFirst)
  | "noLineBreak" => some noLineBreak
  | "prettifyComment" => some (onText Text.starLines)
  | "JSONStringify" => some jsonText
  | _ => none

end Scaffold.Template

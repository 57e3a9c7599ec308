import Scaffold.Json.Basic
import Scaffold.Number.Reading
import Scaffold.Yaml.Node

/-!
# Data in documents

What the nodes of a document mean as data. Plain scalars are read as numbers, truth values or
nothing where they look like it; a tag of the core set asks for one kind, and tags of other
kinds that begin with `!` are refused. Nesting is bounded, and so is following aliases.
-/

namespace Scaffold.Yaml

/-! ## Plain scalars -/

def isNullText (cs : List Char) : Bool :=
  ["null", "Null", "NULL", "~"].any fun s => s.toList == cs

def boolOf? (cs : List Char) : Option Bool :=
  if ["true", "True", "TRUE"].any fun s => s.toList == cs then some true
  else if ["false", "False", "FALSE"].any fun s => s.toList == cs then some false
  else none

/-- Digits behind a zero are a text. -/
def isPadded (cs : List Char) : Bool :=
  let digits := match cs with
    | '-' :: rest => rest
    | '+' :: rest => rest
    | _ => cs
  match digits with
  | '0' :: d :: rest => (d :: rest).all Char.isDigit
  | _ => false

def digitsIn? (radix : Nat) (cs : List Char) : Option Nat :=
  if cs.isEmpty then none
  else cs.foldl (fun n? c => n?.bind fun n =>
    ((hexValue? c).filter (· < radix)).map fun d => n * radix + d) (some 0)

/-- A number without a sign: hexadecimal, octal, binary or decimal. -/
def natOf? (cs : List Char) : Option Nat :=
  let marked := match cs with
    | '0' :: 'x' :: rest => digitsIn? 16 rest
    | '0' :: 'o' :: rest => digitsIn? 8 rest
    | '0' :: 'b' :: rest => digitsIn? 2 rest
    | _ => none
  marked.or (if isPadded cs then none else digitsIn? 10 cs)

def intOf? (cs : List Char) : Option Int :=
  match cs with
  | '-' :: rest => (natOf? rest).map fun n => -(n : Int)
  | '+' :: rest => (natOf? rest).map fun n => (n : Int)
  | _ => (natOf? cs).map fun n => (n : Int)

def floatOf? (cs : List Char) : Option Double :=
  let isOneOf (names : List String) (cs : List Char) : Bool := names.any fun s => s.toList == cs
  let finite (cs : List Char) : Option Double := (Double.ofText? cs).filter Double.isFinite
  match cs with
  | '+' :: '+' :: _ => none
  | '+' :: '-' :: _ => none
  | '+' :: rest =>
    if isOneOf [".inf", ".Inf", ".INF"] rest then some (Double.infinity false) else finite rest
  | _ =>
    if isOneOf [".inf", ".Inf", ".INF"] cs then some (Double.infinity false)
    else if isOneOf ["-.inf", "-.Inf", "-.INF"] cs then some (Double.infinity true)
    else if isOneOf [".nan", ".NaN", ".NAN"] cs then some Double.nan
    else finite cs

/-- A whole number as data. It has to fit into sixty-four bits; `some none` is one that does not
but would into a hundred and twenty-eight, and is refused. -/
def intData? (cs : List Char) : Option (Option Json) :=
  match intOf? cs with
  | none => none
  | some n =>
    if -(2 ^ 63) ≤ n ∧ n < 2 ^ 64 then some (some (Json.int n))
    else if -(2 ^ 127) ≤ n ∧ n < 2 ^ 128 then some none
    else none

def textData (cs : List Char) : Json :=
  .str (String.ofList cs)

/-- What a plain scalar means; `none` for a number that is too large. -/
def plainData? (cs : List Char) : Option Json :=
  if cs.isEmpty || isNullText cs then some .null
  else
    match boolOf? cs with
    | some b => some (.bool b)
    | none =>
      match intData? cs with
      | some v => v
      | none =>
        match (if isPadded cs then none else floatOf? cs) with
        | some x => some (Json.ofDouble x)
        | none => some (textData cs)

/-! ## Tags -/

def isLocal (tag : Option (List Char)) : Bool :=
  match tag with
  | some ('!' :: _) => true
  | _ => false

/-- What a scalar means under a tag that is not its own. -/
def taggedData? (tag : List Char) (cs : List Char) : Option Json :=
  if tag = coreTag "bool" then (boolOf? cs).map .bool
  else if tag = coreTag "int" then (intData? cs).bind id
  else if tag = coreTag "float" then (floatOf? cs).map Json.ofDouble
  else if tag = coreTag "null" then (if isNullText cs then some .null else none)
  else some (textData cs)

def scalarData? (tag : Option (List Char)) (cs : List Char) (style : ScalarStyle) : Option Json :=
  if isLocal tag then none
  else
    match tag with
    | some t => taggedData? t cs
    | none => if style = .plain then plainData? cs else some (textData cs)

/-! ## Documents -/

structure Document where
  root : Node
  anchored : List (Nat × Node)
  /-- How many aliases may be followed. -/
  limit : Nat

namespace Document

def ofRoot (root : Node) : Document :=
  { root := root, anchored := root.anchored, limit := 100 * root.size }

/-- Reading a document: it may fail, and counts the aliases that it follows. -/
abbrev Reading (α : Type) := StateT Nat Option α

def fail {α : Type} : Reading α := fun _ => none

def ofOption {α : Type} (o : Option α) : Reading α := fun n => o.map fun a => (a, n)

/-- The node that is meant: itself, or what an alias stands for. -/
def follow (d : Document) : Node → Reading Node
  | .reference i => fun n =>
    if d.limit ≤ n then none
    else ((d.anchored.reverse.lookup i).map fun node => (node, n + 1))
  | node => pure node

/-- Nesting of collections. -/
def maxDepth : Nat := 128

/-- The text of a scalar, which is all that a key needs. -/
def text (d : Document) (node : Node) : Reading String := do
  match ← d.follow node with
  | .scalar _ _ cs _ => return String.ofList cs
  | _ => fail

def values (value : Node → Reading Json) : List Node → Reading (List Json)
  | [] => return []
  | n :: ns => do
    let v ← value n
    return v :: (← values value ns)

/-- Members of a mapping onto those before; of two with one name the later one counts. -/
def members (d : Document) (value : Node → Reading Json) :
    List (Node × Node) → Members → Reading Members
  | [], ms => return ms
  | (k, v) :: rest, ms => do
    let key ← d.text k
    let item ← value v
    d.members value rest (Members.insert key item ms)

/-- The data of a node with so many levels of collections left. -/
def data (d : Document) : Nat → Node → Reading Json
  | 0, node => do
    match ← d.follow node with
    | .scalar _ tag cs style => ofOption (scalarData? tag cs style)
    | _ => fail
  | levels + 1, node => do
    match ← d.follow node with
    | .scalar _ tag cs style => ofOption (scalarData? tag cs style)
    | .sequence _ tag items =>
      if isLocal tag then fail
      else return .arr (← values (d.data levels) items)
    | .mapping _ tag entries =>
      if isLocal tag then fail
      else return .obj (← d.members (d.data levels) entries [])
    | _ => fail

/-- The data of the whole document. -/
def toJson? (d : Document) : Option Json :=
  ((d.data maxDepth d.root).run 0).map (·.1)

end Document

/-- The document in a text, if there is one; `none` where the text is not in order or holds more
than one document. -/
def document? (text : String) : Option (Option Document) :=
  match documents? text.toList with
  | some [] => some none
  | some [root] => some (some (.ofRoot root))
  | _ => none

/-- Read a text as data; a text without a document is `null`. -/
def parse? (text : String) : Option Json :=
  match document? text with
  | none => none
  | some none => some .null
  | some (some d) => d.toJson?

end Scaffold.Yaml

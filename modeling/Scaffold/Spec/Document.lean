import Scaffold.Spec.Shape

/-!
# Document trees

The documents of a spec form a tree of directories and files whose names and contents are
templates. A raw tree carries a type code in every node and a code for what a file expands
over; `DocNode.ofRaw` turns it into directories and files, or names the first node in document
order whose code means nothing.
-/

namespace Scaffold

/-- What a file node expands over. -/
inductive DataSource where
  | none
  | interface
  | dataType
  | template
  | webView
  | handlebarHelper
deriving DecidableEq, Inhabited

namespace DataSource

def ofCode? (code : Int) : Option DataSource :=
  if code = 0 then some none
  else if code = 1 then some interface
  else if code = 2 then some dataType
  else if code = 3 then some template
  else if code = 4 then some webView
  else if code = 5 then some handlebarHelper
  else Option.none

/-- The name under which the current entity is seen while this source expands. -/
def bindingKey? : DataSource → Option String
  | interface => some "interface"
  | dataType => some "datatype"
  | template => some "template"
  | webView => some "view"
  | none => Option.none
  | handlebarHelper => Option.none

def name : DataSource → String
  | none => "None"
  | interface => "Interface"
  | dataType => "DataType"
  | template => "Template"
  | webView => "WebView"
  | handlebarHelper => "HandlebarHelper"

end DataSource

/-- A file node. Its content is template text, or the address of an asset that is not text. -/
structure DocFile where
  id : Int
  name : String
  mime : Option String
  dataSource : DataSource
  content : String
deriving DecidableEq, Inhabited

inductive DocNode where
  | directory (id : Int) (name : String) (children : List DocNode)
  | file (file : DocFile)
deriving Inhabited

/-- Whether `text/` stands at the front with at least one more character on its line. -/
def startsAsText (mime : List Char) : Bool :=
  match mime with
  | 't' :: 'e' :: 'x' :: 't' :: '/' :: c :: _ => c != '\n'
  | _ => false

/-- Whether `application/json` stands at the end. -/
def endsAsJson (mime : List Char) : Bool :=
  "application/json".toList.isSuffixOf mime

namespace DocFile

/-- Text files are rendered, all others are fetched; without a type a file is text. -/
def isTextMime (mime : Option String) : Bool :=
  match mime with
  | some m => startsAsText m.toList || endsAsJson m.toList
  | none => true

def isText (f : DocFile) : Bool :=
  isTextMime f.mime

end DocFile

/-- A node as it is found in an export. -/
structure RawNode where
  id : Int
  kind : Int
  name : String
  mime : Option String
  dataSource : Option Int
  content : Option String
  children : List RawNode
deriving Inhabited

namespace RawNode

def blank : RawNode :=
  { id := 0, kind := 0, name := "", mime := none, dataSource := none, content := none,
    children := [] }

def fileCode : Int := 0

def directoryCode : Int := 1

open Decoder in
/-- Set the scalar member of a name; other names are passed over. -/
def setScalar (n : RawNode) (key : String) (v : Json) : Except ShapeError RawNode :=
  if key = "id" then do let x ← integer v; return { n with id := x }
  else if key = "type" then do let x ← integer v; return { n with kind := x }
  else if key = "name" then do let x ← text v; return { n with name := x }
  else if key = "mime" then do let x ← optional text v; return { n with mime := x }
  else if key = "dataSource" then do
    let x ← optional integer v
    return { n with dataSource := x }
  else if key = "content" then do let x ← optional text v; return { n with content := x }
  else return n

/-- The members of a node in the order in which an array lists them. -/
def positions : List String :=
  ["id", "type", "name", "mime", "dataSource", "content", "children"]

mutual

def decode : Decoder RawNode
  | .obj ms => decodeMembers blank ms
  | .arr xs => decodeItems xs.length blank positions xs
  | v => .error (.wrongType v "struct RawDocNode")

def decodeMembers (n : RawNode) : List (String × Json) → Except ShapeError RawNode
  | [] => .ok n
  | (key, v) :: rest =>
    match decodeMember n key v with
    | .ok n => decodeMembers n rest
    | .error e => .error e

def decodeItems (count : Nat) (n : RawNode) (keys : List String) :
    List Json → Except ShapeError RawNode
  | [] => .ok n
  | v :: rest =>
    match keys with
    | [] => .error (.tooManyItems count)
    | key :: keys =>
      match decodeMember n key v with
      | .ok n => decodeItems count n keys rest
      | .error e => .error e

def decodeMember (n : RawNode) (key : String) : Json → Except ShapeError RawNode
  | .arr xs =>
    if key = "children" then
      match decodeAll xs with
      | .ok children => .ok { n with children := children }
      | .error e => .error e
    else n.setScalar key (.arr xs)
  | v =>
    if key = "children" then .error (.wrongType v "a sequence") else n.setScalar key v

def decodeAll : List Json → Except ShapeError (List RawNode)
  | [] => .ok []
  | v :: rest =>
    match decode v with
    | .error e => .error e
    | .ok n =>
      match decodeAll rest with
      | .error e => .error e
      | .ok ns => .ok (n :: ns)

end

end RawNode

/-- Why a raw tree is not a document tree. -/
inductive DocError where
  | unknownKind (id code : Int)
  | unknownSource (id code : Int)
deriving DecidableEq

namespace DocNode

mutual

def ofRaw : RawNode → Except DocError DocNode
  | ⟨id, kind, name, mime, dataSource, content, children⟩ =>
    if kind = RawNode.directoryCode then
      match ofRawAll children with
      | .ok cs => .ok (directory id name cs)
      | .error e => .error e
    else if kind = RawNode.fileCode then
      let code := dataSource.getD 0
      match DataSource.ofCode? code with
      | some source =>
        .ok (file { id, name, mime, dataSource := source, content := content.getD "" })
      | none => .error (.unknownSource id code)
    else .error (.unknownKind id kind)

/-- The nodes in turn; the first faulty one decides. -/
def ofRawAll : List RawNode → Except DocError (List DocNode)
  | [] => .ok []
  | n :: ns =>
    match ofRaw n with
    | .error e => .error e
    | .ok d =>
      match ofRawAll ns with
      | .error e => .error e
      | .ok ds => .ok (d :: ds)

end

end DocNode

end Scaffold

import Scaffold.Spec.Document
import Scaffold.Spec.Entity
import Scaffold.Text.Case

/-!
# Exports

An export is one JSON value that holds a whole project. `Spec.ofExport` turns it into typed
entities: the documents of its first spec, the data types with their fields looked up in the
catalog, and the interfaces with their methods in capitals.
-/

namespace Scaffold

/-- Why an export is not a spec. -/
inductive SpecError where
  | malformed (cause : ShapeError)
  | missingSpec
  | document (cause : DocError)

namespace SpecError

def message : SpecError → String
  | malformed e => "malformed spec export: " ++ e.message
  | missingSpec => "spec export contains no document spec"
  | document (.unknownKind id code) =>
    "document node " ++ String.ofList (Number.intDigits id) ++ " has unknown type code " ++
      String.ofList (Number.intDigits code)
  | document (.unknownSource id code) =>
    "document node " ++ String.ofList (Number.intDigits id) ++ " has unknown data source code " ++
      String.ofList (Number.intDigits code)

end SpecError

/-- One of the specs of an export. -/
structure RawSpec where
  info : SpecInfo := {}
  docs : List RawNode := []

namespace RawSpec

open Decoder in
def decode : Decoder RawSpec
  | .obj ms => do
    let docs ← member (list RawNode.decode) "docs" [] ms
    let info ← member SpecInfo.decode "spec" {} ms
    return { info, docs }
  | .arr xs => do
    let info ← item SpecInfo.decode 0 {} xs
    let docs ← item (list RawNode.decode) 1 [] xs
    atMost 2 xs
    return { info, docs }
  | v => .error (.wrongType v "struct RawSpec")

end RawSpec

structure RawExport where
  project : Json
  specs : List RawSpec
  interfaces : List Interface
  datatypes : List DataType
  templates : List PageTemplate
  pages : List Page
  constraints : Json

namespace RawExport

open Decoder in
def decode : Decoder RawExport
  | .obj ms => do
    let constraints ← member any "constraints" .null ms
    let datatypes ← member (list DataType.decode) "datatypes" [] ms
    let interfaces ← member (list Interface.decode) "interfaces" [] ms
    let pages ← member (list Page.decode) "pages" [] ms
    let project ← member any "project" .null ms
    let specs ← member (list RawSpec.decode) "specs" [] ms
    let templates ← member (list PageTemplate.decode) "templates" [] ms
    return { project, specs, interfaces, datatypes, templates, pages, constraints }
  | .arr xs => do
    let project ← item any 0 .null xs
    let specs ← item (list RawSpec.decode) 1 [] xs
    let interfaces ← item (list Interface.decode) 2 [] xs
    let datatypes ← item (list DataType.decode) 3 [] xs
    let templates ← item (list PageTemplate.decode) 4 [] xs
    let pages ← item (list Page.decode) 5 [] xs
    let constraints ← item any 6 .null xs
    atMost 7 xs
    return { project, specs, interfaces, datatypes, templates, pages, constraints }
  | v => .error (.wrongType v "struct RawExport")

end RawExport

/-- A catalog of data types as it is searched: of several with one number the last counts. -/
def lastWithId? (catalog : List DataType) (id : Int) : Option DataType :=
  catalog.reverse.find? fun d => d.id == id

namespace Field

/-- The field of a parameter; a type number that the catalog knows wins over a written name. -/
def ofParam (catalog : List DataType) (p : Param) : Field :=
  let found := p.typeId.bind (lastWithId? catalog)
  { name := p.name
    typeName := match found with
      | some d => d.name
      | none => p.typeName.getD ""
    format := found.map (·.format)
    itemIsArray := p.isArray
    arrDim := if p.isArray then 1 else 0
    description := p.description }

end Field

/-- A project as generation runs against it. -/
structure Spec where
  project : Json := .null
  info : SpecInfo := {}
  docs : List DocNode := []
  interfaces : List Interface := []
  /-- User data types, which data type nodes expand over. -/
  datatypes : List DataType := []
  /-- Every data type, the ones of the system included. -/
  typeCatalog : List DataType := []
  datatypeEnums : List DataType := []
  templates : List PageTemplate := []
  pages : List Page := []
  constraints : Json := .null
  /-- The export as it was loaded. -/
  raw : Json := .null
deriving Inhabited

namespace DataType

def withFields (catalog : List DataType) (d : DataType) : DataType :=
  { d with fields := d.params.map (Field.ofParam catalog) }

/-- User types have the code 0. -/
def isUser (d : DataType) : Bool :=
  d.kind == 0

end DataType

namespace Interface

def withUpperMethod (i : Interface) : Interface :=
  { i with method := String.ofList (Text.upper i.method.toList) }

end Interface

namespace Spec

def ofParts (raw : Json) (export_ : RawExport) (info : SpecInfo) (docs : List DocNode) : Spec :=
  let catalog := export_.datatypes.map (DataType.withFields export_.datatypes)
  let users := catalog.filter DataType.isUser
  { project := export_.project
    info := info
    docs := docs
    interfaces := export_.interfaces.map Interface.withUpperMethod
    datatypes := users
    typeCatalog := catalog
    datatypeEnums := users.filter DataType.isEnum
    templates := export_.templates
    pages := export_.pages
    constraints := export_.constraints
    raw := raw }

def ofExport (raw : Json) : Except SpecError Spec :=
  match RawExport.decode raw with
  | .error e => .error (.malformed e)
  | .ok export_ =>
    match export_.specs with
    | [] => .error .missingSpec
    | first :: _ =>
      match DocNode.ofRawAll first.docs with
      | .error e => .error (.document e)
      | .ok docs => .ok (ofParts raw export_ first.info docs)

end Spec

end Scaffold

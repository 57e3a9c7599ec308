import Scaffold.Spec.Shape

/-!
# Domain entities

What a project consists of besides its documents: interfaces with their parameters, data types,
page templates, pages and the spec's own attributes. Every entity keeps the members it does not
know in `extra`; when it is written back, these come last and win over a known member of the
same name. Each entity has its reader beside its writer.
-/

namespace Scaffold

namespace Format

/-! Codes for the formats of data types. -/

def hash : Int := 0
def enumeration : Int := 1
def array : Int := 2
def string : Int := 3
def number : Int := 4
def boolean : Int := 5
def file : Int := 6

end Format

def encodeList {α : Type} (f : α → Json) (xs : List α) : Json :=
  .arr (xs.map f)

/-- A member that is left out when absent. -/
def Members.insertSome (key : String) (value : Option Json) (ms : Members) : Members :=
  match value with
  | some v => ms.insert key v
  | none => ms

/-- A parameter of an interface or a member of a data type. -/
structure Param where
  name : String := ""
  /-- Number of the data type referred to. -/
  typeId : Option Int := none
  typeName : Option String := none
  isArray : Bool := false
  defaultValue : Option Json := none
  description : String := ""
  extra : Members := []
deriving BEq, Inhabited

namespace Param

def declared : List String :=
  ["name", "type", "typeName", "isArray", "defaultValue", "description"]

open Decoder in
def decode : Decoder Param
  | .obj ms => do
    let defaultValue ← member (optional any) "defaultValue" none ms
    let description ← member text "description" "" ms
    let isArray := (Members.find? "isArray" ms).elim false flag
    let name ← member text "name" "" ms
    let typeId ← member (optional integer) "type" none ms
    let typeName ← member (optional text) "typeName" none ms
    return { name, typeId, typeName, isArray, defaultValue, description,
             extra := Members.undeclared declared ms }
  | v => .error (.wrongType v "struct Param")

def encode (p : Param) : Json :=
  .obj (Members.insertAll
    ((((Members.ofList [("name", .str p.name), ("isArray", .bool p.isArray),
        ("description", .str p.description)]).insertSome "type" (p.typeId.map Json.int)
      ).insertSome "typeName" (p.typeName.map Json.str)
      ).insertSome "defaultValue" p.defaultValue)
    p.extra)

end Param

structure InterfaceParams where
  inputs : List Param := []
  outputs : List Param := []
deriving BEq, Inhabited

namespace InterfaceParams

open Decoder in
def decode : Decoder InterfaceParams
  | .obj ms => do
    let inputs ← member (list Param.decode) "inputs" [] ms
    let outputs ← member (list Param.decode) "outputs" [] ms
    return { inputs, outputs }
  | .arr xs => do
    let inputs ← item (list Param.decode) 0 [] xs
    let outputs ← item (list Param.decode) 1 [] xs
    atMost 2 xs
    return { inputs, outputs }
  | v => .error (.wrongType v "struct InterfaceParams")

def encode (p : InterfaceParams) : Json :=
  Json.object [("inputs", encodeList Param.encode p.inputs),
    ("outputs", encodeList Param.encode p.outputs)]

end InterfaceParams

structure Interface where
  id : Int := 0
  name : String := ""
  method : String := ""
  path : String := ""
  description : String := ""
  /-- Format code of the response. -/
  resFormat : Int := 0
  params : InterfaceParams := {}
  /-- Script that works on the synthesized payload. -/
  afterScript : Option String := none
  extra : Members := []
deriving BEq, Inhabited

namespace Interface

def declared : List String :=
  ["id", "name", "method", "path", "description", "resFormat", "params", "afterScript"]

open Decoder in
def decode : Decoder Interface
  | .obj ms => do
    let afterScript ← member (optional text) "afterScript" none ms
    let description ← member text "description" "" ms
    let id ← member integer "id" 0 ms
    let method ← member text "method" "" ms
    let name ← member text "name" "" ms
    let params ← member InterfaceParams.decode "params" {} ms
    let path ← member text "path" "" ms
    let resFormat ← member integer "resFormat" 0 ms
    return { id, name, method, path, description, resFormat, params, afterScript,
             extra := Members.undeclared declared ms }
  | v => .error (.wrongType v "struct Interface")

def encode (i : Interface) : Json :=
  .obj (Members.insertAll
    ((Members.ofList [
      ("id", .int i.id), ("name", .str i.name), ("method", .str i.method), ("path", .str i.path),
      ("description", .str i.description), ("resFormat", .int i.resFormat),
      ("params", i.params.encode)]).insertSome "afterScript" (i.afterScript.map Json.str))
    i.extra)

end Interface

/-- A member of a data type with its type looked up in the catalog. -/
structure Field where
  name : String
  typeName : String
  format : Option Int
  itemIsArray : Bool
  arrDim : Nat
  description : String
deriving BEq, DecidableEq, Inhabited

namespace Field

def encode (f : Field) : Json :=
  .obj ((Members.ofList [
    ("name", .str f.name), ("type", .str f.typeName), ("itemIsArray", .bool f.itemIsArray),
    ("arrDim", .int f.arrDim), ("description", .str f.description)]).insertSome "format"
      (f.format.map Json.int))

end Field

structure DataType where
  id : Int := 0
  name : String := ""
  format : Int := 0
  /-- 0 for user types; system and anonymous types have other codes. -/
  kind : Int := 0
  description : String := ""
  params : List Param := []
  fields : List Field := []
  extra : Members := []
deriving BEq, Inhabited

namespace DataType

def declared : List String :=
  ["id", "name", "format", "type", "description", "params"]

open Decoder in
/-- The fields are not read; they are derived from the parameters. -/
def decode : Decoder DataType
  | .obj ms => do
    let description ← member text "description" "" ms
    let format ← member integer "format" 0 ms
    let id ← member integer "id" 0 ms
    let name ← member text "name" "" ms
    let params ← member (list Param.decode) "params" [] ms
    let kind ← member integer "type" 0 ms
    return { id, name, format, kind, description, params, extra := Members.undeclared declared ms }
  | v => .error (.wrongType v "struct DataType")

def encode (d : DataType) : Json :=
  .obj (Members.insertAll (Members.ofList [
    ("id", .int d.id), ("name", .str d.name), ("format", .int d.format), ("type", .int d.kind),
    ("description", .str d.description), ("params", encodeList Param.encode d.params),
    ("fields", encodeList Field.encode d.fields)]) d.extra)

def isEnum (d : DataType) : Bool :=
  d.format == Format.enumeration

end DataType

structure PageTemplate where
  id : Int := 0
  name : String := ""
  path : String := ""
  description : String := ""
  params : List Param := []
  extra : Members := []
deriving BEq, Inhabited

namespace PageTemplate

def declared : List String :=
  ["id", "name", "path", "description", "params"]

open Decoder in
def decode : Decoder PageTemplate
  | .obj ms => do
    let description ← member text "description" "" ms
    let id ← member integer "id" 0 ms
    let name ← member text "name" "" ms
    let params ← member (list Param.decode) "params" [] ms
    let path ← member text "path" "" ms
    return { id, name, path, description, params, extra := Members.undeclared declared ms }
  | v => .error (.wrongType v "struct Template")

def encode (t : PageTemplate) : Json :=
  .obj (Members.insertAll (Members.ofList [
    ("id", .int t.id), ("name", .str t.name), ("path", .str t.path),
    ("description", .str t.description), ("params", encodeList Param.encode t.params)]) t.extra)

end PageTemplate

structure Page where
  id : Int := 0
  name : String := ""
  path : String := ""
  description : String := ""
  templates : List PageTemplate := []
  extra : Members := []
deriving BEq, Inhabited

namespace Page

def declared : List String :=
  ["id", "name", "path", "description", "templates"]

open Decoder in
def decode : Decoder Page
  | .obj ms => do
    let description ← member text "description" "" ms
    let id ← member integer "id" 0 ms
    let name ← member text "name" "" ms
    let path ← member text "path" "" ms
    let templates ← member (list PageTemplate.decode) "templates" [] ms
    return { id, name, path, description, templates, extra := Members.undeclared declared ms }
  | v => .error (.wrongType v "struct Page")

def encode (p : Page) : Json :=
  .obj (Members.insertAll (Members.ofList [
    ("id", .int p.id), ("name", .str p.name), ("path", .str p.path),
    ("description", .str p.description),
    ("templates", encodeList PageTemplate.encode p.templates)]) p.extra)

end Page

/-- Numbers of the directories with a role of their own. -/
structure SpecAttributes where
  webRoot : Option Int := none
  viewRoot : Option Int := none
  mockApiRoot : Option Int := none
  mockViewRoot : Option Int := none
deriving BEq, DecidableEq, Inhabited

namespace SpecAttributes

open Decoder in
def decode : Decoder SpecAttributes
  | .obj ms => do
    let mockApiRoot ← member (optional integer) "mockApiRoot" none ms
    let mockViewRoot ← member (optional integer) "mockViewRoot" none ms
    let viewRoot ← member (optional integer) "viewRoot" none ms
    let webRoot ← member (optional integer) "webRoot" none ms
    return { webRoot, viewRoot, mockApiRoot, mockViewRoot }
  | .arr xs => do
    let webRoot ← item (optional integer) 0 none xs
    let viewRoot ← item (optional integer) 1 none xs
    let mockApiRoot ← item (optional integer) 2 none xs
    let mockViewRoot ← item (optional integer) 3 none xs
    atMost 4 xs
    return { webRoot, viewRoot, mockApiRoot, mockViewRoot }
  | v => .error (.wrongType v "struct SpecAttributes")

def encodeId (n : Option Int) : Json :=
  n.elim .null Json.int

def encode (a : SpecAttributes) : Json :=
  Json.object [("webRoot", encodeId a.webRoot), ("viewRoot", encodeId a.viewRoot),
    ("mockApiRoot", encodeId a.mockApiRoot), ("mockViewRoot", encodeId a.mockViewRoot)]

end SpecAttributes

structure SpecInfo where
  name : String := ""
  engine : Option Json := none
  viewExt : Option String := none
  attributes : Option SpecAttributes := none
  extra : Members := []
deriving BEq, Inhabited

namespace SpecInfo

def declared : List String :=
  ["name", "engine", "viewExt", "attributes"]

open Decoder in
def decode : Decoder SpecInfo
  | .obj ms => do
    let attributes ← member (optional SpecAttributes.decode) "attributes" none ms
    let engine ← member (optional any) "engine" none ms
    let name ← member text "name" "" ms
    let viewExt ← member (optional text) "viewExt" none ms
    return { name, engine, viewExt, attributes, extra := Members.undeclared declared ms }
  | v => .error (.wrongType v "struct SpecInfo")

def encode (s : SpecInfo) : Json :=
  .obj (Members.insertAll
    ((Members.ofList [("name", .str s.name), ("engine", s.engine.getD .null),
      ("viewExt", Json.ofText? s.viewExt)]).insertSome "attributes"
        (s.attributes.map SpecAttributes.encode))
    s.extra)

end SpecInfo

end Scaffold

import Scaffold.Json.Printer
import Scaffold.Mock.Location
import Scaffold.Spec.Entity

/-!
# Routing rules

A mock server routes addresses to payloads and pages to the templates they show. Rules are
matched first to last, so they are put in descending order of their addresses: of two addresses
one of which begins with the other, the longer one comes first.
-/

namespace Scaffold

/-- Route from an interface to its payload. -/
structure MockRule where
  id : Int
  path : String
  /-- The place of the payload without its ending, seen from the root of mock data. -/
  mockFile : String
  method : String
deriving DecidableEq, Inhabited

/-- Route from a page to its templates. -/
structure ViewRule where
  method : String
  path : String
  /-- A JSON array of the templates' numbers and places, as text. -/
  list : String
  name : String
deriving DecidableEq, Inhabited

namespace MockRule

def encode (r : MockRule) : Json :=
  Json.object
    [("id", Json.int r.id), ("path", .str r.path), ("mockFile", .str r.mockFile),
     ("method", .str r.method)]

end MockRule

namespace ViewRule

def encode (r : ViewRule) : Json :=
  Json.object
    [("method", .str r.method), ("path", .str r.path), ("list", .str r.list),
     ("name", .str r.name)]

def entry (t : PageTemplate) : Json :=
  Json.object [("id", Json.int t.id), ("path", .str (Mock.stripExtension t.path))]

/-- Whether a page has a rule. -/
def applies (p : Page) : Bool :=
  p.path ≠ "" && !p.templates.isEmpty

def ofPage (p : Page) : ViewRule :=
  { method := "GET"
    path := p.path
    list := (Json.arr (p.templates.map entry)).compact
    name := p.name }

/-- One rule for each page that has a path and templates. -/
def ofPages (pages : List Page) : List ViewRule :=
  (pages.filter applies).map ofPage

end ViewRule

inductive ServerRule where
  | view (rule : ViewRule)
  | mock (rule : MockRule)
deriving DecidableEq, Inhabited

namespace ServerRule

def path : ServerRule → String
  | view r => r.path
  | mock r => r.path

def encode : ServerRule → Json
  | view r => r.encode
  | mock r => r.encode

/-- Whether a rule may stand before another one. -/
def before (a b : ServerRule) : Bool :=
  decide (b.path ≤ a.path)

/-- All rules in descending order of their paths; rules of one path keep their order, those of
pages first. -/
def sorted (views : List ViewRule) (mocks : List MockRule) : List ServerRule :=
  (views.map view ++ mocks.map mock).mergeSort before

end ServerRule

end Scaffold

import Scaffold.Json.Printer
import Scaffold.Mock.AfterScript
import Scaffold.Mock.Rules
import Scaffold.Output.Writer
import Scaffold.Path.Rendered

/-!
# Mock data files

Every interface has a payload and a filter beside it, and a rule that leads to them; so has
every template that some page shows, without a rule. Problems with a payload are told and stop
nothing.
-/

namespace Scaffold

/-- Where payloads come from. -/
structure MockProvider where
  synthesize : (constraints : Json) → (resFormat : Int) → List Param → List DataType → MockData
  /-- Work over a payload with an interface's script. -/
  applyScript : (constraints json : Json) → Interface → MockData

namespace MockProvider

/-- Example values of the parameters' types. -/
def ofTypes (depth : Nat) : MockProvider :=
  { synthesize := fun _ resFormat params catalog =>
      Mock.synthesize depth resFormat params catalog
    applyScript := Mock.applyScript }

end MockProvider

namespace Mock

/-- The filter that lets every payload through. -/
def defaultFilter : String :=
  "module.exports = function (json) \x7b\n\treturn json;\n\x7d"

/-- What mock files are written with. -/
structure Setup (m : Type → Type) where
  host : Host m
  overwrite : Bool
  provider : MockProvider

variable {m : Type → Type} [Monad m]

/-- Tell what scripts printed and which problems there were. -/
def tell (host : Host m) (data : MockData) (subject : String) : m Unit := do
  host.logAll (data.printed.map LogEvent.printed)
  if !data.errors.isEmpty then
    host.log (.error "Mock data synthesis reported errors" [("subject", .str subject)])

def writeOne (w : Setup m) (path : Path) (content : String) (r : Report) : m Report := do
  if ← w.host.ensureParent path then
    let result ← w.host.writeOutput w.overwrite path content
    w.host.recordWrite r path result
  else
    w.host.log (.error "Failed to create mock directory" [("path", .str path.shown)])
    return r.fail

def payloadText (json : Json) : String :=
  Json.pretty "    " json

/-- Write a payload and its filter. -/
def writePair (w : Setup m) (stem : Path) (json : Json) (r : Report) : m Report := do
  let r ← writeOne w (stem.appendText ".json") (payloadText json) r
  writeOne w (stem.appendText ".js") defaultFilter r

/-! ## Interfaces -/

def methodName (i : Interface) : List Char :=
  Text.lower i.method.toList

def mockFile (i : Interface) : String :=
  String.ofList (methodName i) ++ "/" ++ dataPath i.path

def ruleOf (i : Interface) : MockRule :=
  { id := i.id
    path := i.path
    mockFile := mockFile i
    method := String.ofList (Text.upper (methodName i)) }

/-- The payload of an interface, with problems told. -/
def interfacePayload (w : Setup m) (s : Spec) (i : Interface) : m Json := do
  let data := w.provider.synthesize s.constraints i.resFormat i.params.outputs s.typeCatalog
  tell w.host data i.name
  let data := w.provider.applyScript s.constraints data.json i
  tell w.host data i.name
  return data.json

/-- Write the mock files of interfaces in turn, and give their rules. -/
def writeInterfaces (w : Setup m) (s : Spec) (root : Path) :
    List Interface → Report → m (List MockRule × Report)
  | [], r => return ([], r)
  | i :: is, r => do
    let json ← interfacePayload w s i
    let r ← writePair w (root.joinRendered (mockFile i)) json r
    let (rules, r) ← writeInterfaces w s root is r
    return (ruleOf i :: rules, r)

/-! ## Templates -/

/-- Whether a page's reference means a template, with or without the extension of views. -/
def refersTo (viewExt : String) (used template : PageTemplate) : Bool :=
  used.path == template.path || template.path ++ "." ++ viewExt == used.path

def isShown (s : Spec) (t : PageTemplate) : Bool :=
  s.pages.any fun p => p.templates.any fun used => refersTo (s.info.viewExt.getD "") used t

/-- Put a text under a name, unless something that is no empty text stands there. -/
def defaultText (key fallback : String) (ms : Members) : Members :=
  match Members.find? key ms with
  | none => ms.insert key (.str fallback)
  | some .null => ms.insert key (.str fallback)
  | some (.str s) => if s = "" then ms.insert key (.str fallback) else ms
  | some _ => ms

/-- The payload of a template, with its name and description where it has none of its own. -/
def withTexts (t : PageTemplate) : Json → Json
  | .obj ms => .obj (defaultText "description" t.description (defaultText "title" t.name ms))
  | v => v

def templatePayload (w : Setup m) (s : Spec) (t : PageTemplate) : m Json := do
  if t.params.isEmpty then return withTexts t (.obj [])
  else
    let data := w.provider.synthesize s.constraints Format.hash t.params s.typeCatalog
    tell w.host data t.name
    return withTexts t data.json

/-- Write the mock files of the templates that pages show. -/
def writeTemplates (w : Setup m) (s : Spec) (root : Path) :
    List PageTemplate → Report → m Report
  | [], r => return r
  | t :: ts, r => do
    if isShown s t then
      let json ← templatePayload w s t
      let r ← writePair w (root.joinRendered (stripExtension t.path)) json r
      writeTemplates w s root ts r
    else writeTemplates w s root ts r

/-- Write all mock files that have a root, and give the rules of interfaces. -/
def writeAll (w : Setup m) (s : Spec) (apiRoot viewRoot : Option Path) :
    m (List MockRule × Report) := do
  let (rules, r) ← match apiRoot with
    | some root => writeInterfaces w s root s.interfaces {}
    | none => pure ([], {})
  match viewRoot with
  | some root => return (rules, ← writeTemplates w s root s.templates r)
  | none => return (rules, r)

end Mock

end Scaffold

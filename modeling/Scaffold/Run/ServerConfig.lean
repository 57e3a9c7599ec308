import Scaffold.Json.Parser
import Scaffold.Json.Printer
import Scaffold.Mock.Rules
import Scaffold.Output.Roots
import Scaffold.Output.Writer
import Scaffold.Run.Config

/-!
# Server configuration

What a mock server is configured with. Settings that a user may have changed are taken over from
an existing configuration by updates; everything else is made anew.
-/

namespace Scaffold.ServerConfig

def engineFile : Path := .ofString "stubsmith.json"

def serverFile : Path := .ofString "server.config.json"

/-- Settings that updates take over. -/
def preserved : List String :=
  ["launch", "port", "online", "fmpp", "apiResHeaders"]

def defaultPort : Int := 8002

def pathValue : Option Path → Json
  | some p => .str p.text
  | none => .null

/-- The configuration without anything taken over. -/
def fresh (c : RunConfig) (roots : StructuralRoots) (info : SpecInfo) (rules : List ServerRule) :
    Members :=
  Members.ofList
    [("outputRoot", .str c.outputRoot.text),
     ("webRoot", pathValue roots.webRoot),
     ("viewRoot", pathValue roots.viewRoot),
     ("mockApiRoot", pathValue roots.mockApiRoot),
     ("mockViewRoot", pathValue roots.mockViewRoot),
     ("engine", info.engine.getD .null),
     ("viewExt", Json.ofText? info.viewExt),
     ("rules", .arr (rules.map ServerRule.encode)),
     ("projectKey", Json.ofText? c.args.key),
     ("launch", .bool true),
     ("port", Json.int defaultPort),
     ("online", .bool false)]

/-- Take over the members of the given names. -/
def takeOver (existing : Members) : List String → Members → Members
  | [], ms => ms
  | key :: keys, ms =>
    takeOver existing keys (Members.insertSome key (Members.find? key existing) ms)

def encode (c : RunConfig) (roots : StructuralRoots) (info : SpecInfo) (rules : List ServerRule)
    (existing : Option Json) : Json :=
  let ms := fresh c roots info rules
  match c.args.action, existing.bind Json.members? with
  | .update, some old => .obj (takeOver old preserved ms)
  | _, _ => .obj ms

/-- The text of a configuration file. -/
def text (v : Json) : String :=
  Json.pretty "    " v ++ "\n"

/-- A configuration as it is read from a file's text; anything but an object is none. -/
def ofText? (content : String) : Option Json :=
  match Json.parse? content with
  | some (.obj ms) => some (.obj ms)
  | _ => none

/-- Read the configuration that is there, if any. -/
def readExisting {m : Type → Type} [Monad m] (host : Host m) (path : Path) :
    m (Option Json) := do
  match ← host.readText path with
  | none => return none
  | some content =>
    match ofText? content with
    | some v => return some v
    | none =>
      host.log (.debug "Existing server config unreadable, using defaults"
        [("path", .str path.shown)])
      return none

end Scaffold.ServerConfig

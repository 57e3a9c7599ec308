import Scaffold.Json.Parser
import Scaffold.Path
import Scaffold.Text.Case

/-!
# Run arguments

What a run is asked to do: generate a project or update one, for which platform, and with which
values for the templates, which see the arguments as one object.
-/

namespace Scaffold

inductive Action where
  | build
  | update
deriving DecidableEq, Inhabited

namespace Action

def name : Action → String
  | build => "build"
  | update => "update"

end Action

/-- The kind of project that is generated. -/
inductive Platform where
  | web
  | ios
  | android
  | other (name : String)
deriving DecidableEq, Inhabited

namespace Platform

/-- Known platforms are found without regard to case, all others keep their name. -/
def ofName (s : String) : Platform :=
  let lower := Text.lower s.toList
  if lower = "web".toList then web
  else if lower = "ios".toList then ios
  else if lower = "android".toList then android
  else other s

def name : Platform → String
  | web => "web"
  | ios => "ios"
  | android => "android"
  | other s => s

/-- Whether projects list their generated files one by one, so that directories of generated
files are purged and rebuilt on change. -/
def tracksGeneratedFiles : Platform → Bool
  | ios => true
  | _ => false

end Platform

structure RunArgs where
  action : Action
  /-- Its presence makes the run incremental. -/
  key : Option String := none
  /-- Whether an update regenerates plain documents too. -/
  spec : Bool := false
  specKey : Option String := none
  platform : Platform := .web
  overwrite : Bool := false
  pid : Option Int := none
  iosProjectPath : Option Path := none
  /-- Whether the project file is updated even when nothing changed. -/
  pbxForce : Bool := false
  /-- Further values for templates. -/
  extra : Members := []
deriving Inhabited

namespace RunArgs

def isBuild (a : RunArgs) : Bool :=
  a.action == .build

def isIncremental (a : RunArgs) : Bool :=
  a.key.isSome

/-- Whether documents that stand for no entity are regenerated. -/
def normalDocs (a : RunArgs) : Bool :=
  a.isBuild || (a.action == .update && a.spec)

/-- The members that are always there or stand for something. -/
def ownMembers (a : RunArgs) : List (String × Json) :=
  [("action", .str a.action.name)] ++
  a.key.toList.map (fun k => ("key", .str k)) ++
  [("spec", .bool a.spec)] ++
  a.specKey.toList.map (fun k => ("specKey", .str k)) ++
  [("specType", .str a.platform.name), ("overwrite", .bool a.overwrite)] ++
  a.pid.toList.map (fun n => ("pid", Json.int n)) ++
  a.iosProjectPath.toList.map (fun p => ("iosProjectPath", .str p.text)) ++
  [("pbxForce", .bool a.pbxForce)]

/-- The arguments as templates see them; further values win over members of their name. -/
def encode (a : RunArgs) : Json :=
  .obj (Members.insertAll (Members.ofList a.ownMembers) a.extra)

end RunArgs

/-- Why a text is no pair of name and value. -/
inductive ArgError where
  | noValue (raw : String)
  | emptyName (raw : String)
deriving DecidableEq

namespace ArgError

def message : ArgError → String
  | noValue raw => "expected name=value, got '" ++ raw ++ "'"
  | emptyName raw => "argument name is empty in '" ++ raw ++ "'"

end ArgError

/-- Read `name=value`. A value that is JSON keeps its type, any other is a string. -/
def argPair (raw : String) : Except ArgError (String × Json) :=
  match raw.toList.dropWhile (· ≠ '=') with
  | [] => .error (.noValue raw)
  | _ :: value =>
    let name := Text.trim (raw.toList.takeWhile (· ≠ '='))
    if name.isEmpty then .error (.emptyName raw)
    else
      let text := String.ofList value
      .ok (String.ofList name, (Json.parse? text).getD (.str text))

end Scaffold

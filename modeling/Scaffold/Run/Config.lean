import Scaffold.Run.Args

/-!
# Run configuration

Arguments with the places of a run, and the settings that supply defaults for both.
-/

namespace Scaffold

/-- Defaults from a settings file. -/
structure Settings where
  platform : Option String := none
  overwrite : Option Bool := none
  configRoot : Option Path := none
  pid : Option Int := none
  args : Members := []
deriving Inhabited

namespace RunArgs

/-- Fill in values of `more` under names that have none. -/
def fillExtra (extra : Members) : List (String × Json) → Members
  | [] => extra
  | (k, v) :: rest =>
    fillExtra (if Members.contains k extra then extra else Members.insert k v extra) rest

/-- Values that are already set win over settings. -/
def applySettings (a : RunArgs) (s : Settings) : RunArgs :=
  { a with
    platform :=
      if a.platform = .web then (s.platform.map Platform.ofName).getD a.platform else a.platform
    overwrite := a.overwrite || s.overwrite.getD false
    pid := a.pid.or s.pid
    extra := fillExtra a.extra s.args }

end RunArgs

structure RunConfig where
  args : RunArgs
  outputRoot : Path
  /-- Where the run's own configuration is kept. -/
  configRoot : Path
deriving Inhabited

namespace RunConfig

/-- The directory of a run's configuration below the output. -/
def defaultDir : Path := .ofString ".stubsmith"

def ofArgs (args : RunArgs) (outputRoot : Path) : RunConfig :=
  { args, outputRoot, configRoot := outputRoot.join defaultDir }

def withConfigRoot (c : RunConfig) (root : Path) : RunConfig :=
  { c with configRoot := root }

/-- The directory of the platform's project, below the output unless it is absolute. -/
def iosProjectDir (c : RunConfig) : Path :=
  match c.args.iosProjectPath with
  | some p => c.outputRoot.join p
  | none => c.outputRoot

/-- What a later update needs to find the project again. -/
def engineConfig (c : RunConfig) : Json :=
  let a := c.args
  Json.object [("args", Json.object (
    [("specType", .str a.platform.name)] ++
    a.pid.toList.map (fun n => ("pid", Json.int n)) ++
    a.key.toList.map (fun k => ("key", .str k)) ++
    a.specKey.toList.map (fun k => ("specKey", .str k)) ++
    a.iosProjectPath.toList.map (fun p => ("iosProjectPath", .str p.text))))]

end RunConfig

end Scaffold

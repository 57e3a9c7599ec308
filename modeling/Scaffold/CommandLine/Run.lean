import Scaffold.CommandLine.Invocation
import Scaffold.Run.Generate
import Scaffold.Run.Settings
import Scaffold.Spec.Load

/-!
# Running a command

A command loads its settings, the export, and the export of the run before, and generates the
project with mock data made from the data types. Updates of the platform's project are only told.
-/

namespace Scaffold.CommandLine

/-- Why a command stops. -/
inductive CommandError where
  | settings (cause : SettingsError)
  | load (cause : LoadError)
  | run (cause : RunError)

namespace CommandError

def message : CommandError → String
  | settings e => e.message
  | load e => e.message
  | run e => e.message

end CommandError

namespace Invocation

variable {m : Type → Type} [Monad m]

/-- The configuration of the run, by the settings in their file. -/
def loadConfig (i : Invocation) (host : Host m) : ExceptT SettingsError m RunConfig := do
  match i.settings with
  | none => return i.config {}
  | some path => return i.config (← Settings.load host path)

/-- What has changed since the run before, if its export is given. -/
def loadChange (i : Invocation) (host : Host m) (spec : Spec) : ExceptT LoadError m Change := do
  match i.previous with
  | none => return Change.since none spec
  | some path => return Change.since (some (← Spec.load host path)) spec

/-- Do what the command asks for. -/
def run (i : Invocation) (host : Host m) : ExceptT CommandError m RunReport := do
  let c ← (i.loadConfig host).adapt .settings
  host.log (.info "Loading export"
    [("input", .str i.input.shown), ("output", .str c.outputRoot.shown)])
  let spec ← (Spec.load host i.input).adapt .load
  let change ← (i.loadChange host spec).adapt .load
  let setup : RunSetup m :=
    { host := host.tellingUpdates, provider := MockProvider.ofTypes Mock.defaultDepth, change }
  (setup.run c spec).adapt .run

end Invocation

end Scaffold.CommandLine

import Scaffold.Host.Basic
import Scaffold.Json.Parser
import Scaffold.Spec.Export
import Scaffold.Yaml.Data

/-!
# Loading specs

A spec is loaded from a file that holds its export. The ending of the file's name tells how the
export is written: `yaml` and `yml` stand for YAML, everything else for JSON.
-/

namespace Scaffold

/-- Why a spec is not loaded. -/
inductive LoadError where
  | unreadable (path : Path)
  | badJson
  | badYaml
  | badExport (cause : SpecError)

namespace LoadError

def message : LoadError → String
  | unreadable p => "Failed to read spec export " ++ p.shown
  | badJson => "the spec export is not JSON"
  | badYaml => "the spec export is not YAML"
  | badExport e => e.message

end LoadError

/-- How the text of an export is written. -/
inductive ExportFormat where
  | json
  | yaml
deriving DecidableEq

namespace ExportFormat

def ofPath (p : Path) : ExportFormat :=
  match p.extension? with
  | some ['y', 'a', 'm', 'l'] => yaml
  | some ['y', 'm', 'l'] => yaml
  | _ => json

def parse (f : ExportFormat) (content : String) : Except LoadError Json :=
  match f with
  | json => (Json.parse? content).elim (.error .badJson) .ok
  | yaml => (Yaml.parse? content).elim (.error .badYaml) .ok

end ExportFormat

namespace Spec

/-- The spec in the text of an export. -/
def ofText (f : ExportFormat) (content : String) : Except LoadError Spec := do
  let v ← f.parse content
  (ofExport v).mapError .badExport

variable {m : Type → Type} [Monad m]

/-- Load the spec in a file. -/
def load (host : Host m) (path : Path) : ExceptT LoadError m Spec := do
  match ← host.readText path with
  | none => throw (.unreadable path)
  | some content => liftExcept (ofText (.ofPath path) content)
where
  liftExcept {α : Type} (x : Except LoadError α) : ExceptT LoadError m α := .mk (pure x)

end Spec

end Scaffold

import Scaffold.Run.Args
import Scaffold.Spec.Export

/-!
# What a run regenerates

A run is told which parts of a project have changed since an earlier one. Directories of
generated sources are purged only by incremental runs, only for platforms that track generated
files, and only after a change.
-/

namespace Scaffold

/-- Which parts of a project have changed. -/
structure Change where
  interfaces : Bool := false
  dataTypes : Bool := false
deriving DecidableEq, Inhabited

namespace Change

def all : Change := ⟨true, true⟩

def any (c : Change) : Bool :=
  c.interfaces || c.dataTypes

/-- Compare with an earlier state; without one everything counts as changed. -/
def since (previous : Option Spec) (spec : Spec) : Change :=
  match previous with
  | none => all
  | some old =>
    { interfaces := !(old.interfaces == spec.interfaces)
      dataTypes := !(old.typeCatalog == spec.typeCatalog) }

end Change

structure RegenerationPolicy where
  /-- Whether plain documents and assets are regenerated. -/
  normalDocs : Bool := false
  /-- Whether directories of generated sources are purged before their first expansion. -/
  purgeGenerated : Bool := false
deriving DecidableEq, Inhabited

namespace RegenerationPolicy

def ofArgs (args : RunArgs) (change : Change) : RegenerationPolicy :=
  { normalDocs := args.normalDocs
    purgeGenerated :=
      args.isIncremental && args.platform.tracksGeneratedFiles && change.any }

end RegenerationPolicy

end Scaffold

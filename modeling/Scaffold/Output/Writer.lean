import Scaffold.Host.Basic
import Scaffold.Output.Directive
import Scaffold.Output.Report

/-!
# Writing files

A file is written unless it is there already and is to be kept. The first marker in its path
says whether it is kept, and without one the run does.
-/

namespace Scaffold

namespace WriteDirective

/-- Whether a file that is there is overwritten. -/
def overwrites (directive : Option WriteDirective) (overwrite : Bool) : Bool :=
  match directive with
  | some .overwrite => true
  | some .keep => false
  | none => overwrite

end WriteDirective

namespace Host

variable {m : Type → Type} [Monad m]

/-- Write what a path means; `none` is a failure. -/
def writeTarget (host : Host m) (target : Path) (content : String) : m (Option WriteOutcome) := do
  if ← host.write target content then
    host.log (.debug "Wrote file" [("path", .str target.shown)])
    return some (.written target)
  else return none

/-- Write a file, unless it is kept. The directory it lies in has to exist. -/
def writeOutput (host : Host m) (overwrite : Bool) (path : Path) (content : String) :
    m (Option WriteOutcome) := do
  let (directive, target) := WriteDirective.resolve path
  if WriteDirective.overwrites directive overwrite then host.writeTarget target content
  else if ← host.pathExists target then
    host.log (.debug "File exists, not overwritten" [("path", .str target.shown)])
    return some (.keptExisting target)
  else host.writeTarget target content

/-- Write a file whether it is there or not. -/
def replaceOutput (host : Host m) (path : Path) (content : String) : m (Option WriteOutcome) :=
  host.writeTarget (WriteDirective.target path) content

/-- Create the directory that a path's file is to lie in. -/
def ensureParent (host : Host m) (path : Path) : m Bool :=
  match (WriteDirective.target path).parent? with
  | some parent => if parent.isEmpty then pure true else host.createDirAll parent
  | none => pure true

/-- Count the result of an attempt to write a path, and tell of a failure. -/
def recordWrite (host : Host m) (r : Report) (path : Path) (result : Option WriteOutcome) :
    m Report := do
  match result with
  | some _ => return r.record result
  | none =>
    host.log (.error "Failed to write file" [("path", .str path.shown)])
    return r.record none

end Host

end Scaffold

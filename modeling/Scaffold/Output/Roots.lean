import Scaffold.Log
import Scaffold.Path.Rendered
import Scaffold.Spec.Document
import Scaffold.Spec.Entity

/-!
# Structural roots

Some directories of a project play a role in it. The spec names them by the numbers of their
nodes, and their places are where their rendered names lead. A name that fails to render hides
all that lies below it.
-/

namespace Scaffold

structure StructuralRoots where
  webRoot : Option Path := none
  viewRoot : Option Path := none
  mockApiRoot : Option Path := none
  mockViewRoot : Option Path := none
deriving DecidableEq, Inhabited

namespace StructuralRoots

/-- Give a directory the first role that asks for its number. -/
def assign (attributes : SpecAttributes) (id : Int) (path : Path) (r : StructuralRoots) :
    StructuralRoots :=
  if attributes.webRoot = some id then { r with webRoot := some path }
  else if attributes.viewRoot = some id then { r with viewRoot := some path }
  else if attributes.mockApiRoot = some id then { r with mockApiRoot := some path }
  else if attributes.mockViewRoot = some id then { r with mockViewRoot := some path }
  else r

section Scan

variable {m : Type → Type} [Monad m]

mutual

def scanNode (attributes : SpecAttributes) (render : String → m (Option String))
    (log : LogEvent → m Unit) (dir : Path) (r : StructuralRoots) : DocNode → m StructuralRoots
  | .file _ => return r
  | .directory id name children => do
    match ← render name with
    | none =>
      log (.error "Directory name failed to render, subtree not scanned" [("node", .str name)])
      return r
    | some rendered =>
      let path := dir.joinRendered rendered
      scanNodes attributes render log path (r.assign attributes id path) children

/-- Look through nodes in document order; of several directories with one number the last
counts. -/
def scanNodes (attributes : SpecAttributes) (render : String → m (Option String))
    (log : LogEvent → m Unit) (dir : Path) (r : StructuralRoots) :
    List DocNode → m StructuralRoots
  | [] => return r
  | n :: ns => do
    let r ← scanNode attributes render log dir r n
    scanNodes attributes render log dir r ns

end

/-- Find the roots of a document tree; without attributes there are none. -/
def discover (docs : List DocNode) (attributes : Option SpecAttributes) (output : Path)
    (render : String → m (Option String)) (log : LogEvent → m Unit) : m StructuralRoots :=
  match attributes with
  | none => pure {}
  | some a => scanNodes a render log output {} docs

end Scan

/-- A root seen from the output, between slashes, if it lies there. -/
def relativeText? (output : Path) (root : Option Path) : Option String :=
  (root.bind output.relativeTo?).map fun cs =>
    if cs = [] then "/" else "/" ++ String.ofList cs ++ "/"

/-- The roots as templates see them: those that lie in the output. -/
def configValue (r : StructuralRoots) (output : Path) : Json :=
  let entry (key : String) (root : Option Path) : List (String × Json) :=
    (relativeText? output root).toList.map fun t => (key, .str t)
  Json.object
    (entry "webRoot" r.webRoot ++ entry "viewRoot" r.viewRoot ++
     entry "mockApiRoot" r.mockApiRoot ++ entry "mockViewRoot" r.mockViewRoot)

end StructuralRoots

end Scaffold

import Scaffold.Host.Basic
import Scaffold.Host.FileTree

/-!
# Workspaces

A host in memory: a file tree, and a record of what was asked of the others. Downloads are asked
for and nothing comes of them.
-/

namespace Scaffold

structure ProjectUpdate where
  manifest : ProjectManifest
  dirs : List Path
deriving DecidableEq, Inhabited

structure Workspace where
  files : FileTree := {}
  /-- Downloads asked for, last one first. -/
  requests : List (String × Path) := []
  /-- Project updates, last one first. -/
  updates : List ProjectUpdate := []
  /-- What was told, last event first. -/
  events : List LogEvent := []
deriving Inhabited

namespace Workspace

/-- A change of the file tree that tells whether it succeeded. -/
def onFiles (f : FileTree → Bool × FileTree) : StateM Workspace Bool := fun w =>
  let (ok, files) := f w.files
  (ok, { w with files })

def writeFile (p : Path) (content : String) (t : FileTree) : Bool × FileTree :=
  match t.write p content with
  | some t => (true, t)
  | none => (false, t)

def tell (e : LogEvent) (w : Workspace) : Workspace :=
  { w with events := e :: w.events }

def host : Host (StateM Workspace) where
  pathExists p := fun w => (w.files.pathExists p, w)
  write p content := onFiles (writeFile p content)
  createDirAll p := onFiles fun t => t.createDirAll p
  removeDirAll p := onFiles fun t => t.removeDirAll p
  readText p := fun w => (w.files.readText p, w)
  names p := fun w => (w.files.names p, w)
  download url dest := fun w => ((), { w with requests := (url, dest) :: w.requests })
  updateProject manifest dirs := fun w =>
    (true, { w with updates := ⟨manifest, dirs⟩ :: w.updates })
  log e := fun w => ((), w.tell e)

end Workspace

/-- Paths on which operations are refused. -/
structure Refusals where
  write : List Path := []
  createDirAll : List Path := []
  removeDirAll : List Path := []
  names : List Path := []

namespace Host

def refused (ps : List Path) (p : Path) : Bool :=
  ps.any (Path.same p)

/-- A host that refuses operations on the given paths. -/
def refusing {m : Type → Type} [Monad m] (host : Host m) (r : Refusals) : Host m :=
  { host with
    write := fun p content => if refused r.write p then pure false else host.write p content
    createDirAll := fun p =>
      if refused r.createDirAll p then pure false else host.createDirAll p
    removeDirAll := fun p =>
      if refused r.removeDirAll p then pure false else host.removeDirAll p
    names := fun p => if refused r.names p then pure none else host.names p }

end Host

end Scaffold

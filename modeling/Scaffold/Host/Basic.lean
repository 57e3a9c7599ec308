import Scaffold.Log
import Scaffold.Project

/-!
# Hosts

What a run needs around it: a file system, a place to ask for downloads, somebody to update the
platform's project, and a log. Operations that can fail tell whether they succeeded.
-/

namespace Scaffold

structure Host (m : Type → Type) where
  pathExists : Path → m Bool
  write : Path → String → m Bool
  /-- Create a directory and the ones above it, where they are missing. -/
  createDirAll : Path → m Bool
  /-- Remove a directory with all it holds; one that is missing is no failure. -/
  removeDirAll : Path → m Bool
  readText : Path → m (Option String)
  /-- Names of what is directly inside a directory, in order. -/
  names : Path → m (Option (List String))
  /-- Ask for an asset to be fetched to a place; nobody waits for it. -/
  download : String → Path → m Unit
  /-- Make a project refer to generated directories. -/
  updateProject : ProjectManifest → List Path → m Bool
  log : LogEvent → m Unit

namespace Host

variable {m : Type → Type} [Monad m]

def logAll (host : Host m) : List LogEvent → m Unit
  | [] => pure ()
  | e :: es => do
    host.log e
    host.logAll es

/-- Find the project in a directory: its first bundle, if that has a project file. -/
def locateProject (host : Host m) (dir : Path) : m (Option ProjectManifest) := do
  match ← host.names dir with
  | none =>
    host.log (.debug "Cannot list iOS project directory" [("dir", .str dir.shown)])
    return none
  | some names =>
    match names.find? ProjectManifest.isBundle with
    | none => return none
    | some bundle =>
      let manifest := ProjectManifest.ofBundle dir bundle
      if ← host.pathExists manifest.file then return some manifest
      else
        host.log (.debug "No project.pbxproj, skipping project update"
          [("path", .str manifest.file.shown)])
        return none

/-- Tell of a project update: the project, and each directory it is to refer to. -/
def tellUpdate (host : Host m) (manifest : ProjectManifest) (dirs : List Path) : m Unit := do
  host.log (.info "Updating project file"
    [("product", .str manifest.product), ("pbxproj", .str manifest.file.shown),
     ("dirs", Json.int dirs.length)])
  host.logAll (dirs.map fun dir => .info "Project group" [("dir", .str dir.shown)])

/-- A host that only tells of project updates. -/
def tellingUpdates (host : Host m) : Host m :=
  { host with
    updateProject := fun manifest dirs => do
      host.tellUpdate manifest dirs
      return true }

end Host

end Scaffold

import Mathlib
import Scaffold.Host.Workspace
import Scaffold.Proofs.Host.Simulation

/-!
# File trees as hosts

The plainest host there is keeps a file tree and nothing else; operations are refused on given
paths. A journal keeps, beside the tree, what was asked of it, with the tree before and after.
Workspaces follow the plain host.
-/

namespace Scaffold

open Host (refused)

namespace FileTree

/-- A host that is a file tree. It is asked in vain for what `r` refuses. -/
def host (r : Refusals) : Host (StateM FileTree) where
  pathExists p := fun t => (t.pathExists p, t)
  write p content := fun t =>
    if refused r.write p then (false, t) else Workspace.writeFile p content t
  createDirAll p := fun t => if refused r.createDirAll p then (false, t) else t.createDirAll p
  removeDirAll p := fun t => if refused r.removeDirAll p then (false, t) else t.removeDirAll p
  readText p := fun t => (t.readText p, t)
  names p := fun t => (if refused r.names p then none else t.names p, t)
  download _ _ := pure ()
  updateProject _ _ := pure true
  log _ := pure ()

theorem host_pathExists (r : Refusals) (p : Path) (t : FileTree) :
    (host r).pathExists p t = (t.pathExists p, t) := rfl

end FileTree

/-- Requests that may change a file tree, and requests for downloads. -/
inductive Request where
  | write (path : Path) (content : String)
  | createDirAll (path : Path)
  | removeDirAll (path : Path)
  | download (url : String) (path : Path)
deriving DecidableEq

/-- A request that was made, with its answer. -/
structure Call where
  request : Request
  before : FileTree
  after : FileTree
  answer : Bool

structure Journal where
  files : FileTree
  /-- Calls, last one first. -/
  calls : List Call := []

namespace Journal

/-- Make a request of the tree and note it. -/
def perform (request : Request) (op : StateM FileTree Bool) : StateM Journal Bool := fun j =>
  ((op j.files).1, ⟨(op j.files).2, ⟨request, j.files, (op j.files).2, (op j.files).1⟩ :: j.calls⟩)

/-- A file tree that keeps a journal. -/
def host (r : Refusals) : Host (StateM Journal) where
  pathExists p := fun j => (j.files.pathExists p, j)
  write p content := perform (.write p content) ((FileTree.host r).write p content)
  createDirAll p := perform (.createDirAll p) ((FileTree.host r).createDirAll p)
  removeDirAll p := perform (.removeDirAll p) ((FileTree.host r).removeDirAll p)
  readText p := fun j => (j.files.readText p, j)
  names p := fun j => (if refused r.names p then none else j.files.names p, j)
  download url p := do
    let _ ← perform (.download url p) (pure true)
  updateProject _ _ := pure true
  log _ := pure ()

/-- What is read off the journal, first call first, goes on with each request. -/
theorem filterMap_perform {α : Type} (f : Call → Option α) (request : Request)
    (op : StateM FileTree Bool) (j : Journal) :
    (perform request op j).2.calls.reverse.filterMap f = j.calls.reverse.filterMap f ++
      (f ⟨request, j.files, (op j.files).2, (op j.files).1⟩).toList := by
  rw [perform, List.reverse_cons, List.filterMap_append, List.filterMap_cons]
  cases f ⟨request, j.files, (op j.files).2, (op j.files).1⟩ <;> rfl

theorem host_follows_self (r : Refusals) : (host r).Follows id (host r) where
  pathExists _ _ := ⟨rfl, rfl⟩
  write _ _ _ := ⟨rfl, rfl⟩
  createDirAll _ _ := ⟨rfl, rfl⟩
  removeDirAll _ _ := ⟨rfl, rfl⟩
  readText _ _ := ⟨rfl, rfl⟩
  names _ _ := ⟨rfl, rfl⟩
  download _ _ _ := ⟨rfl, rfl⟩
  log _ _ := ⟨rfl, rfl⟩
  updateProject _ _ _ := rfl
  silent _ := rfl

/-- A journal is a file tree, if one does not look at what was noted. -/
theorem host_follows (r : Refusals) : (host r).Follows Journal.files (FileTree.host r) where
  pathExists _ _ := ⟨rfl, rfl⟩
  write _ _ _ := ⟨rfl, rfl⟩
  createDirAll _ _ := ⟨rfl, rfl⟩
  removeDirAll _ _ := ⟨rfl, rfl⟩
  readText _ _ := ⟨rfl, rfl⟩
  names _ _ := ⟨rfl, rfl⟩
  download _ _ _ := ⟨rfl, rfl⟩
  log _ _ := ⟨rfl, rfl⟩
  updateProject _ _ _ := rfl
  silent _ := rfl

end Journal

namespace Workspace

theorem onFiles_follows (f : FileTree → Bool × FileTree) :
    Follows Workspace.files (onFiles f) f :=
  fun _ => ⟨rfl, rfl⟩

theorem guard_follows (refused : Bool) (f : FileTree → Bool × FileTree) :
    Follows Workspace.files (if refused then pure false else onFiles f)
      fun t => if refused then (false, t) else f t := by
  cases refused with
  | true => exact Follows.pure false
  | false => exact onFiles_follows f

theorem host_refusing_follows (r : Refusals) :
    (Workspace.host.refusing r).Follows Workspace.files (FileTree.host r) where
  pathExists _ _ := ⟨rfl, rfl⟩
  write p content := guard_follows (refused r.write p) (writeFile p content)
  createDirAll p := guard_follows (refused r.createDirAll p) fun t => t.createDirAll p
  removeDirAll p := guard_follows (refused r.removeDirAll p) fun t => t.removeDirAll p
  readText _ _ := ⟨rfl, rfl⟩
  names p w := by
    simp only [Host.refusing, FileTree.host]
    cases refused r.names p with
    | true => exact ⟨rfl, rfl⟩
    | false => exact ⟨rfl, rfl⟩
  download _ _ _ := ⟨rfl, rfl⟩
  log _ _ := ⟨rfl, rfl⟩
  updateProject _ _ _ := rfl
  silent _ := rfl

end Workspace

end Scaffold

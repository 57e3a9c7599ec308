import Scaffold.Path

/-!
# File trees

A tree of directories and files, seen from a working directory. A path is followed component by
component, and everything on the way has to be a directory; `..` therefore leads out of the
directory that is really there. Paths that end in a slash or in `.` mean directories only.
-/

namespace Scaffold

/-- Names from the root down. -/
abbrev Location := List (List Char)

inductive FileEntry where
  | file (content : String)
  | directory
deriving DecidableEq, Inhabited

structure FileTree where
  entries : List (Location × FileEntry) := []
  /-- The working directory. -/
  cwd : Location := []
deriving Inhabited

namespace FileTree

/-- What stands at a location; the root is always there. -/
def find? (t : FileTree) (loc : Location) : Option FileEntry :=
  if loc = [] then some .directory else t.entries.lookup loc

def isDirectory (t : FileTree) (loc : Location) : Bool :=
  t.find? loc == some .directory

def insertEntry (loc : Location) (e : FileEntry) :
    List (Location × FileEntry) → List (Location × FileEntry)
  | [] => [(loc, e)]
  | (l, old) :: rest => if l = loc then (loc, e) :: rest else (l, old) :: insertEntry loc e rest

def insert (t : FileTree) (loc : Location) (e : FileEntry) : FileTree :=
  { t with entries := insertEntry loc e t.entries }

/-- Remove what lies below a location. -/
def eraseBelow (t : FileTree) (loc : Location) : FileTree :=
  { t with entries := t.entries.filter fun (l, _) => !(loc.isPrefixOf l) || l == loc }

/-- Remove a location with what lies below it. -/
def erase (t : FileTree) (loc : Location) : FileTree :=
  { t with entries := t.entries.filter fun (l, _) => !(loc.isPrefixOf l) }

/-- Everything below a location, seen from there. -/
def below (t : FileTree) (loc : Location) : List (Location × FileEntry) :=
  t.entries.filterMap fun (l, e) =>
    if loc.isPrefixOf l && l != loc then some (l.drop loc.length, e) else none

/-- Names directly inside a location, in order. -/
def namesIn (t : FileTree) (loc : Location) : List String :=
  let names := (t.below loc).filterMap fun
    | ([name], _) => some (String.ofList name)
    | _ => none
  names.mergeSort fun a b => decide (a ≤ b)

/-! ## Paths -/

/-- Why a path leads nowhere. -/
inductive LookupError where
  | missing
  /-- A file on the way, or a name that cannot be one. -/
  | unusable
deriving DecidableEq

/-- Bytes of a name. -/
def maxName : Nat := 255

/-- Bytes of a path. -/
def maxPath : Nat := 4095

def isName (name : List Char) : Bool :=
  (String.ofList name).utf8ByteSize ≤ maxName

/-- Whether a path can be asked for at all. -/
def isUsable (p : Path) : Bool :=
  !p.chars.contains '\x00' && p.text.utf8ByteSize ≤ maxPath

/-- The last segment that is not empty. -/
def lastSegment (p : Path) : List Char :=
  ((p.chars.reverse.dropWhile Path.isSlash).takeWhile fun c => !Path.isSlash c).reverse

/-- Whether the text of a path asks for a directory. -/
def meansDirectory (p : Path) : Bool :=
  p.chars.getLast? == some '/' || lastSegment p == ['.'] || lastSegment p == ['.', '.']

/-- Follow components from a location on. What is found there need not exist. -/
def follow (t : FileTree) (loc : Location) : List Path.Component → Except LookupError Location
  | [] => .ok loc
  | .root :: cs => follow t [] cs
  | c :: cs =>
    match t.find? loc with
    | none => .error .missing
    | some (.file _) => .error .unusable
    | some .directory =>
      match c with
      | .name n => if isName n then follow t (loc ++ [n]) cs else .error .unusable
      | .up => follow t loc.dropLast cs
      | _ => follow t loc cs

/-- The location that a path means. -/
def locate (t : FileTree) (p : Path) : Except LookupError Location :=
  if p.isEmpty then .error .missing
  else if isUsable p then t.follow t.cwd p.components
  else .error .unusable

/-- What a path leads to, if it exists. -/
def get? (t : FileTree) (p : Path) : Option (Location × FileEntry) :=
  match t.locate p with
  | .error _ => none
  | .ok loc =>
    match t.find? loc with
    | some .directory => some (loc, .directory)
    | some (.file content) => if meansDirectory p then none else some (loc, .file content)
    | none => none

/-! ## Operations -/

def pathExists (t : FileTree) (p : Path) : Bool :=
  (t.get? p).isSome

def readText (t : FileTree) (p : Path) : Option String :=
  match t.get? p with
  | some (_, .file content) => some content
  | _ => none

def names (t : FileTree) (p : Path) : Option (List String) :=
  match t.get? p with
  | some (loc, .directory) => some (t.namesIn loc)
  | _ => none

/-- Write a file into a directory that is there. -/
def write (t : FileTree) (p : Path) (content : String) : Option FileTree :=
  if meansDirectory p then none
  else
    match t.locate p with
    | .error _ => none
    | .ok loc =>
      if t.isDirectory loc then none else some (t.insert loc (.file content))

/-- Create directories along components; those made before a failure stay. -/
def createAlong (t : FileTree) (loc : Location) : List Path.Component → Bool × FileTree
  | [] => (t.isDirectory loc, t)
  | .root :: cs => createAlong t [] cs
  | .here :: cs => createAlong t loc cs
  | .up :: cs => createAlong t loc.dropLast cs
  | .name n :: cs =>
    if !isName n || !t.isDirectory loc then (false, t)
    else
      match t.find? (loc ++ [n]) with
      | some .directory => createAlong t (loc ++ [n]) cs
      | some (.file _) => (false, t)
      | none => createAlong (t.insert (loc ++ [n]) .directory) (loc ++ [n]) cs

/-- Create a directory with those above it. Before a final `.` the directory has to exist. -/
def createDirAll (t : FileTree) (p : Path) : Bool × FileTree :=
  if p.isEmpty then (true, t)
  else if !isUsable p then (false, t)
  else if lastSegment p = ['.'] then
    match t.createAlong t.cwd p.components.dropLast with
    | (true, t) => ((t.get? p).isSome, t)
    | (false, t) => (false, t)
  else t.createAlong t.cwd p.components

/-- Remove a directory with all it holds. After a final `.` or `..` the directory itself cannot
be removed once it is empty. -/
def removeDirAll (t : FileTree) (p : Path) : Bool × FileTree :=
  match t.locate p with
  | .error .missing => (true, t)
  | .error .unusable => (false, t)
  | .ok loc =>
    match t.find? loc with
    | none => (true, t)
    | some (.file _) => (false, t)
    | some .directory =>
      if lastSegment p = ['.'] then (false, t.eraseBelow loc)
      else if lastSegment p = ['.', '.'] then
        let t := t.eraseBelow loc
        match t.follow t.cwd p.components.dropLast with
        | .error .missing => (true, t)
        | .error .unusable => (false, t)
        | .ok from_ => ((t.find? from_).isNone, t)
      else if loc = [] then (false, t.eraseBelow loc)
      else (true, t.erase loc)

/-- Remove a file or a directory. -/
def remove (t : FileTree) (p : Path) : FileTree :=
  match t.get? p with
  | some (loc, _) => t.erase loc
  | none => t

/-- Put a file at a path, with the directories above it. -/
def place (t : FileTree) (p : Path) (content : String) : FileTree :=
  let t := match p.parent? with
    | some dir => (t.createDirAll dir).2
    | none => t
  (t.write p content).getD t

end FileTree

end Scaffold

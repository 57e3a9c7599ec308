import Scaffold.Host.Basic
import Scaffold.Run.Config
import Scaffold.Yaml.Data

/-!
# Settings files

Settings are kept as a YAML mapping from the names of fields to their values, or as a sequence of
the values alone. Fields of other names are passed over, and a text that holds nothing leaves
everything open.
-/

namespace Scaffold

/-- What can be set. -/
inductive SettingsField where
  | platform
  | overwrite
  | configRoot
  | pid
  | args
deriving DecidableEq, Inhabited

namespace SettingsField

/-- All fields, in the order in which a sequence gives them. -/
def all : List SettingsField :=
  [platform, overwrite, configRoot, pid, args]

def name : SettingsField → String
  | platform => "spec_type"
  | overwrite => "overwrite"
  | configRoot => "config_root"
  | pid => "pid"
  | args => "args"

def ofName? (s : String) : Option SettingsField :=
  all.find? fun f => f.name == s

end SettingsField

namespace Settings

open Yaml Document

/-- Whether a node leaves its field open; `none` where the field can be neither open nor set. -/
def isOpen? : Node → Option Bool
  | .scalar _ tag cs .plain =>
    match tag with
    | none => some (cs.isEmpty || isNullText cs)
    | some t => if t = coreTag "null" then (if isNullText cs then some true else none) else some false
  | _ => some false

/-- Whether a scalar may be read as a kind of value that is not text. -/
def isReadAs (kind : String) (tag : Option (List Char)) : ScalarStyle → Bool
  | .plain => true
  | .literal => tag == some (coreTag kind)
  | _ => false

def textValue? : Node → Option String
  | .scalar _ _ cs _ => some (String.ofList cs)
  | _ => none

def boolValue? : Node → Option Bool
  | .scalar _ tag cs style => if isReadAs "bool" tag style then boolOf? cs else none
  | _ => none

/-- A whole number of sixty-four bits with a sign. -/
def intValue? : Node → Option Int
  | .scalar _ tag cs style =>
    if isReadAs "int" tag style then
      (intOf? cs).filter fun n => decide (-(2 ^ 63) ≤ n ∧ n < 2 ^ 63)
    else none
  | _ => none

/-- A value that may be left open. -/
def optional {α : Type} (d : Document) (value? : Node → Option α) (node : Node) :
    Reading (Option α) := do
  let node ← d.follow node
  match isOpen? node with
  | none => fail
  | some true => return none
  | some false => return some (← ofOption (value? node))

/-- Values for templates; the mapping of settings is one level of collections, theirs another. -/
def readArgs (d : Document) (node : Node) : Reading Members := do
  match ← d.follow node with
  | .mapping _ _ entries => d.members (d.data (maxDepth - 2)) entries []
  | .scalar _ _ [] .plain => return []
  | _ => fail

/-- Set a field by its node. -/
def readField (d : Document) (s : Settings) (node : Node) : SettingsField → Reading Settings
  | .platform => return { s with platform := ← optional d textValue? node }
  | .overwrite => return { s with overwrite := ← optional d boolValue? node }
  | .configRoot =>
    return { s with configRoot := (← optional d textValue? node).map Path.ofString }
  | .pid => return { s with pid := ← optional d intValue? node }
  | .args => return { s with args := ← readArgs d node }

/-- Fields by name, each at most once. -/
def readEntries (d : Document) : List (Node × Node) → (seen : List SettingsField) → Settings →
    Reading Settings
  | [], _, s => return s
  | (k, v) :: rest, seen, s => do
    match SettingsField.ofName? (← d.text k) with
    | none => readEntries d rest seen s
    | some f =>
      if seen.contains f then fail
      else readEntries d rest (f :: seen) (← readField d s v f)

/-- Fields by position; there may be fewer values but no more. -/
def readItems (d : Document) : List Node → List SettingsField → Settings → Reading Settings
  | [], _, s => return s
  | _ :: _, [], _ => fail
  | node :: rest, f :: fs, s => do readItems d rest fs (← readField d s node f)

def read (d : Document) : Reading Settings := do
  match ← d.follow d.root with
  | .mapping _ _ entries => readEntries d entries [] {}
  | .sequence _ _ items => readItems d items SettingsField.all {}
  | .scalar _ _ [] .plain => return {}
  | _ => fail

/-- The settings in a text. -/
def ofText? (content : String) : Option Settings :=
  match document? content with
  | none => none
  | some none => some {}
  | some (some d) => ((read d).run 0).map (·.1)

end Settings

/-- Why settings are not loaded. -/
inductive SettingsError where
  | unreadable (path : Path)
  | unfit (path : Path)
deriving DecidableEq

namespace SettingsError

def message : SettingsError → String
  | unreadable p => "Failed to read settings file " ++ p.shown
  | unfit p => "Failed to parse settings file " ++ p.shown

end SettingsError

/-- Load the settings in a file. -/
def Settings.load {m : Type → Type} [Monad m] (host : Host m) (path : Path) :
    ExceptT SettingsError m Settings := do
  match ← host.readText path with
  | none => throw (.unreadable path)
  | some content =>
    match ofText? content with
    | none => throw (.unfit path)
    | some s => return s

end Scaffold

import Scaffold.Run.Args

/-!
# Flags

The flags of the command line: their names, the kinds of value they take, and how a value is
read.
-/

namespace Scaffold.CommandLine

inductive Flag where
  | verbose
  | help
  | input
  | output
  | key
  | spec
  | specKey
  | specType
  | overwrite
  | pid
  | iosProjectPath
  | pbxForce
  | previous
  | configRoot
  | config
  | arg
deriving DecidableEq, Inhabited

/-- What a flag takes; a switch takes nothing. -/
inductive FlagKind where
  | switch
  | path
  | text
  | int
  | pair
deriving DecidableEq, Inhabited

namespace Flag

/-- Flags that may stand in front of the command too. -/
def general : List Flag := [verbose, help]

def all : List Flag :=
  [verbose, help, input, output, key, spec, specKey, specType, overwrite, pid, iosProjectPath,
    pbxForce, previous, configRoot, config, arg]

def long : Flag → String
  | verbose => "verbose"
  | help => "help"
  | input => "input"
  | output => "output"
  | key => "key"
  | spec => "spec"
  | specKey => "spec-key"
  | specType => "spec-type"
  | overwrite => "overwrite"
  | pid => "pid"
  | iosProjectPath => "ios-project-path"
  | pbxForce => "pbx-force"
  | previous => "previous"
  | configRoot => "config-root"
  | config => "config"
  | arg => "arg"

def short? : Flag → Option Char
  | verbose => some 'v'
  | help => some 'h'
  | input => some 'i'
  | output => some 'o'
  | config => some 'c'
  | _ => none

def kind : Flag → FlagKind
  | verbose => .switch
  | help => .switch
  | input => .path
  | output => .path
  | key => .text
  | spec => .switch
  | specKey => .text
  | specType => .text
  | overwrite => .switch
  | pid => .int
  | iosProjectPath => .path
  | pbxForce => .switch
  | previous => .path
  | configRoot => .path
  | config => .path
  | arg => .pair

def isSwitch (f : Flag) : Bool :=
  f.kind == .switch

/-- Whether the flag may be given more than once. -/
def isRepeatable (f : Flag) : Bool :=
  f == arg

/-- What the flag is for, in a few words. -/
def purpose : Flag → String
  | verbose => "log at debug level"
  | help => "print help"
  | input => "exported project, JSON or YAML (required)"
  | output => "directory the project is generated into (required)"
  | key => "project key, turns on mock data and run configuration"
  | spec => "regenerate plain documents on update"
  | specKey => "key of the spec"
  | specType => "target platform: web, ios, android or any other name"
  | overwrite => "overwrite existing files"
  | pid => "project number"
  | iosProjectPath => "directory of the platform's project, below the output"
  | pbxForce => "update the platform's project even when nothing changed"
  | previous => "export of the run before, to see what changed"
  | configRoot => "where run configuration is written"
  | config => "settings file that supplies defaults"
  | arg => "further value for templates, name=value (repeatable)"

end Flag

inductive FlagValue where
  | on
  | path (p : Path)
  | text (s : String)
  | int (n : Int)
  | pair (name : String) (value : Json)

namespace FlagValue

def path? : FlagValue → Option Path
  | path p => some p
  | _ => none

def text? : FlagValue → Option String
  | text s => some s
  | _ => none

def int? : FlagValue → Option Int
  | int n => some n
  | _ => none

def pair? : FlagValue → Option (String × Json)
  | pair name value => some (name, value)
  | _ => none

end FlagValue

/-- Why the command line is not in order. -/
inductive UsageError where
  | helpAsked
  | nothingGiven
  | missingCommand
  | unknownCommand (word : String)
  | unknownWord (word : String)
  | missingFlag (f : Flag)
  | missingValue (f : Flag)
  | badValue (f : Flag) (word : String)
  | unneededValue (f : Flag)
  | repeated (f : Flag)
deriving DecidableEq

namespace UsageError

def message : UsageError → String
  | helpAsked => ""
  | nothingGiven => ""
  | missingCommand => "a command is missing"
  | unknownCommand w => "unknown command " ++ w
  | unknownWord w => "unexpected argument " ++ w
  | missingFlag f => "--" ++ f.long ++ " is required"
  | missingValue f => "--" ++ f.long ++ " needs a value"
  | badValue f w => "bad value for --" ++ f.long ++ ": " ++ w
  | unneededValue f => "--" ++ f.long ++ " takes no value"
  | repeated f => "--" ++ f.long ++ " is given more than once"

end UsageError

namespace Flag

/-- A whole number of sixty-four bits with a sign. -/
def int64? (s : String) : Option Int :=
  (Number.intOfDigits? s.toList).filter fun n => decide (-(2 ^ 63) ≤ n ∧ n < 2 ^ 63)

/-- Read the value of a flag; paths have at least one character. -/
def readValue (f : Flag) (s : String) : Except UsageError FlagValue :=
  match f.kind with
  | .switch => .error (.unneededValue f)
  | .path => if s.isEmpty then .error (.missingValue f) else .ok (.path (.ofString s))
  | .text => .ok (.text s)
  | .int =>
    match int64? s with
    | some n => .ok (.int n)
    | none => .error (.badValue f s)
  | .pair =>
    match argPair s with
    | .ok (name, value) => .ok (.pair name value)
    | .error _ => .error (.badValue f s)

end Flag

end Scaffold.CommandLine

import Scaffold.Json.Basic

/-!
# Log events

What a run tells about its work while it is at it. An event has a level, a message and fields;
fields for paths and names hold their text.
-/

namespace Scaffold

inductive LogLevel where
  | error
  | warn
  | info
  | debug
  | trace
deriving DecidableEq, Inhabited

namespace LogLevel

def name : LogLevel → String
  | error => "ERROR"
  | warn => "WARN"
  | info => "INFO"
  | debug => "DEBUG"
  | trace => "TRACE"

end LogLevel

structure LogEvent where
  level : LogLevel
  message : String
  fields : Members := []
deriving Inhabited

namespace LogEvent

def error (message : String) (fields : List (String × Json) := []) : LogEvent :=
  ⟨.error, message, Members.ofList fields⟩

def info (message : String) (fields : List (String × Json) := []) : LogEvent :=
  ⟨.info, message, Members.ofList fields⟩

def debug (message : String) (fields : List (String × Json) := []) : LogEvent :=
  ⟨.debug, message, Members.ofList fields⟩

/-- A line that a script has printed. -/
def printed (line : String) : LogEvent :=
  debug line

end LogEvent

end Scaffold

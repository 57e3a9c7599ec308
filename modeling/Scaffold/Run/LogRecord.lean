import Scaffold.Json.Printer
import Scaffold.Log
import Scaffold.Run.LogConfig

/-!
# Log records

Which events a log configuration shows, and the line that each of them becomes.
-/

namespace Scaffold

namespace LogLevel

def all : List LogLevel := [error, warn, info, debug, trace]

/-- Without regard to case; names of no level mean `info`. -/
def ofName (s : String) : LogLevel :=
  let lower := Text.lower s.toList
  (all.find? fun l => Text.lower l.name.toList == lower).getD info

def rank : LogLevel → Nat
  | error => 0
  | warn => 1
  | info => 2
  | debug => 3
  | trace => 4

end LogLevel

namespace LogConfig

def shows (c : LogConfig) (e : LogEvent) : Bool :=
  decide (e.level.rank ≤ (LogLevel.ofName c.level).rank)

def fieldText : String × Json → String
  | (key, .str s) => " " ++ key ++ "=" ++ s
  | (key, v) => " " ++ key ++ "=" ++ v.compact

/-- The line for an event. -/
def record (c : LogConfig) (e : LogEvent) : String :=
  if c.json then
    Json.compact (Json.object
      [("level", .str e.level.name), ("message", .str e.message), ("fields", .obj e.fields)])
  else e.level.name ++ " " ++ e.message ++ String.join (e.fields.map fieldText)

end LogConfig

end Scaffold

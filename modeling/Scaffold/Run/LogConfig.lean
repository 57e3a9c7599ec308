import Scaffold.Text.Case

/-!
# Log configuration

How a run reports what it does, as read from the values of three variables.
-/

namespace Scaffold

structure LogConfig where
  level : String
  json : Bool
  /-- Whether records name the place they come from. -/
  location : Bool
deriving DecidableEq, Inhabited

namespace LogConfig

def isJsonName (s : String) : Bool :=
  Text.lower s.toList == "json".toList

/-- Unset values have defaults, and a location that is no truth value counts as false. -/
def ofVariables (level format location : Option String) : LogConfig :=
  { level := level.getD "info"
    json := isJsonName (format.getD "pretty")
    location := location == some "true" }

def verbose : LogConfig :=
  { level := "debug", json := false, location := true }

end LogConfig

end Scaffold

import Scaffold.Number.Reading
import Scaffold.Text.Blank
import Scaffold.Json.Basic

/-!
# Conditions

Comparing two values by an operator. Equality by `==` looks for a common number where the kinds
differ, equality by `===` does not; order is between two strings or two numbers.
-/

namespace Scaffold.Template

/-- What counts as true for operators: every container does. -/
def truthy : Json → Bool
  | .null => false
  | .bool b => b
  | .num n => !n.toDouble.isZero && !n.toDouble.isNaN
  | .str s => !s.isEmpty
  | .arr _ => true
  | .obj _ => true

/-- The number of a value, for strings the number they are the text of. -/
def numberOf? : Json → Option Double
  | .num n => some n.toDouble
  | .bool b => some (Double.ofInt (if b then 1 else 0))
  | .str s => Double.ofText? (Text.trim s.toList)
  | _ => none

def sameNumber (a b : Json) : Bool :=
  match numberOf? a, numberOf? b with
  | some x, some y => x.sameValue y
  | _, _ => false

def looselyEqual (a b : Json) : Bool :=
  match a, b with
  | .num x, .num y => x.toDouble.sameValue y.toDouble
  | .str s, .str t => s == t
  | .null, .null => true
  | .null, _ => false
  | _, .null => false
  | .arr _, _ => a == b
  | .obj _, _ => a == b
  | _, .arr _ => a == b
  | _, .obj _ => a == b
  | _, _ => sameNumber a b

def compareValues? (a b : Json) : Option Ordering :=
  match a, b with
  | .str s, .str t => some (compare s t)
  | _, _ =>
    match numberOf? a, numberOf? b with
    | some x, some y => x.compare? y
    | _, _ => none

/-- Whether `a op b` holds; no answer for an operator that is none. -/
def condition? (a : Json) (op : String) (b : Json) : Option Bool :=
  if op = "==" then some (looselyEqual a b)
  else if op = "===" then some (a == b)
  else if op = "<" then some (compareValues? a b == some .lt)
  else if op = "<=" then some ((compareValues? a b).any (· != .gt))
  else if op = ">" then some (compareValues? a b == some .gt)
  else if op = ">=" then some ((compareValues? a b).any (· != .lt))
  else if op = "&&" then some (truthy a && truthy b)
  else if op = "||" then some (truthy a || truthy b)
  else none

end Scaffold.Template

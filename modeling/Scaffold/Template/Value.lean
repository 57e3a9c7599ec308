import Scaffold.Json.Printer
import Scaffold.Number.Reading

/-!
# Values in templates

How values are written into text, which of them count as true, and how they are ordered.
-/

namespace Scaffold.Template

mutual

/-- The text of a value: strings as they are, `null` as nothing, objects only by their kind. -/
def valueText : Json → String
  | .null => ""
  | .bool b => if b then "true" else "false"
  | .num n => String.ofList n.toChars
  | .str s => s
  | .arr xs => "[" ++ itemsText xs ++ "]"
  | .obj _ => "[object]"

def itemsText : List Json → String
  | [] => ""
  | x :: xs => valueText x ++ moreItemsText xs

def moreItemsText : List Json → String
  | [] => ""
  | x :: xs => ", " ++ valueText x ++ moreItemsText xs

end

def escapeChar (c : Char) : String :=
  if c = '<' then "&lt;"
  else if c = '>' then "&gt;"
  else if c = '"' then "&quot;"
  else if c = '&' then "&amp;"
  else if c = '\'' then "&#x27;"
  else if c = '\x60' then "&#x60;"
  else if c = '=' then "&#x3D;"
  else String.singleton c

/-- Text that is safe inside markup. -/
def escapeMarkup (s : String) : String :=
  s.toList.foldl (fun out c => out ++ escapeChar c) ""

def output (escaped : Bool) (s : String) : String :=
  if escaped then escapeMarkup s else s

/-- What conditions of templates take for true: neither empty, nor zero unless zero counts too. -/
def holds (withZero : Bool) : Json → Bool
  | .null => false
  | .bool b => b
  | .num n => if withZero then !n.toDouble.isNaN else n.toDouble.isNormal
  | .str s => !s.isEmpty
  | .arr xs => !xs.isEmpty
  | .obj ms => !ms.isEmpty

def orderNumbers? : Number → Number → Option Ordering
  | .int a, .int b => some (compare a b)
  | .int a, .float y => Double.compareInt? a y
  | .float x, .int b => (Double.compareInt? b x).map Ordering.swap
  | .float x, .float y => x.compare? y

def orderNumberText? (n : Number) (s : String) : Option Ordering :=
  (Double.ofText? s.toList).bind n.toDouble.compare?

/-- Order of values of one kind, and of numbers with strings that are numbers. -/
def order? : Json → Json → Option Ordering
  | .num a, .num b => orderNumbers? a b
  | .str a, .str b => some (compare a b)
  | .bool a, .bool b => some (compare a b)
  | .num a, .str b => orderNumberText? a b
  | .str a, .num b => (orderNumberText? b a).map Ordering.swap
  | _, _ => none

end Scaffold.Template

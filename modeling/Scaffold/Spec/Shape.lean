import Scaffold.Json.Printer

/-!
# Shapes of data

Reading typed values out of JSON. A value of the wrong shape is reported as the value that was
found and what stood in its place; the first faulty member by name, or the first faulty item of
an array, decides.
-/

namespace Scaffold

/-- Why a value does not have the shape that is asked for. -/
inductive ShapeError where
  | wrongType (found : Json) (expected : String)
  | wrongValue (found : Json) (expected : String)
  | tooManyItems (count : Nat)

namespace ShapeError

open Number in
/-- The kind of a value, with the value itself where it is a scalar. -/
def describe : Json → String
  | .null => "null"
  | .bool b => "boolean `" ++ (if b then "true" else "false") ++ "`"
  | .num (.int n) => "integer `" ++ String.ofList (intDigits n) ++ "`"
  | .num (.float x) => "floating point `" ++ String.ofList (x.layOut Layout.data) ++ "`"
  | .str s => "string " ++ String.ofList (Text.quoted s.toList)
  | .arr _ => "sequence"
  | .obj _ => "map"

def message : ShapeError → String
  | wrongType v expected => "invalid type: " ++ describe v ++ ", expected " ++ expected
  | wrongValue v expected => "invalid value: " ++ describe v ++ ", expected " ++ expected
  | tooManyItems n =>
    "invalid length " ++ String.ofList (Number.natDigits n) ++ ", expected fewer elements in array"

end ShapeError

/-- Reading a value of type `α`. -/
abbrev Decoder (α : Type) := Json → Except ShapeError α

namespace Decoder

/-- Whole numbers of sixty-four bits with sign. -/
def integer : Decoder Int
  | .num (.int n) =>
    if -2 ^ 63 ≤ n ∧ n < 2 ^ 63 then .ok n else .error (.wrongValue (Json.int n) "i64")
  | v => .error (.wrongType v "i64")

def text : Decoder String
  | .str s => .ok s
  | v => .error (.wrongType v "a string")

def any : Decoder Json := fun v => .ok v

/-- `null` stands for absence. -/
def optional {α : Type} (d : Decoder α) : Decoder (Option α)
  | .null => .ok none
  | v =>
    match d v with
    | .ok a => .ok (some a)
    | .error e => .error e

/-- The items in turn; the first faulty one decides. -/
def each {α : Type} (d : Decoder α) : List Json → Except ShapeError (List α)
  | [] => .ok []
  | v :: vs =>
    match d v with
    | .error e => .error e
    | .ok a =>
      match each d vs with
      | .error e => .error e
      | .ok as => .ok (a :: as)

def list {α : Type} (d : Decoder α) : Decoder (List α)
  | .arr xs => each d xs
  | v => .error (.wrongType v "a sequence")

/-- A truth value written as such, as a number or as a string; all else is false. -/
def flag : Json → Bool
  | .bool b => b
  | .num n => !n.isZero
  | .str s => s == "1" || s == "true"
  | _ => false

/-- A member that may be left out. -/
def member {α : Type} (d : Decoder α) (key : String) (default : α) (ms : Members) :
    Except ShapeError α :=
  match ms.find? key with
  | some v => d v
  | none => .ok default

/-- An item that may be left out. -/
def item {α : Type} (d : Decoder α) (index : Nat) (default : α) (xs : List Json) :
    Except ShapeError α :=
  match xs[index]? with
  | some v => d v
  | none => .ok default

/-- No more than `count` items. -/
def atMost (count : Nat) (xs : List Json) : Except ShapeError Unit :=
  if count < xs.length then .error (.tooManyItems xs.length) else .ok ()

end Decoder

namespace Members

/-- The members whose names are not among the declared ones. -/
def undeclared (declared : List String) (ms : Members) : Members :=
  ms.filter fun m => !declared.contains m.1

end Members

end Scaffold

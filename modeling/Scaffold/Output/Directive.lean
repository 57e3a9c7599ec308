import Scaffold.Path

/-!
# Write directives

Markers in a path say what happens to a file that is already there: `!!w` overwrites it, `!!nw`
keeps it. The first marker decides, and all of them are cut out in one pass from left to right.
-/

namespace Scaffold

inductive WriteDirective where
  | overwrite
  | keep
deriving DecidableEq, Inhabited

namespace WriteDirective

/-- The marker at the front, with what follows it. -/
def marker? : List Char → Option (WriteDirective × List Char)
  | '!' :: '!' :: 'w' :: rest => some (overwrite, rest)
  | '!' :: '!' :: 'W' :: rest => some (overwrite, rest)
  | '!' :: '!' :: 'n' :: 'w' :: rest => some (keep, rest)
  | '!' :: '!' :: 'n' :: 'W' :: rest => some (keep, rest)
  | _ => none

/-- The first marker anywhere. -/
def first? : List Char → Option WriteDirective
  | [] => none
  | c :: rest =>
    match marker? (c :: rest) with
    | some (d, _) => some d
    | none => first? rest

def withoutMarkers : List Char → List Char
  | '!' :: '!' :: 'w' :: rest => withoutMarkers rest
  | '!' :: '!' :: 'W' :: rest => withoutMarkers rest
  | '!' :: '!' :: 'n' :: 'w' :: rest => withoutMarkers rest
  | '!' :: '!' :: 'n' :: 'W' :: rest => withoutMarkers rest
  | c :: rest => c :: withoutMarkers rest
  | [] => []

/-- The directive of a text and the text without markers. -/
def extract (path : String) : Option WriteDirective × String :=
  (first? path.toList, String.ofList (withoutMarkers path.toList))

/-- The directive of a path and the path that is meant. -/
def resolve (p : Path) : Option WriteDirective × Path :=
  (first? p.chars, ⟨withoutMarkers p.chars⟩)

/-- The path that is meant. -/
def target (p : Path) : Path :=
  (resolve p).2

end WriteDirective

end Scaffold

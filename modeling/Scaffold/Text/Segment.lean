/-!
# Splitting and joining

A text is split at every separator, empty pieces included, and pieces are joined with a
separator between them.
-/

namespace Scaffold.Text

/-- Split at every character that satisfies `sep`. -/
def splitBy (sep : Char → Bool) : List Char → List (List Char)
  | [] => [[]]
  | c :: cs =>
    if sep c then [] :: splitBy sep cs
    else
      match splitBy sep cs with
      | [] => [[c]]
      | piece :: rest => (c :: piece) :: rest

/-- The pieces with `sep` between each two. -/
def joinWith (sep : List Char) : List (List Char) → List Char
  | [] => []
  | [piece] => piece
  | piece :: rest => piece ++ sep ++ joinWith sep rest

/-- What follows `lead`, if the text starts with it. -/
def afterPrefix? : List Char → List Char → Option (List Char)
  | [], cs => some cs
  | _ :: _, [] => none
  | p :: ps, c :: cs => if p = c then afterPrefix? ps cs else none

/-- Whether `part` occurs somewhere in the text. -/
def occurs (part : List Char) : List Char → Bool
  | [] => part.isEmpty
  | c :: cs => (afterPrefix? part (c :: cs)).isSome || occurs part cs

/-- Every occurrence of `old`, from the left and without overlap, becomes `new`. `skip` counts
the characters of an occurrence still to be passed over. -/
def replaceFrom (old new : List Char) (skip : Nat) : List Char → List Char
  | [] => []
  | c :: cs =>
    match skip with
    | k + 1 => replaceFrom old new k cs
    | 0 =>
      match afterPrefix? old (c :: cs) with
      | some _ => new ++ replaceFrom old new (old.length - 1) cs
      | none => c :: replaceFrom old new 0 cs

/-- Every occurrence of a text that is not empty, replaced. -/
def replace (old new cs : List Char) : List Char :=
  replaceFrom old new 0 cs

/-- Whether the text ends with `tail`. -/
def endsWith (tail cs : List Char) : Bool :=
  (afterPrefix? tail.reverse cs.reverse).isSome

end Scaffold.Text

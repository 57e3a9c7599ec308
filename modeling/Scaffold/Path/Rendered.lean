import Scaffold.Path

/-!
# Rendered names

A rendered name may hold several segments. They are put on a stack: empty segments and `.` count
for nothing, and `..` takes away only what the name itself has put there, so that joining never
leaves the directory it starts from.
-/

namespace Scaffold.Path

/-- Rendered names are divided by slashes of either kind. -/
def isDivider (c : Char) : Bool := c == '/' || c == '\\'

/-- The segments taken off the text one by one, onto the names found so far, last name first. -/
def stackSegments (names : List (List Char)) : List (List Char) → List (List Char)
  | [] => names
  | segment :: rest =>
    if segment = [] ∨ segment = ['.'] then stackSegments names rest
    else if segment = ['.', '.'] then stackSegments names.tail rest
    else stackSegments (segment :: names) rest

def renderedNames (rendered : List Char) : List (List Char) :=
  (stackSegments [] (Text.splitBy isDivider (Text.trim rendered))).reverse

/-- The place of a rendered name in a directory. -/
def joinRendered (dir : Path) (rendered : String) : Path :=
  dir.joinAll (renderedNames rendered.toList)

end Scaffold.Path

import Scaffold.Json.Basic
import Scaffold.Number.Reading
import Scaffold.Text.Segment

/-!
# JSON pointers

A pointer is a text of tokens, each after a slash, that leads to a place inside of a value. In a
token `~1` stands for a slash and `~0` for a tilde.
-/

namespace Scaffold.Json

/-- A token as the number of an item, without a sign or leading zeros. -/
def itemNumber? (token : List Char) : Option Nat :=
  match token with
  | '0' :: _ :: _ => none
  | _ => Number.natOfDigits? token

/-- The key that a token stands for. -/
def pointerKey (token : List Char) : List Char :=
  Text.replace ['~', '0'] ['~'] (Text.replace ['~', '1'] ['/'] token)

def followTokens : Json → List (List Char) → Option Json
  | v, [] => some v
  | v, token :: rest =>
    let key := pointerKey token
    match v with
    | .obj ms => (Members.find? (String.ofList key) ms).bind fun w => followTokens w rest
    | .arr xs => ((itemNumber? key).bind fun i => xs[i]?).bind fun w => followTokens w rest
    | _ => none

/-- The value at a pointer; the empty pointer means the whole. -/
def pointer? (v : Json) (pointer : String) : Option Json :=
  match pointer.toList with
  | [] => some v
  | '/' :: rest => followTokens v (Text.splitBy (· == '/') rest)
  | _ => none

end Scaffold.Json

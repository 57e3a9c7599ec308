import Scaffold.Text.Case
import Scaffold.Text.Segment

/-!
# Words

Spellings of one name: words apart by hyphens, words apart by capitals, and lines apart by
another mark. Only ASCII capitals start a word, while the first letter of a word is raised by
the full case mapping.
-/

namespace Scaffold.Text

/-- Every run of hyphens as one underscore; `inRun` tells that a hyphen stood before. -/
def underlined (inRun : Bool) : List Char → List Char
  | [] => []
  | c :: cs =>
    if c = '-' then (if inRun then underlined true cs else '_' :: underlined true cs)
    else c :: underlined false cs

def hyphenToUnderline (cs : List Char) : List Char :=
  underlined false cs

def hyphenToCamel (cs : List Char) : List Char :=
  (splitBy (· == '-') cs).flatMap upperFirst

/-- All letters but the first: each capital starts a word. -/
def hyphenated : List Char → List Char
  | [] => []
  | c :: cs =>
    if isAsciiUpper c then '-' :: asciiLower c :: hyphenated cs else asciiLower c :: hyphenated cs

def camelToHyphen : List Char → List Char
  | [] => []
  | c :: cs => asciiLower c :: hyphenated cs

/-- What follows the last dot, or the whole text without one. -/
def afterLastDot (cs : List Char) : List Char :=
  (cs.reverse.takeWhile (· ≠ '.')).reverse

/-- Line breaks replaced by another text. -/
def joinLines (sep cs : List Char) : List Char :=
  cs.flatMap fun c => if c = '\n' then sep else [c]

/-- A comment block with a star in front of every line. -/
def starLines (cs : List Char) : List Char :=
  ' ' :: '*' :: ' ' :: joinLines ['\n', ' ', '*', ' '] cs

end Scaffold.Text

import Scaffold.Text.CaseTables
import Scaffold.Text.CharClasses

/-!
# Upper and lower case

Case conversion of characters and texts. A character may grow into several. In a text, a
capital sigma that ends a word becomes the final form of the small letter.
-/

namespace Scaffold.Text

def isAsciiUpper (c : Char) : Bool := 'A' ≤ c && c ≤ 'Z'

def isAsciiLower (c : Char) : Bool := 'a' ≤ c && c ≤ 'z'

def asciiLower (c : Char) : Char :=
  if isAsciiUpper c then Char.ofNat (c.toNat + 32) else c

def asciiUpper (c : Char) : Char :=
  if isAsciiLower c then Char.ofNat (c.toNat - 32) else c

namespace CaseRun

def covers (r : CaseRun) (n : Nat) : Bool :=
  r.first ≤ n && n ≤ r.last && (n - r.first) % r.step == 0

def apply (r : CaseRun) (n : Nat) : Char :=
  Char.ofNat ((n : Int) + r.shift).toNat

end CaseRun

/-- Case form of a character beyond ASCII by two tables. -/
def caseForm (runs : List CaseRun) (sequences : List (Nat × List Nat)) (c : Char) : List Char :=
  match runs.find? (·.covers c.toNat) with
  | some r => [r.apply c.toNat]
  | none =>
    match sequences.find? (·.1 == c.toNat) with
    | some (_, form) => form.map Char.ofNat
    | none => [c]

def upperChar (c : Char) : List Char :=
  if c.toNat < 128 then [asciiUpper c] else caseForm upperRuns upperSequences c

def lowerChar (c : Char) : List Char :=
  if c.toNat < 128 then [asciiLower c] else caseForm lowerRuns lowerSequences c

def isCased (c : Char) : Bool :=
  isAsciiUpper c || isAsciiLower c || inRanges casedRanges c.toNat

def isCaseIgnorable (c : Char) : Bool :=
  if c.toNat < 128 then c == '\'' || c == '.' || c == ':' || c == '^' || c == '`'
  else inRanges caseIgnorableRanges c.toNat

def capitalSigma : Char := Char.ofNat 0x3A3

def smallSigma : Char := Char.ofNat 0x3C3

def finalSigma : Char := Char.ofNat 0x3C2

/-- Whether the first character that counts is a letter with case. -/
def startsCased (cs : List Char) : Bool :=
  match cs.dropWhile isCaseIgnorable with
  | c :: _ => isCased c
  | [] => false

/-- Lower case of a text; `before` holds the characters already passed, nearest first. -/
def lowerFrom (before : List Char) : List Char → List Char
  | [] => []
  | c :: cs =>
    let form :=
      if c = capitalSigma then
        [if startsCased before && !startsCased cs then finalSigma else smallSigma]
      else lowerChar c
    form ++ lowerFrom (c :: before) cs

def lower (cs : List Char) : List Char :=
  lowerFrom [] cs

def upper (cs : List Char) : List Char :=
  cs.flatMap upperChar

/-- Raise the first character. -/
def upperFirst : List Char → List Char
  | [] => []
  | c :: cs => upperChar c ++ cs

/-- Lower the first character. -/
def lowerFirst : List Char → List Char
  | [] => []
  | c :: cs => lowerChar c ++ cs

end Scaffold.Text

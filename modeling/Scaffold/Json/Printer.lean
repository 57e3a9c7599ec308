import Scaffold.Json.Basic
import Scaffold.Number.Layout
import Scaffold.Text.Quoted

/-!
# JSON text

Compact text without blanks, and text with one member or item a line under a given indent.
Only quotes, backslashes and control characters are escaped; an empty container stays closed.
-/

namespace Scaffold

namespace Number

/-- Integers in decimal, floating point values by their shortest digits. -/
def toChars : Number → List Char
  | int n => intDigits n
  | float x => x.layOut Layout.data

end Number

namespace Json

open Text in
def escapeChar (c : Char) : List Char :=
  if c = '"' then ['\\', '"']
  else if c = '\\' then ['\\', '\\']
  else if 32 ≤ c.toNat then [c]
  else if c = '\n' then ['\\', 'n']
  else if c = '\t' then ['\\', 't']
  else if c = '\r' then ['\\', 'r']
  else if c.toNat = 8 then ['\\', 'b']
  else if c.toNat = 12 then ['\\', 'f']
  else ['\\', 'u', '0', '0', hexDigit (c.toNat / 16), hexDigit (c.toNat % 16)]

def escape : List Char → List Char
  | [] => []
  | c :: cs => escapeChar c ++ escape cs

def quote (s : String) : List Char :=
  '"' :: (escape s.toList ++ ['"'])

def scalarChars : Json → List Char
  | bool true => ['t', 'r', 'u', 'e']
  | bool false => ['f', 'a', 'l', 's', 'e']
  | num n => n.toChars
  | str s => quote s
  | _ => ['n', 'u', 'l', 'l']

mutual

/-- Text without blanks. -/
def compactChars : Json → List Char
  | arr [] => ['[', ']']
  | arr (x :: xs) => '[' :: (compactChars x ++ compactItems xs)
  | obj [] => ['\x7b', '\x7d']
  | obj ((k, x) :: ms) => '\x7b' :: (quote k ++ ':' :: (compactChars x ++ compactMembers ms))
  | v => scalarChars v

def compactItems : List Json → List Char
  | [] => [']']
  | x :: xs => ',' :: (compactChars x ++ compactItems xs)

def compactMembers : List (String × Json) → List Char
  | [] => ['\x7d']
  | (k, x) :: ms => ',' :: (quote k ++ ':' :: (compactChars x ++ compactMembers ms))

end

/-- A line break and the indent of a depth. -/
def lineBreak (indent : List Char) (depth : Nat) : List Char :=
  '\n' :: (List.replicate depth indent).flatten

mutual

/-- Text with one item or member a line. -/
def prettyChars (indent : List Char) (depth : Nat) : Json → List Char
  | arr [] => ['[', ']']
  | arr (x :: xs) =>
    '[' :: (lineBreak indent (depth + 1) ++ prettyChars indent (depth + 1) x ++
      prettyItems indent depth xs)
  | obj [] => ['\x7b', '\x7d']
  | obj ((k, x) :: ms) =>
    '\x7b' :: (lineBreak indent (depth + 1) ++ quote k ++ ':' :: ' ' ::
      (prettyChars indent (depth + 1) x ++ prettyMembers indent depth ms))
  | v => scalarChars v

def prettyItems (indent : List Char) (depth : Nat) : List Json → List Char
  | [] => lineBreak indent depth ++ [']']
  | x :: xs =>
    ',' :: (lineBreak indent (depth + 1) ++ prettyChars indent (depth + 1) x ++
      prettyItems indent depth xs)

def prettyMembers (indent : List Char) (depth : Nat) : List (String × Json) → List Char
  | [] => lineBreak indent depth ++ ['\x7d']
  | (k, x) :: ms =>
    ',' :: (lineBreak indent (depth + 1) ++ quote k ++ ':' :: ' ' ::
      (prettyChars indent (depth + 1) x ++ prettyMembers indent depth ms))

end

def compact (v : Json) : String :=
  String.ofList v.compactChars

def pretty (indent : String) (v : Json) : String :=
  String.ofList (v.prettyChars indent.toList 0)

end Json

end Scaffold

import Scaffold.Text.CharClasses

/-!
# Quoted text for messages

A text is shown in messages between double quotes. Controls, quotes and backslashes are
escaped, and characters that cannot be seen are shown by their number.
-/

namespace Scaffold.Text

def hexDigit (n : Nat) : Char :=
  if n < 10 then Char.ofNat (48 + n) else Char.ofNat (87 + n)

def hexDigitsAux : Nat → Nat → List Char → List Char
  | 0, _, acc => acc
  | fuel + 1, n, acc =>
    if n < 16 then hexDigit n :: acc else hexDigitsAux fuel (n / 16) (hexDigit (n % 16) :: acc)

/-- Lower case hexadecimal digits. -/
def hexDigits (n : Nat) : List Char :=
  hexDigitsAux (Nat.log2 n + 1) n []

def isUnprintable (c : Char) : Bool :=
  if c.toNat < 128 then c.toNat < 32 || c.toNat == 127 else inRanges unprintableRanges c.toNat

/-- One character inside quotes; `single` asks for single quotes to be escaped too. -/
def quotedChar (single : Bool) (c : Char) : List Char :=
  if c = '\t' then ['\\', 't']
  else if c = '\n' then ['\\', 'n']
  else if c = '\r' then ['\\', 'r']
  else if c.toNat = 0 then ['\\', '0']
  else if c = '\\' then ['\\', '\\']
  else if c = '"' then ['\\', '"']
  else if c = '\'' && single then ['\\', '\'']
  else if isUnprintable c then ['\\', 'u', '\x7b'] ++ hexDigits c.toNat ++ ['\x7d']
  else [c]

/-- A text between double quotes. -/
def quoted (cs : List Char) : List Char :=
  '"' :: (cs.flatMap (quotedChar false) ++ ['"'])

/-- A path between double quotes; single quotes are escaped as well. -/
def quotedPath (cs : List Char) : List Char :=
  '"' :: (cs.flatMap (quotedChar true) ++ ['"'])

end Scaffold.Text

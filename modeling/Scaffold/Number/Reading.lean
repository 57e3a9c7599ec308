import Scaffold.Number.Shortest

/-!
# Reading decimal numbers

Decimal text, an optional sign and the words for infinity and the undefined value included, is
read as the nearest floating point value.
-/

namespace Scaffold

namespace Number

def digitValue? (c : Char) : Option Nat :=
  if '0' ≤ c ∧ c ≤ '9' then some (c.toNat - 48) else none

/-- The leading decimal digits as a number, how many there are, and what follows. -/
def takeDigits : List Char → Nat → Nat → Nat × Nat × List Char
  | [], acc, n => (acc, n, [])
  | c :: cs, acc, n =>
    match digitValue? c with
    | some d => takeDigits cs (10 * acc + d) (n + 1)
    | none => (acc, n, c :: cs)

/-- All of the text, read as decimal digits; at least one is needed. -/
def natOfDigits? (cs : List Char) : Option Nat :=
  match takeDigits cs 0 0 with
  | (n, k, []) => if k = 0 then none else some n
  | _ => none

def splitSign : List Char → Bool × List Char
  | '-' :: cs => (true, cs)
  | '+' :: cs => (false, cs)
  | cs => (false, cs)

/-- Decimal digits with an optional sign. -/
def intOfDigits? (cs : List Char) : Option Int :=
  match splitSign cs with
  | (neg, rest) => (natOfDigits? rest).map fun n => if neg then -(n : Int) else n

/-- An unsigned decimal with optional fraction and exponent, `1.`, `.5` and `1e5` included. -/
def decimal? (cs : List Char) : Option Decimal :=
  let (whole, n, rest) := takeDigits cs 0 0
  let (digits, places, rest) : Nat × Nat × List Char :=
    match rest with
    | '.' :: r =>
      let (d, k, r) := takeDigits r whole 0
      (d, k, r)
    | r => (whole, 0, r)
  if n + places = 0 then none
  else
    match rest with
    | [] => some ⟨digits, -(places : Int)⟩
    | c :: r =>
      if c = 'e' ∨ c = 'E' then
        (intOfDigits? r).map fun e => ⟨digits, e - places⟩
      else none

end Number

namespace Decimal

/-- The nearest floating point value. Far beyond either end of the range nothing is computed. -/
def toDouble (negative : Bool) (d : Decimal) : Double :=
  let size : Int := (Nat.log2 d.digits : Int) * 30103 / 100000 + d.exponent
  if d.digits = 0 then Double.zero negative
  else if 320 < size then Double.infinity negative
  else if size < -360 then Double.zero negative
  else if 0 ≤ d.exponent then Double.ofRatio negative (d.digits * 10 ^ d.exponent.toNat) 1
  else Double.ofRatio negative d.digits (10 ^ (-d.exponent).toNat)

end Decimal

namespace Double

def lowerAscii (c : Char) : Char :=
  if 'A' ≤ c ∧ c ≤ 'Z' then Char.ofNat (c.toNat + 32) else c

/-- Any decimal text, with a sign, `inf`, `infinity` or `nan` in any case. -/
def ofText? (cs : List Char) : Option Double :=
  match Number.splitSign cs with
  | (neg, rest) =>
    let word := rest.map lowerAscii
    if word = ['i', 'n', 'f'] ∨ word = ['i', 'n', 'f', 'i', 'n', 'i', 't', 'y'] then
      some (infinity neg)
    else if word = ['n', 'a', 'n'] then some (if neg then nan.negate else nan)
    else (Number.decimal? rest).map (·.toDouble neg)

end Double

end Scaffold

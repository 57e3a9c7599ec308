import Scaffold.Number.Shortest

/-!
# Number text

How the digits of a floating point value are laid out: which exponents are written in place,
how an exponent is marked, and how whole values end. A `Layout` records those choices.
-/

namespace Scaffold

/-- The choices of one way to write floating point values. -/
structure Layout where
  /-- Exponents from here on are written in place. -/
  leastInPlace : Int
  /-- Exponents below this are written in place. -/
  firstBeyond : Int
  /-- Whether a positive exponent carries a plus sign. -/
  plusSign : Bool
  /-- What ends a whole value written in place. -/
  wholeEnding : String

namespace Layout

/-- Data text: in place from `0.00001` up to sixteen digits, else `1e+16`. -/
def data : Layout := ⟨-5, 16, true, ".0"⟩

/-- Always in place. -/
def inPlace : Layout := ⟨-400, 400, false, ""⟩

/-- Always with an exponent, written `1.5e-7`. -/
def scientific : Layout := ⟨0, 0, false, ""⟩

end Layout

namespace Number

def digitChar (d : Nat) : Char :=
  Char.ofNat (48 + d % 10)

def natDigitsAux : Nat → Nat → List Char → List Char
  | 0, _, acc => acc
  | fuel + 1, n, acc =>
    if n < 10 then digitChar n :: acc else natDigitsAux fuel (n / 10) (digitChar n :: acc)

/-- Decimal digits of a natural number, `0` for zero. -/
def natDigits (n : Nat) : List Char :=
  natDigitsAux (Nat.log2 n + 1) n []

def intDigits (n : Int) : List Char :=
  if n < 0 then '-' :: natDigits n.natAbs else natDigits n.natAbs

def zeros (n : Nat) : List Char :=
  List.replicate n '0'

/-- Lay out digits whose first one has the weight `10 ^ k`. -/
def layDigits (layout : Layout) (ds : List Char) (k : Int) : List Char :=
  if layout.leastInPlace ≤ k ∧ k < layout.firstBeyond then
    if k < 0 then
      '0' :: '.' :: (zeros (-k - 1).toNat ++ ds)
    else
      let whole := k.toNat + 1
      if ds.length ≤ whole then
        ds ++ zeros (whole - ds.length) ++ layout.wholeEnding.toList
      else
        ds.take whole ++ '.' :: ds.drop whole
  else
    let sign := if k < 0 then ['-'] else if layout.plusSign then ['+'] else []
    let tail := if ds.tail.isEmpty then [] else '.' :: ds.tail
    ds.take 1 ++ tail ++ 'e' :: (sign ++ natDigits k.natAbs)

end Number

namespace Double

open Number in
/-- The text of a finite value in a layout. -/
def layOut (layout : Layout) (x : Double) : List Char :=
  let body :=
    if x.isZero then
      if layout.leastInPlace ≤ 0 ∧ 0 < layout.firstBeyond then '0' :: layout.wholeEnding.toList
      else ['0', 'e', '0']
    else
      let d := x.shortest
      let ds := natDigits d.digits
      layDigits layout ds (d.exponent + ds.length - 1)
  if x.negative then '-' :: body else body

end Double

end Scaffold

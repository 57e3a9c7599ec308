/-!
# Floating point values

A `Double` is a binary floating point number held as its sixty-four bits. Reading a ratio of
naturals rounds to the nearest value, ties to the even one, and comparison is exact: both go
through the magnitude `mantissa · 2 ^ exponent` in integer arithmetic.
-/

namespace Scaffold

-- powers of numbers are the plain ones, whatever algebra is known about numbers elsewhere
@[default_instance high]
instance (priority := high) natPower : Pow Nat Nat := instPowNat

@[default_instance high]
instance (priority := high) intPower : Pow Int Nat := instPowNat

/-- A binary floating point number, held as its sixty-four bits. -/
structure Double where
  bits : UInt64
deriving DecidableEq, Inhabited, Hashable

namespace Double

def negative (x : Double) : Bool :=
  0x8000000000000000 ≤ x.bits

def exponentField (x : Double) : Nat :=
  x.bits.toNat / 2 ^ 52 % 2 ^ 11

def fractionField (x : Double) : Nat :=
  x.bits.toNat % 2 ^ 52

def isNaN (x : Double) : Bool :=
  x.exponentField == 2047 && x.fractionField != 0

def isInfinite (x : Double) : Bool :=
  x.exponentField == 2047 && x.fractionField == 0

def isFinite (x : Double) : Bool :=
  x.exponentField != 2047

def isZero (x : Double) : Bool :=
  x.exponentField == 0 && x.fractionField == 0

/-- Neither zero, subnormal, infinite nor undefined. -/
def isNormal (x : Double) : Bool :=
  x.exponentField != 0 && x.exponentField != 2047

/-- The magnitude of a finite value is `mantissa · 2 ^ exponent`. -/
structure Magnitude where
  mantissa : Nat
  exponent : Int
deriving DecidableEq

def magnitude (x : Double) : Magnitude :=
  if x.exponentField = 0 then ⟨x.fractionField, -1074⟩
  else ⟨2 ^ 52 + x.fractionField, x.exponentField - 1075⟩

def ofSignAndBits (negative : Bool) (bits : Nat) : Double :=
  ⟨UInt64.ofNat (if negative then 2 ^ 63 + bits else bits)⟩

def zero (negative : Bool) : Double := ofSignAndBits negative 0

def infinity (negative : Bool) : Double := ofSignAndBits negative (2047 * 2 ^ 52)

def nan : Double := ⟨0x7ff8000000000000⟩

/-- `num / (den · 2 ^ k)`, as a numerator and a denominator. -/
def scaledRatio (num den : Nat) (k : Int) : Nat × Nat :=
  if 0 ≤ k then (num, den * 2 ^ k.toNat) else (num * 2 ^ (-k).toNat, den)

/-- The quotient to the nearest integer, a half going to the even neighbour. -/
def roundedQuotient (num den : Nat) : Nat :=
  let q := num / den
  let r := num % den
  if 2 * r < den then q
  else if den < 2 * r then q + 1
  else if q % 2 = 0 then q else q + 1

/-- The value nearest to `num / den`, a tie going to the even one. -/
def ofRatio (negative : Bool) (num den : Nat) : Double :=
  if num = 0 ∨ den = 0 then zero negative
  else
    let guess : Int := (Nat.log2 num : Int) - Nat.log2 den - 52
    let s := scaledRatio num den guess
    let k := max (if 2 ^ 52 * s.2 ≤ s.1 then guess else guess - 1) (-1074)
    let t := scaledRatio num den k
    let q := roundedQuotient t.1 t.2
    let body := if k = -1074 then q else (k + 1074).toNat * 2 ^ 52 + q
    if 2047 * 2 ^ 52 ≤ body then infinity negative else ofSignAndBits negative body

def ofInt (n : Int) : Double :=
  ofRatio (n < 0) n.natAbs 1

/-- The integer part and whether anything was cut off, of a finite value. -/
def truncated (x : Double) : Int × Bool :=
  let m := x.magnitude
  let cut : Nat × Bool :=
    if 0 ≤ m.exponent then (m.mantissa * 2 ^ m.exponent.toNat, false)
    else (m.mantissa / 2 ^ (-m.exponent).toNat, m.mantissa % 2 ^ (-m.exponent).toNat != 0)
  (if x.negative then -(cut.1 : Int) else cut.1, cut.2)

/-- The value as an integer, where it is one. -/
def toInt? (x : Double) : Option Int :=
  if x.isFinite then
    match x.truncated with
    | (n, false) => some n
    | (_, true) => none
  else none

/-- The signed mantissa and the exponent of a finite value. -/
def signedMagnitude (x : Double) : Int × Int :=
  let m := x.magnitude
  (if x.negative then -(m.mantissa : Int) else m.mantissa, m.exponent)

/-- Numerical order; undefined values compare with nothing, the two zeros are equal. -/
def compare? (x y : Double) : Option Ordering :=
  if x.isNaN || y.isNaN then none
  else if x.isInfinite || y.isInfinite then
    let rank (z : Double) : Int := if z.isInfinite then (if z.negative then -1 else 1) else 0
    some (compare (rank x) (rank y))
  else
    let a := x.signedMagnitude
    let b := y.signedMagnitude
    let e := min a.2 b.2
    some (compare (a.1 * 2 ^ (a.2 - e).toNat) (b.1 * 2 ^ (b.2 - e).toNat))

def sameValue (x y : Double) : Bool :=
  x.compare? y == some .eq

/-- Order between an integer and a floating point value, without rounding the integer. -/
def compareInt? (n : Int) (y : Double) : Option Ordering :=
  if y.isNaN then none
  else if y.isInfinite then some (if y.negative then .gt else .lt)
  else
    let b := y.signedMagnitude
    let e := min 0 b.2
    some (compare (n * 2 ^ (-e).toNat) (b.1 * 2 ^ (b.2 - e).toNat))

def negate (x : Double) : Double :=
  ⟨x.bits ^^^ 0x8000000000000000⟩

def toFloat (x : Double) : Float := Float.ofBits x.bits

def ofFloat (x : Float) : Double := ⟨x.toBits⟩

/-- The product, rounded to the nearest value; both factors finite. -/
def timesFinite (x y : Double) : Double :=
  let a := x.magnitude
  let b := y.magnitude
  let e := a.exponent + b.exponent
  let n := a.mantissa * b.mantissa
  let sign := x.negative != y.negative
  if 0 ≤ e then ofRatio sign (n * 2 ^ e.toNat) 1 else ofRatio sign n (2 ^ (-e).toNat)

/-- The quotient, rounded to the nearest value; both finite and the divisor not zero. -/
def dividedByFinite (x y : Double) : Double :=
  let a := x.magnitude
  let b := y.magnitude
  let e := a.exponent - b.exponent
  let sign := x.negative != y.negative
  if 0 ≤ e then ofRatio sign (a.mantissa * 2 ^ e.toNat) b.mantissa
  else ofRatio sign a.mantissa (b.mantissa * 2 ^ (-e).toNat)

end Double

end Scaffold

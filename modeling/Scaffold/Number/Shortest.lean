import Scaffold.Number.Double

/-!
# Shortest decimal digits

The decimal text of a finite value uses the fewest digits that still read back as that value.
For each count of digits, the two neighbours of the value on that decimal grid are tested
against the interval of reals that round to it; the first grid with a hit wins, and of two
hits the nearer.
-/

namespace Scaffold

/-- `digits · 10 ^ exponent`, the digits read as one natural number. -/
structure Decimal where
  digits : Nat
  exponent : Int
deriving DecidableEq

namespace Decimal

def dropZeros : Nat → Nat → Int → Decimal
  | 0, d, e => ⟨d, e⟩
  | fuel + 1, d, e => if d ≠ 0 ∧ d % 10 = 0 then dropZeros fuel (d / 10) (e + 1) else ⟨d, e⟩

/-- Without trailing zeros among the digits. -/
def normalized (d : Decimal) : Decimal :=
  dropZeros (Nat.log2 d.digits + 1) d.digits d.exponent

end Decimal

namespace Double

/-- The interval of reals that round to a value, all three numbers over one denominator. -/
structure Interval where
  low : Nat
  value : Nat
  high : Nat
  den : Nat
  closed : Bool

def interval (x : Double) : Interval :=
  let m := x.magnitude
  let gap := if m.mantissa = 2 ^ 52 ∧ m.exponent ≠ -1074 then 1 else 2
  let e := m.exponent - 2
  let scale := if 0 ≤ e then 2 ^ e.toNat else 1
  { low := (4 * m.mantissa - gap) * scale
    value := 4 * m.mantissa * scale
    high := (4 * m.mantissa + 2) * scale
    den := if 0 ≤ e then 1 else 2 ^ (-e).toNat
    closed := m.mantissa % 2 == 0 }

namespace Interval

def powTen (p : Int) : Nat × Nat :=
  if 0 ≤ p then (10 ^ p.toNat, 1) else (1, 10 ^ (-p).toNat)

/-- Whether `c · 10 ^ p` lies in the interval. -/
def contains (i : Interval) (c : Nat) (p : Int) : Bool :=
  let s := powTen p
  let x := c * s.1 * i.den
  if i.closed then i.low * s.2 ≤ x && x ≤ i.high * s.2
  else i.low * s.2 < x && x < i.high * s.2

/-- The largest multiple of `10 ^ p` not above the value. -/
def below (i : Interval) (p : Int) : Nat :=
  let s := powTen p
  i.value * s.2 / (s.1 * i.den)

/-- Whether `c · 10 ^ p` is nearer to the value than the next multiple; a tie goes to even. -/
def prefersLower (i : Interval) (c : Nat) (p : Int) : Bool :=
  let s := powTen p
  let down := i.value * s.2 - c * s.1 * i.den
  let up := (c + 1) * s.1 * i.den - i.value * s.2
  down < up || (down == up && c % 2 == 0)

def onGrid (i : Interval) (p : Int) : Option Nat :=
  let c := i.below p
  match i.contains c p, i.contains (c + 1) p with
  | true, true => some (if i.prefersLower c p then c else c + 1)
  | true, false => some c
  | false, true => some (c + 1)
  | false, false => none

/-- The exponent `k` with `10 ^ k ≤ value < 10 ^ (k + 1)`, searched from a guess near it. -/
def leadingExponent (i : Interval) : Nat → Int → Int
  | 0, k => k
  | fuel + 1, k =>
    if i.below k = 0 then i.leadingExponent fuel (k - 1)
    else if 10 ≤ i.below k then i.leadingExponent fuel (k + 1)
    else k

def searchGrid (i : Interval) (k : Int) : Nat → Int → Decimal
  | 0, p => ⟨i.below p, p⟩
  | fuel + 1, p =>
    match i.onGrid p with
    | some c => ⟨c, p⟩
    | none => i.searchGrid k fuel (p - 1)

end Interval

/-- The shortest decimal that reads back as the magnitude of a finite value other than zero. -/
def shortest (x : Double) : Decimal :=
  let i := x.interval
  let bits : Int := (Nat.log2 i.value : Int) - Nat.log2 i.den
  let k := i.leadingExponent 4 (bits * 30103 / 100000)
  (i.searchGrid k 17 k).normalized

end Double

end Scaffold

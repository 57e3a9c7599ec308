import Scaffold.Script.Syntax
import Scaffold.Text.Segment

/-!
# Operators

What operators make of values. Whole numbers do not overflow but fail, strings take anything to
their ends, and values of different kinds are never equal and in no order, except numbers.
-/

namespace Scaffold.Script

namespace Limits

/-- Bytes of a string. -/
def text : Nat := 4 * 1024 * 1024

/-- Items of an array and members of a map. -/
def items : Nat := 100000

end Limits

namespace Value

/-- A string, unless it is too long. -/
def ofText? (s : String) : Option Value :=
  if s.utf8ByteSize ≤ Limits.text then some (str s) else none

def ofArray? (xs : Array Value) : Option Value :=
  if xs.size ≤ Limits.items then some (array xs) else none

def ofMembers? (ms : List (String × Value)) : Option Value :=
  if ms.length ≤ Limits.items then some (map ms) else none

end Value

namespace Operator

/-! ## Floating point -/

def onFloats (f : Float → Float → Float) (x y : Double) : Value :=
  .float (Double.ofFloat (f x.toFloat y.toFloat))

/-- The remainder of a division towards zero, exact; it has the sign of the dividend. -/
def floatRemainder (x y : Double) : Double :=
  if x.isNaN || y.isNaN || x.isInfinite || y.isZero then Double.nan
  else if y.isInfinite || x.isZero then x
  else
    let a := x.magnitude
    let b := y.magnitude
    let e := min a.exponent b.exponent
    let m := a.mantissa * 2 ^ (a.exponent - e).toNat
    let n := b.mantissa * 2 ^ (b.exponent - e).toNat
    let r := m % n
    if 0 ≤ e then Double.ofRatio x.negative (r * 2 ^ e.toNat) 1
    else Double.ofRatio x.negative r (2 ^ (-e).toNat)

/-! ## Arithmetic -/

/-- A pair of numbers of which at least one is a floating point value. -/
def floats? : Value → Value → Option (Double × Double)
  | .float x, .float y => some (x, y)
  | .float x, .int b => some (x, Double.ofInt b)
  | .int a, .float y => some (Double.ofInt a, y)
  | _, _ => none

def isText : Value → Bool
  | .str _ => true
  | .char _ => true
  | _ => false

def isString : Value → Bool
  | .str _ => true
  | _ => false

def add (a b : Value) : Option Value :=
  match a, b with
  | .int m, .int n => Value.ofInt? (m + n)
  | .array xs, .array ys => Value.ofArray? (xs ++ ys)
  | .map ms, .map ns => Value.ofMembers? (Entries.merge ms ns)
  | _, _ =>
    match floats? a b with
    | some (x, y) => some (onFloats (· + ·) x y)
    | none =>
      if isString a || isString b || (isText a && isText b) then Value.ofText? (a.text ++ b.text)
      else none

/-- Whole numbers, strings without the occurrences of another, and other numbers. -/
def sub (a b : Value) : Option Value :=
  match a, b with
  | .int m, .int n => Value.ofInt? (m - n)
  | .str s, .str t => some (.str (String.ofList (Text.replace t.toList [] s.toList)))
  | .str s, .char c => some (.str (String.ofList (s.toList.filter (· ≠ c))))
  | _, _ => (floats? a b).map fun (x, y) => onFloats (· - ·) x y

def mul (a b : Value) : Option Value :=
  match a, b with
  | .int m, .int n => Value.ofInt? (m * n)
  | _, _ => (floats? a b).map fun (x, y) => onFloats (· * ·) x y

def div (a b : Value) : Option Value :=
  match a, b with
  | .int m, .int n => if n = 0 then none else Value.ofInt? (m.tdiv n)
  | _, _ => (floats? a b).map fun (x, y) => onFloats (· / ·) x y

def rem (a b : Value) : Option Value :=
  match a, b with
  | .int m, .int n => if n = 0 ∨ (m = Value.minInt ∧ n = -1) then none else some (.int (m.tmod n))
  | _, _ => (floats? a b).map fun (x, y) => .float (floatRemainder x y)

/-- A power of a whole number, if sixty-four bits hold it. -/
def intPower (m n : Int) : Option Value :=
  if n < 0 then none
  else if m = 0 ∨ m = 1 then some (.int (if n = 0 then 1 else m))
  else if m = -1 then some (.int (if n % 2 = 0 then 1 else -1))
  else if 64 ≤ n then none
  else Value.ofInt? (m ^ n.toNat)

def pow (a b : Value) : Option Value :=
  match a, b with
  | .int m, .int n => intPower m n
  | _, _ => (floats? a b).map fun (x, y) => onFloats Float.pow x y

/-- A whole number of sixty-four bits with the given lowest bits. -/
def wrapped (n : Int) : Int :=
  Int.bmod n (2 ^ 64)

def shiftLeft (m : Int) (n : Nat) : Int :=
  if 64 ≤ n then 0 else wrapped (m * 2 ^ n)

def shiftRight (m : Int) (n : Nat) : Int :=
  if 64 ≤ n then (if m < 0 then -1 else 0) else m.fdiv (2 ^ n)

def shl (a b : Value) : Option Value :=
  match a, b with
  | .int m, .int n =>
    some (.int (if n < 0 then shiftRight m n.natAbs else shiftLeft m n.natAbs))
  | _, _ => none

def shr (a b : Value) : Option Value :=
  match a, b with
  | .int m, .int n =>
    some (.int (if n < 0 then shiftLeft m n.natAbs else shiftRight m n.natAbs))
  | _, _ => none

def onBits (f : Nat → Nat → Nat) (m n : Int) : Value :=
  .int (wrapped (f (m % 2 ^ 64).toNat (n % 2 ^ 64).toNat))

def bitAnd (a b : Value) : Option Value :=
  match a, b with
  | .int m, .int n => some (onBits (· &&& ·) m n)
  | .bool p, .bool q => some (.bool (p && q))
  | _, _ => none

def bitOr (a b : Value) : Option Value :=
  match a, b with
  | .int m, .int n => some (onBits (· ||| ·) m n)
  | .bool p, .bool q => some (.bool (p || q))
  | _, _ => none

def xor (a b : Value) : Option Value :=
  match a, b with
  | .int m, .int n => some (onBits (· ^^^ ·) m n)
  | .bool p, .bool q => some (.bool (p != q))
  | _, _ => none

/-! ## Comparison -/

/-- Order of two values of one kind that has an order, and of numbers. -/
def order? (a b : Value) : Option (Option Ordering) :=
  match a, b with
  | .int m, .int n => some (some (compare m n))
  | .bool p, .bool q => some (some (compare p.toNat q.toNat))
  | .unit, .unit => some (some .eq)
  | _, _ =>
    if isText a && isText b then some (some (compare a.text b.text))
    else
      match floats? a b with
      | some (x, y) => some (x.compare? y)
      | none => none

def equal (a b : Value) : Bool :=
  if isText a && isText b then a.text == b.text else Value.same a b

/-- Compare by order. Values of one kind without an order cannot be compared; values of different
kinds just are in no order. -/
def ordered (test : Ordering → Bool) (a b : Value) : Option Value :=
  match order? a b with
  | some o => some (.bool (o.any test))
  | none => if a.typeName = b.typeName then none else some (.bool false)

/-- Whether a container holds a value, for the containers that can tell. -/
def contains (container item : Value) : Option Bool :=
  match container, item with
  | .array xs, v => some (xs.any (equal v))
  | .map ms, .str k => some (Entries.find? k ms).isSome
  | .str s, .str t => some (Text.occurs t.toList s.toList)
  | .str s, .char c => some (s.toList.contains c)
  | .range a b closed, .int n => some (a ≤ n && (if closed then n ≤ b else n < b))
  | _, _ => none

def range? (closed : Bool) (a b : Value) : Option Value :=
  match a, b with
  | .int m, .int n => some (.range m n closed)
  | _, _ => none

/-- An operator on two values; `none` where it is not for them. -/
def apply (op : Op) (a b : Value) : Option Value :=
  match op with
  | .add => add a b
  | .sub => sub a b
  | .mul => mul a b
  | .div => div a b
  | .rem => rem a b
  | .pow => pow a b
  | .shl => shl a b
  | .shr => shr a b
  | .eq => some (.bool (equal a b))
  | .ne => some (.bool !(equal a b))
  | .lt => ordered (· == .lt) a b
  | .le => ordered (· != .gt) a b
  | .gt => ordered (· == .gt) a b
  | .ge => ordered (· != .lt) a b
  | .bitAnd => bitAnd a b
  | .bitOr => bitOr a b
  | .xor => xor a b
  | .isIn => (contains b a).map .bool
  | .notIn => (contains b a).map fun r => .bool !r
  | .upTo => range? false a b
  | .through => range? true a b
  | .both => none
  | .either => none
  | .orElse => none

/-- The operator of an assignment, which also puts a value at the end of an array. -/
def applyAssigning (op : Op) (a b : Value) : Option Value :=
  match op, a, b with
  | .add, .array xs, .array ys => Value.ofArray? (xs ++ ys)
  | .add, .array xs, v => Value.ofArray? (xs.push v)
  | _, _, _ => apply op a b

def applyUnary (op : UnaryOp) (a : Value) : Option Value :=
  match op, a with
  | .neg, .int n => Value.ofInt? (-n)
  | .neg, .float x => some (.float x.negate)
  | .plus, .int n => some (.int n)
  | .plus, .float x => some (.float x)
  | .not, .bool b => some (.bool !b)
  | _, _ => none

end Operator

end Scaffold.Script

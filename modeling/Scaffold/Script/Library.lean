import Scaffold.Script.Operator
import Scaffold.Number.Reading
import Scaffold.Text.Blank
import Scaffold.Text.Case

/-!
# Script library

Functions of values, all of which can be written as methods. A method may change the value it is
called on, so every function gives back that value along with its result; `none` stands for a
failure, and also for a function that does not take values of these kinds. Positions count from
the end where they are negative.
-/

namespace Scaffold.Script.Library

/-- The value that a function is called on, afterwards, and its result. -/
abbrev Outcome := Option (Value × Value)

def pure_ (self result : Value) : Outcome := some (self, result)

def changed (self : Value) : Outcome := some (self, .unit)

def changed? (self : Option Value) : Outcome := self.map fun v => (v, .unit)

/-! ## Positions -/

/-- A position from either end, held inside of what is there. -/
def clamped (length : Nat) (start : Int) : Nat :=
  if start < 0 then length - start.natAbs else min start.toNat length

/-- A position and a count, held inside of what is there. -/
def clampedSpan (length : Nat) (start count : Int) : Nat × Nat :=
  let first := clamped length start
  (first, if count ≤ 0 then 0 else min count.toNat (length - first))

/-- A position from either end, if something is there. -/
def position? (length : Nat) (index : Int) : Option Nat :=
  if index < 0 then
    if index.natAbs ≤ length then some (length - index.natAbs) else none
  else if index.toNat < length then some index.toNat
  else none

/-- The start and the count of a range. It never starts before the first position, and never ends
before it starts; a closed one holds its end. -/
def spanOf (first last : Int) (closed : Bool) : Int × Int :=
  let start := max first 0
  let stop := max last start
  (start, if closed then stop - start + 1 else stop - start)

/-! ## Strings -/

def ofChars (cs : List Char) : Value := .str (String.ofList cs)

/-- Characters of a string from a position on. -/
def subText (cs : List Char) (start count : Int) : List Char :=
  if count ≤ 0 ∨ (0 ≤ start ∧ cs.length ≤ start.toNat) then []
  else
    let span := clampedSpan cs.length start count
    (cs.drop span.1).take span.2

def textChars? : Value → Option (List Char)
  | .str s => some s.toList
  | .char c => some [c]
  | _ => none

def string? : Value → Option (List Char)
  | .str s => some s.toList
  | _ => none

/-- Where a part begins, from a position on. -/
def indexFrom (part : List Char) (at_ : Nat) : List Char → Option Nat
  | [] => if part.isEmpty then some at_ else none
  | c :: cs =>
    match Text.afterPrefix? part (c :: cs) with
    | some _ => some at_
    | none => indexFrom part (at_ + 1) cs

def foundAt (i : Option Nat) : Value := .int (i.elim (-1) fun n => n)

/-- Every occurrence replaced; nothing occurs around every character. -/
def replaceAll (old new cs : List Char) : List Char :=
  if old.isEmpty then new ++ cs.flatMap fun c => c :: new else Text.replace old new cs

/-- Pieces between the occurrences of a separator, at most `limit` of them. -/
def splitText (sep : List Char) : Nat → List Char → List Char → Nat → List (List Char)
  | 0, piece, cs, _ => [piece.reverse ++ cs]
  | _ + 1, piece, [], _ => [piece.reverse]
  | fuel + 1, piece, c :: cs, limit =>
    if limit ≤ 1 then [piece.reverse ++ c :: cs]
    else
      match Text.afterPrefix? sep (c :: cs) with
      | some rest => piece.reverse :: splitText sep fuel [] rest (limit - 1)
      | none => splitText sep fuel (c :: piece) cs limit

/-- Pieces of a text; without a separator its characters with nothing at either end. -/
def splitPieces (sep cs : List Char) (limit : Nat) : List (List Char) :=
  if sep.isEmpty then [] :: (cs.map fun c => [c]) ++ [[]]
  else splitText sep (cs.length + 1) [] cs limit

/-- Words between white space. -/
def wordsOf (cs : List Char) : List (List Char) :=
  (Text.splitBy Text.isBlank cs).filter fun w => !w.isEmpty

def ofPieces (pieces : List (List Char)) : Value :=
  .array (pieces.map ofChars).toArray

def padText (cs : List Char) (length : Int) (filler : List Char) : Option (List Char) :=
  if Limits.text < length.toNat then none
  else if filler.isEmpty then some cs
  else
    let missing := length.toNat - cs.length
    let repeats := missing / filler.length + 1
    some (cs ++ ((List.replicate repeats filler).flatten.take missing))

def digitValue? (c : Char) (radix : Nat) : Option Nat :=
  let n :=
    if '0' ≤ c ∧ c ≤ '9' then c.toNat - 48
    else if 'a' ≤ c ∧ c ≤ 'z' then c.toNat - 87
    else if 'A' ≤ c ∧ c ≤ 'Z' then c.toNat - 55
    else radix
  if n < radix then some n else none

/-- A whole number in a radix, with a sign. -/
def parseInt? (radix : Nat) (cs : List Char) : Option Value :=
  let (neg, digits) := Number.splitSign (Text.trim cs)
  if digits.isEmpty then none
  else
    let n? := digits.foldl (fun n? c =>
      n?.bind fun n => (digitValue? c radix).map fun d => n * radix + d) (some 0)
    n?.bind fun n => Value.ofInt? (if neg then -(n : Int) else n)

def radixDigitsAux (radix : Nat) : Nat → Nat → List Char → List Char
  | 0, _, acc => acc
  | fuel + 1, n, acc =>
    if n < radix then Text.hexDigit n :: acc
    else radixDigitsAux radix fuel (n / radix) (Text.hexDigit (n % radix) :: acc)

/-- The sixty-four bits of a whole number in a radix. -/
def radixText (radix : Nat) (n : Int) : Value :=
  ofChars (radixDigitsAux radix 65 (n % 2 ^ 64).toNat [])

/-- Functions of strings. -/
def onString (name : String) (cs : List Char) (args : List Value) : Outcome :=
  let self := ofChars cs
  match name, args with
  | "len", [] => pure_ self (.int cs.length)
  | "is_empty", [] => pure_ self (.bool cs.isEmpty)
  | "bytes", [] => pure_ self (.int (String.ofList cs).utf8ByteSize)
  | "to_upper", [] => pure_ self (ofChars (Text.upper cs))
  | "to_lower", [] => pure_ self (ofChars (Text.lower cs))
  | "make_upper", [] => changed (ofChars (Text.upper cs))
  | "make_lower", [] => changed (ofChars (Text.lower cs))
  | "trim", [] => changed (ofChars (Text.trim cs))
  | "clear", [] => changed (.str "")
  | "to_chars", [] => pure_ self (.array (cs.map Value.char).toArray)
  | "chars", [] => pure_ self (.array (cs.map Value.char).toArray)
  | "split", [] => pure_ self (ofPieces (wordsOf cs))
  | "pop", [] =>
    match cs.getLast? with
    | some c => some (ofChars cs.dropLast, .char c)
    | none => pure_ self .unit
  | "pop", [.int n] =>
    let kept := cs.length - n.toNat
    some (ofChars (cs.take kept), ofChars (cs.drop kept))
  | "truncate", [.int n] => changed (ofChars (cs.take n.toNat))
  | "contains", [v] => (Operator.contains self v).map fun b => (self, .bool b)
  | "starts_with", [v] =>
    (string? v).map fun t => (self, .bool (Text.afterPrefix? t cs).isSome)
  | "ends_with", [v] => (string? v).map fun t => (self, .bool (Text.endsWith t cs))
  | "index_of", [v] =>
    (textChars? v).map fun t => (self, foundAt (if cs.isEmpty then none else indexFrom t 0 cs))
  | "index_of", [v, .int start] =>
    (textChars? v).map fun t =>
      let first := clamped cs.length start
      (self, foundAt (if 0 ≤ start ∧ cs.length ≤ start.toNat then none
        else indexFrom t first (cs.drop first)))
  | "sub_string", [.int start] => pure_ self (ofChars (subText cs start cs.length))
  | "sub_string", [.int start, .int count] => pure_ self (ofChars (subText cs start count))
  | "sub_string", [.range a b closed] =>
    let span := spanOf a b closed
    pure_ self (ofChars (subText cs span.1 span.2))
  | "crop", [.int start] => changed (ofChars (subText cs start cs.length))
  | "crop", [.int start, .int count] => changed (ofChars (subText cs start count))
  | "crop", [.range a b closed] =>
    let span := spanOf a b closed
    changed (ofChars (subText cs span.1 span.2))
  | "replace", [a, b] =>
    match textChars? a, textChars? b with
    | some old, some new =>
      if cs.isEmpty then changed self
      else changed? (Value.ofText? (String.ofList (replaceAll old new cs)))
    | _, _ => none
  | "remove", [v] => (textChars? v).map fun t => (ofChars (replaceAll t [] cs), .unit)
  | "append", [v] => changed? (Value.ofText? (String.ofList cs ++ v.text))
  | "pad", [.int n, v] =>
    (textChars? v).bind fun t => (padText cs n t).bind fun padded =>
      changed? (Value.ofText? (String.ofList padded))
  | "split", [.int n] =>
    let i := clamped cs.length n
    pure_ self (ofPieces [cs.take i, cs.drop i])
  | "split", [v] => (textChars? v).map fun t => (self, ofPieces (splitPieces t cs (cs.length + 2)))
  | "split", [v, .int n] =>
    (textChars? v).map fun t => (self, ofPieces (splitPieces t cs (max n 1).toNat))
  | "split_rev", [v] =>
    (textChars? v).map fun t => (self, ofPieces (splitPieces t cs (cs.length + 2)).reverse)
  | "get", [.int i] =>
    pure_ self (((position? cs.length i).bind fun n => cs[n]?).elim .unit Value.char)
  | "set", [.int i, .char c] =>
    changed (((position? cs.length i).map fun n => ofChars (cs.set n c)).getD self)
  | "min", [.str t] => pure_ self (if compare (String.ofList cs) t == .gt then .str t else self)
  | "max", [.str t] => pure_ self (if compare (String.ofList cs) t == .lt then .str t else self)
  | "parse_int", [] => (parseInt? 10 cs).map fun v => (self, v)
  | "parse_int", [.int radix] =>
    if 2 ≤ radix ∧ radix ≤ 36 then (parseInt? radix.toNat cs).map fun v => (self, v) else none
  | "parse_float", [] => (Double.ofText? (Text.trim cs)).map fun x => (self, .float x)
  | _, _ => none

def onChar (name : String) (c : Char) (args : List Value) : Outcome :=
  let self := Value.char c
  let single (cs : List Char) : Value :=
    match cs with
    | [d] => .char d
    | _ => self
  match name, args with
  | "to_upper", [] => pure_ self (single (Text.upperChar c))
  | "to_lower", [] => pure_ self (single (Text.lowerChar c))
  | "make_upper", [] => changed (single (Text.upperChar c))
  | "make_lower", [] => changed (single (Text.lowerChar c))
  | "to_int", [] => pure_ self (.int c.toNat)
  | _, _ => none

/-! ## Arrays -/

/-- Values without those that equal the one in front. -/
def withoutRepeats : List Value → List Value
  | [] => []
  | [x] => [x]
  | x :: y :: rest =>
    if Operator.equal x y then withoutRepeats (x :: rest) else x :: withoutRepeats (y :: rest)

def sortable (kind : String) : Bool :=
  ["i64", "f64", "string", "char", "bool"].contains kind

def notAfter (a b : Value) : Bool :=
  match Operator.order? a b with
  | some (some .gt) => false
  | _ => true

/-- Values of one kind in order. -/
def sorted? (xs : Array Value) : Option (Array Value) :=
  match xs[0]? with
  | none => some xs
  | some x =>
    if xs.size ≤ 1 then some xs
    else if sortable x.typeName && xs.all (fun y => y.typeName == x.typeName) then
      some (xs.toList.mergeSort notAfter).toArray
    else none

def indexOfValue (v : Value) (first : Nat) (xs : Array Value) : Option Nat :=
  (xs.toList.drop first).findIdx? (Operator.equal v) |>.map (· + first)

/-- Items inside of a span, and those outside of it. -/
def cutOut (xs : Array Value) (start count : Int) : Value × Value :=
  let span := clampedSpan xs.size start count
  (.array (xs.extract span.1 (span.1 + span.2)),
    .array (xs.extract 0 span.1 ++ xs.extract (span.1 + span.2) xs.size))

/-- Put other items in the place of a span. -/
def splice (xs : Array Value) (start count : Int) (ys : Array Value) : Outcome :=
  let span := clampedSpan xs.size start count
  changed? (Value.ofArray?
    (xs.extract 0 span.1 ++ ys ++ xs.extract (span.1 + span.2) xs.size))

/-- Functions of arrays. -/
def onArray (name : String) (xs : Array Value) (args : List Value) : Outcome :=
  let self := Value.array xs
  match name, args with
  | "len", [] => pure_ self (.int xs.size)
  | "is_empty", [] => pure_ self (.bool xs.isEmpty)
  | "push", [v] => changed? (Value.ofArray? (xs.push v))
  | "append", [.array ys] => changed? (Value.ofArray? (xs ++ ys))
  | "insert", [.int i, v] =>
    let n := clamped xs.size i
    changed? (Value.ofArray? (xs.toList.take n ++ v :: xs.toList.drop n).toArray)
  | "pad", [.int n, v] =>
    if Limits.items < n.toNat then none
    else changed (.array (xs ++ Array.replicate (n.toNat - xs.size) v))
  | "pop", [] =>
    match xs.back? with
    | some v => some (.array xs.pop, v)
    | none => pure_ self .unit
  | "shift", [] =>
    match xs[0]? with
    | some v => some (.array (xs.extract 1 xs.size), v)
    | none => pure_ self .unit
  | "remove", [.int i] =>
    match position? xs.size i with
    | some n =>
      some (.array (xs.toList.eraseIdx n).toArray, xs[n]?.getD .unit)
    | none => pure_ self .unit
  | "clear", [] => changed (.array #[])
  | "truncate", [.int n] => changed (.array (xs.extract 0 n.toNat))
  | "chop", [.int n] => changed (.array (xs.extract (xs.size - n.toNat) xs.size))
  | "reverse", [] => changed (.array xs.reverse)
  | "extract", [.int start] =>
    pure_ self (.array (xs.extract (clamped xs.size start) xs.size))
  | "extract", [.int start, .int count] =>
    let span := clampedSpan xs.size start count
    pure_ self (.array (xs.extract span.1 (span.1 + span.2)))
  | "extract", [.range a b closed] =>
    let s := spanOf a b closed
    let span := clampedSpan xs.size s.1 s.2
    pure_ self (.array (xs.extract span.1 (span.1 + span.2)))
  | "splice", [.int start, .int count, .array ys] => splice xs start count ys
  | "splice", [.range a b closed, .array ys] =>
    let s := spanOf a b closed
    splice xs s.1 s.2 ys
  | "split", [.int i] =>
    let n := clamped xs.size i
    some (.array (xs.extract 0 n), .array (xs.extract n xs.size))
  | "drain", [.int start, .int count] =>
    let (inside, outside) := cutOut xs start count
    some (outside, inside)
  | "drain", [.range a b closed] =>
    let s := spanOf a b closed
    let (inside, outside) := cutOut xs s.1 s.2
    some (outside, inside)
  | "retain", [.int start, .int count] => some (cutOut xs start count)
  | "retain", [.range a b closed] =>
    let s := spanOf a b closed
    some (cutOut xs s.1 s.2)
  | "dedup", [] => changed (.array (withoutRepeats xs.toList).toArray)
  | "sort", [] => changed? ((sorted? xs).map Value.array)
  | "sort_desc", [] => changed? ((sorted? xs).map fun ys => .array ys.reverse)
  | "order", [] => (sorted? xs).map fun ys => (self, .array ys)
  | "order_desc", [] => (sorted? xs).map fun ys => (self, .array ys.reverse)
  | "contains", [v] => pure_ self (.bool (xs.any (Operator.equal v)))
  | "index_of", [.named _ _] => none
  | "index_of", [.closure _ _ _] => none
  | "index_of", [v] => pure_ self (foundAt (indexOfValue v 0 xs))
  | "index_of", [v, .int start] =>
    pure_ self (foundAt (indexOfValue v (clamped xs.size start) xs))
  | "get", [.int i] => pure_ self (((position? xs.size i).bind fun n => xs[n]?).getD .unit)
  | "set", [.int i, v] =>
    (position? xs.size i).map fun n => (.array (xs.setIfInBounds n v), .unit)
  | _, _ => none

/-! ## Maps -/

/-- How a value that is no map is written among the members of one. -/
def plainJsonText (v : Value) : String :=
  if v.isUnit then "null" else v.debugText

mutual

/-- The text of a map with its members between braces, and so for the maps right inside. -/
def jsonText (ms : List (String × Value)) : String :=
  "\x7b" ++ jsonMembers ms ++ "\x7d"

def jsonMembers : List (String × Value) → String
  | [] => ""
  | [(k, v)] => jsonMember k v
  | (k, v) :: rest => jsonMember k v ++ "," ++ jsonMembers rest

def jsonMember (k : String) : Value → String
  | .map ms => String.ofList (Text.quoted k.toList) ++ ":\x7b" ++ jsonMembers ms ++ "\x7d"
  | v => String.ofList (Text.quoted k.toList) ++ ":" ++ plainJsonText v

end

/-- Functions of maps. -/
def onMap (name : String) (ms : List (String × Value)) (args : List Value) : Outcome :=
  let self := Value.map ms
  match name, args with
  | "len", [] => pure_ self (.int ms.length)
  | "is_empty", [] => pure_ self (.bool ms.isEmpty)
  | "contains", [.str k] => pure_ self (.bool (Entries.find? k ms).isSome)
  | "get", [.str k] => pure_ self ((Entries.find? k ms).getD .unit)
  | "set", [.str k, v] => changed? (Value.ofMembers? (Entries.insert k v ms))
  | "clear", [] => changed (.map [])
  | "remove", [.str k] =>
    some (.map (Entries.erase k ms), (Entries.find? k ms).getD .unit)
  | "mixin", [.map ns] => changed? (Value.ofMembers? (Entries.merge ms ns))
  | "fill_with", [.map ns] => changed? (Value.ofMembers? (Entries.merge ns ms))
  | "to_json", [] => pure_ self (.str (jsonText ms))
  | "keys", [] => pure_ self (.array (ms.map fun m => .str m.1).toArray)
  | "values", [] => pure_ self (.array (ms.map (·.2)).toArray)
  | _, _ => none

/-! ## Numbers -/

def whole (x : Double) : Value :=
  .float (if x.isFinite then
    let n := x.truncated.1
    if n = 0 then Double.zero x.negative else Double.ofInt n
  else x)

def onFloat1 (f : Float → Float) (x : Double) : Value :=
  .float (Double.ofFloat (f x.toFloat))

/-- A floating point value as a whole number. The power of two next above them still counts as
the largest one, and what is no number as zero. -/
def floatToInt? (x : Double) : Option Value :=
  if x.isNaN then some (.int 0)
  else if x.isInfinite then none
  else
    let n := x.truncated.1
    if n = Value.maxInt + 1 then some (.int Value.maxInt) else Value.ofInt? n

def signOf (n : Int) : Value := .int (compare n 0 |> fun o => match o with
  | .lt => -1
  | .eq => 0
  | .gt => 1)

def smaller (a b : Value) : Option Value :=
  match Operator.floats? a b, a, b with
  | some (x, y), _, _ => some (.float (if y.isNaN || x.compare? y == some .lt then x else y))
  | none, .int m, .int n => some (.int (min m n))
  | _, _, _ => none

def larger (a b : Value) : Option Value :=
  match Operator.floats? a b, a, b with
  | some (x, y), _, _ => some (.float (if y.isNaN || x.compare? y == some .gt then x else y))
  | none, .int m, .int n => some (.int (max m n))
  | _, _, _ => none

/-- Numbers from one on towards another that is not among them, in steps. -/
def steps (first last step : Int) : Outcome :=
  if step = 0 then none
  else
    let count : Nat := (Int.fdiv (last - first + step - step.sign) step).toNat
    if Limits.items < count then none
    else
      let number (i : Nat) : Value := .int (first + step * i)
      pure_ (.int first) (.array ((List.range count).map number).toArray)

/-- Functions of whole numbers. -/
def onInt (name : String) (n : Int) (args : List Value) : Outcome :=
  let self := Value.int n
  match name, args with
  | "range", [.int last] => pure_ self (.range n last false)
  | "range", [.int last, .int step] => steps n last step
  | "abs", [] => (Value.ofInt? n.natAbs).map fun v => (self, v)
  | "sign", [] => pure_ self (signOf n)
  | "is_zero", [] => pure_ self (.bool (n == 0))
  | "is_odd", [] => pure_ self (.bool (n % 2 == 1))
  | "is_even", [] => pure_ self (.bool (n % 2 == 0))
  | "to_float", [] => pure_ self (.float (Double.ofInt n))
  | "to_int", [] => pure_ self self
  | "min", [v] => (smaller self v).map fun r => (self, r)
  | "max", [v] => (larger self v).map fun r => (self, r)
  | "to_hex", [] => pure_ self (radixText 16 n)
  | "to_octal", [] => pure_ self (radixText 8 n)
  | "to_binary", [] => pure_ self (radixText 2 n)
  | "to_char", [] =>
    if 0 ≤ n ∧ n < 0x110000 ∧ ¬(0xD800 ≤ n ∧ n < 0xE000) then
      pure_ self (.char (Char.ofNat n.toNat))
    else none
  | _, _ => none

/-- Functions of floating point values. -/
def onFloat (name : String) (x : Double) (args : List Value) : Outcome :=
  let self := Value.float x
  let via (f : Float → Float) : Outcome := pure_ self (onFloat1 f x)
  match name, args with
  | "abs", [] => pure_ self (.float (if x.negative then x.negate else x))
  | "sign", [] =>
    if x.isNaN then none
    else pure_ self (.int (if x.isZero then 0 else if x.negative then -1 else 1))
  | "is_zero", [] => pure_ self (.bool x.isZero)
  | "to_float", [] => pure_ self self
  | "to_int", [] => (floatToInt? x).map fun v => (self, v)
  | "floor", [] => via Float.floor
  | "ceiling", [] => via Float.ceil
  | "round", [] => via Float.round
  | "int", [] => pure_ self (whole x)
  | "fraction", [] =>
    pure_ self (Operator.onFloats (· - ·) x
      (match whole x with
        | .float w => w
        | _ => x))
  | "is_nan", [] => pure_ self (.bool x.isNaN)
  | "is_finite", [] => pure_ self (.bool x.isFinite)
  | "is_infinite", [] => pure_ self (.bool x.isInfinite)
  | "sqrt", [] => via Float.sqrt
  | "exp", [] => via Float.exp
  | "ln", [] => via Float.log
  | "log", [] => via Float.log10
  | "sin", [] => via Float.sin
  | "cos", [] => via Float.cos
  | "tan", [] => via Float.tan
  | "asin", [] => via Float.asin
  | "acos", [] => via Float.acos
  | "atan", [] => via Float.atan
  | "sinh", [] => via Float.sinh
  | "cosh", [] => via Float.cosh
  | "tanh", [] => via Float.tanh
  | "asinh", [] => via Float.asinh
  | "acosh", [] => via Float.acosh
  | "atanh", [] => via Float.atanh
  | "atan", [.float y] => pure_ self (Operator.onFloats Float.atan2 x y)
  | "log", [.float base] =>
    pure_ self (Operator.onFloats (fun a b => Float.log a / Float.log b) x base)
  | "min", [v] => (smaller self v).map fun r => (self, r)
  | "max", [v] => (larger self v).map fun r => (self, r)
  | _, _ => none

/-! ## The set -/

/-- Functions of all values. -/
def onAny (name : String) (self : Value) (args : List Value) : Outcome :=
  match name, args with
  | "type_of", [] => pure_ self (.str self.typeName)
  | "to_string", [] => pure_ self (.str self.text)
  | "to_debug", [] => pure_ self (.str self.debugText)
  | "is_shared", [] => pure_ self (.bool false)
  | _, _ => none

/-- Functions of ranges. -/
def onRange (name : String) (first last : Int) (closed : Bool) (args : List Value) : Outcome :=
  let self := Value.range first last closed
  match name, args with
  | "range", [.int step] => if closed then none else steps first last step
  | "start", [] => pure_ self (.int first)
  | "end", [] => pure_ self (.int last)
  | "is_inclusive", [] => pure_ self (.bool closed)
  | "is_exclusive", [] => pure_ self (.bool !closed)
  | "is_empty", [] => pure_ self (.bool (if closed then last < first else last ≤ first))
  | "contains", [.int n] =>
    pure_ self (.bool (first ≤ n && (if closed then n ≤ last else n < last)))
  | _, _ => none

/-- Functions of functions. -/
def onFunction (self : Value) (name : String) (args : List Value) : Outcome :=
  match self, name, args with
  | .named n _, "name", [] => pure_ self (.str n)
  | .named _ _, "is_anonymous", [] => pure_ self (.bool false)
  | .closure _ _ _, "is_anonymous", [] => pure_ self (.bool true)
  | _, _, _ => none

/-- A function of a value with further arguments. -/
def call (name : String) (self : Value) (args : List Value) : Outcome :=
  let own : Outcome := match self with
    | .str s => onString name s.toList args
    | .char c => onChar name c args
    | .array xs => onArray name xs args
    | .map ms => onMap name ms args
    | .int n => onInt name n args
    | .float x => onFloat name x args
    | .range a b closed => onRange name a b closed args
    | _ => onFunction self name args
  match own with
  | some r => some r
  | none => onAny name self args

/-- A function without arguments. -/
def constant? (name : String) : Option Value :=
  match name with
  | "PI" => some (.float ⟨0x400921FB54442D18⟩)
  | "E" => some (.float ⟨0x4005BF0A8B145769⟩)
  | _ => none

/-- Functions that can be written as properties. -/
def isProperty (name : String) : Bool :=
  ["len", "is_empty", "bytes", "sign", "is_zero", "is_odd", "is_even", "floor", "ceiling", "round",
   "int", "fraction", "is_nan", "is_finite", "is_infinite", "start", "end", "is_inclusive",
   "is_exclusive", "chars", "name", "is_anonymous"].contains name

/-! ## Items -/

/-- The item under an index. Members that are not there are nothing. -/
def item? (container index : Value) : Option Value :=
  match container, index with
  | .array xs, .int i => (position? xs.size i).bind fun n => xs[n]?
  | .map ms, .str k => some ((Entries.find? k ms).getD .unit)
  | .str s, .int i =>
    let cs := s.toList
    ((position? cs.length i).bind fun n => cs[n]?).map .char
  | .int n, .int i => (position? 64 i).map fun k => .bool ((n % 2 ^ 64).toNat.testBit k)
  | _, _ => none

/-- A container with another item under an index. -/
def setItem? (container index item : Value) : Option Value :=
  match container, index, item with
  | .array xs, .int i, v => (position? xs.size i).map fun n => .array (xs.setIfInBounds n v)
  | .map ms, .str k, v => Value.ofMembers? (Entries.insert k v ms)
  | .str s, .int i, .char c =>
    let cs := s.toList
    (position? cs.length i).map fun n => ofChars (cs.set n c)
  | .int n, .int i, .bool b =>
    (position? 64 i).map fun k =>
      let bits := (n % 2 ^ 64).toNat
      let mask := 2 ^ k
      let next : Nat := if b then bits ||| mask else bits - (bits &&& mask)
      .int (Operator.wrapped next)
  | _, _, _ => none

/-- The member or the property of a name. -/
def property? (container : Value) (name : String) : Option Value :=
  match container with
  | .map ms => some ((Entries.find? name ms).getD .unit)
  | v => if isProperty name then (call name v []).map (·.2) else none

def setProperty? (container : Value) (name : String) (item : Value) : Option Value :=
  match container with
  | .map ms => Value.ofMembers? (Entries.insert name item ms)
  | _ => none

/-- What a loop goes through. -/
inductive Steps where
  | values (items : List Value)
  | numbers (first : Int) (count : Nat)

def steps? : Value → Option Steps
  | .array xs => some (.values xs.toList)
  | .str s => some (.values (s.toList.map Value.char))
  | .range a b closed => some (.numbers a (if closed then b - a + 1 else b - a).toNat)
  | _ => none

end Scaffold.Script.Library

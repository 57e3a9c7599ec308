import Scaffold.Json.Basic
import Scaffold.Number.Layout
import Scaffold.Text.Quoted

/-!
# Script values

What scripts compute with. Data comes in as JSON and goes out as JSON; functions and ranges have
no JSON and stay inside. Whole numbers have sixty-four bits, larger ones come in as floating
point values.
-/

namespace Scaffold.Script

inductive Value where
  | unit
  | bool (value : Bool)
  | int (value : Int)
  | float (value : Double)
  | char (value : Char)
  | str (text : String)
  | array (items : Array Value)
  | map (members : List (String × Value))
  | range (first last : Int) (closed : Bool)
  /-- A function by name, with its first arguments. -/
  | named (name : String) (curried : List Value)
  /-- A function without a name, by number, with the variables it has seen. -/
  | closure (number : Nat) (seen : List (String × Nat)) (curried : List Value)
deriving Inhabited

namespace Value

def typeName : Value → String
  | unit => "()"
  | bool _ => "bool"
  | int _ => "i64"
  | float _ => "f64"
  | char _ => "char"
  | str _ => "string"
  | array _ => "array"
  | map _ => "map"
  | range _ _ closed => if closed then "range=" else "range"
  | named _ _ => "Fn"
  | closure _ _ _ => "Fn"

def isUnit : Value → Bool
  | unit => true
  | _ => false

def isFloat : Value → Bool
  | float _ => true
  | _ => false

/-! ## Whole numbers -/

def minInt : Int := -(2 ^ 63)

def maxInt : Int := 2 ^ 63 - 1

/-- A whole number, if sixty-four bits hold it. -/
def ofInt? (n : Int) : Option Value :=
  if minInt ≤ n ∧ n ≤ maxInt then some (int n) else none

/-! ## Data -/

mutual

def ofJson : Json → Value
  | .null => unit
  | .bool b => bool b
  | .num (.int n) => if minInt ≤ n ∧ n ≤ maxInt then int n else float (Double.ofInt n)
  | .num (.float x) => float x
  | .str s => str s
  | .arr xs => array (ofJsonItems xs).toArray
  | .obj ms => map (ofJsonMembers ms)

def ofJsonItems : List Json → List Value
  | [] => []
  | x :: xs => ofJson x :: ofJsonItems xs

def ofJsonMembers : List (String × Json) → List (String × Value)
  | [] => []
  | (k, x) :: ms => (k, ofJson x) :: ofJsonMembers ms

end

mutual

/-- The data of a value. Floating point values that are no numbers become `null`. -/
def toJson? : Value → Option Json
  | unit => some .null
  | bool b => some (.bool b)
  | int n => some (Json.int n)
  | float x => some (Json.ofDouble x)
  | char c => some (.str (String.singleton c))
  | str s => some (.str s)
  | array ⟨xs⟩ => (toJsonItems? xs).map .arr
  | map ms => (toJsonMembers? ms).map .obj
  | range _ _ _ => none
  | named _ _ => none
  | closure _ _ _ => none

def toJsonItems? : List Value → Option (List Json)
  | [] => some []
  | x :: xs =>
    match toJson? x, toJsonItems? xs with
    | some v, some vs => some (v :: vs)
    | _, _ => none

def toJsonMembers? : List (String × Value) → Option (List (String × Json))
  | [] => some []
  | (k, x) :: ms =>
    match toJson? x, toJsonMembers? ms with
    | some v, some vs => some ((k, v) :: vs)
    | _, _ => none

end

/-! ## Text -/

/-- From here on, whole or not, a number is written with an exponent. -/
def largestInPlace : Double := Double.ofInt 9999999827968

/-- Below this a number that is not zero is written with an exponent. -/
def smallestInPlace : Double := Double.ofRatio false 14073749 140737488355328

def exponentText (x : Double) : String :=
  if x.isInfinite then (if x.negative then "-inf" else "inf")
  else String.ofList (x.layOut Layout.scientific)

/-- The text of a floating point value, with a point unless it has an exponent. -/
def floatText (x : Double) : String :=
  if x.isNaN then "NaN"
  else if x.isZero then "0.0"
  else
    let size : Double := if x.negative then x.negate else x
    if size.compare? largestInPlace == some .gt || size.compare? smallestInPlace == some .lt then
      exponentText x
    else
      let text := String.ofList (x.layOut Layout.inPlace)
      if x.truncated.2 then text else text ++ ".0"

/-- The text of a floating point value inside of containers. -/
def floatDebugText (x : Double) : String :=
  if x.isNaN then "NaN"
  else if x.isInfinite then exponentText x
  else if x.isZero then (if x.negative then "-0.0" else "0.0")
  else
    let size : Double := if x.negative then x.negate else x
    let small := Double.ofRatio false 1 10000
    let large := Double.ofInt (10 ^ 16)
    if size.compare? small == some .lt || size.compare? large != some .lt then exponentText x
    else
      let text := String.ofList (x.layOut Layout.inPlace)
      if x.truncated.2 then text else text ++ ".0"

def intText (n : Int) : String :=
  String.ofList (Number.intDigits n)

def rangeText (first last : Int) (closed : Bool) : String :=
  intText first ++ (if closed then "..=" else "..") ++ intText last

mutual

/-- The text of a value inside of containers, strings between quotes. -/
def debugText : Value → String
  | unit => "()"
  | bool b => if b then "true" else "false"
  | int n => intText n
  | float x => floatDebugText x
  | char c => "'" ++ String.singleton c ++ "'"
  | str s => String.ofList (Text.quoted s.toList)
  | array ⟨xs⟩ => "[" ++ debugItems xs ++ "]"
  | map ms => "#\x7b" ++ debugMembers ms ++ "\x7d"
  | range a b closed => rangeText a b closed
  | named name _ => "Fn(" ++ name ++ ")"
  | closure _ _ _ => "Fn(anon)"

def debugItems : List Value → String
  | [] => ""
  | [x] => debugText x
  | x :: xs => debugText x ++ ", " ++ debugItems xs

def debugMembers : List (String × Value) → String
  | [] => ""
  | [(k, x)] => String.ofList (Text.quoted k.toList) ++ ": " ++ debugText x
  | (k, x) :: ms =>
    String.ofList (Text.quoted k.toList) ++ ": " ++ debugText x ++ ", " ++ debugMembers ms

end

/-- The text of a value where it is added to a string or printed. -/
def text : Value → String
  | unit => ""
  | float x => floatText x
  | char c => String.singleton c
  | str s => s
  | v => debugText v

/-! ## Equality -/

mutual

/-- Equality of values; whole numbers equal floating point values by value. -/
def same : Value → Value → Bool
  | unit, unit => true
  | bool a, bool b => a == b
  | int a, int b => a == b
  | int a, float y => (Double.ofInt a).sameValue y
  | float x, int b => x.sameValue (Double.ofInt b)
  | float x, float y => x.sameValue y
  | char a, char b => a == b
  | str a, str b => a == b
  | array ⟨as⟩, array ⟨bs⟩ => sameItems as bs
  | map as, map bs => sameMembers as bs
  | range a b c, range a' b' c' => a == a' && b == b' && c == c'
  | named a _, named b _ => a == b
  | closure a _ _, closure b _ _ => a == b
  | _, _ => false

def sameItems : List Value → List Value → Bool
  | [], [] => true
  | a :: as, b :: bs => same a b && sameItems as bs
  | _, _ => false

def sameMembers : List (String × Value) → List (String × Value) → Bool
  | [], [] => true
  | (k, a) :: as, (l, b) :: bs => k == l && same a b && sameMembers as bs
  | _, _ => false

end

end Value

/-! ## Members -/

namespace Entries

def find? (key : String) : List (String × Value) → Option Value
  | [] => none
  | (k, v) :: rest => if k = key then some v else find? key rest

def insert (key : String) (value : Value) : List (String × Value) → List (String × Value)
  | [] => [(key, value)]
  | (k, v) :: rest =>
    if key < k then (key, value) :: (k, v) :: rest
    else if k = key then (key, value) :: rest
    else (k, v) :: insert key value rest

def erase (key : String) : List (String × Value) → List (String × Value)
  | [] => []
  | (k, v) :: rest => if k = key then rest else (k, v) :: erase key rest

/-- The members of both, those of the second winning. -/
def merge (ms : List (String × Value)) : List (String × Value) → List (String × Value)
  | [] => ms
  | (k, v) :: rest => merge (insert k v ms) rest

end Entries

end Scaffold.Script

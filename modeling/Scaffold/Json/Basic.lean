import Scaffold.Number.Double

/-!
# JSON values

The data that exports, templates, scripts and written files share. Numbers are integers or
floating point values, and the two never equal each other. The members of an object are kept in
the order of their names, each name once: `Members.insert` keeps it so.
-/

namespace Scaffold

inductive Number where
  | int (value : Int)
  | float (value : Double)
deriving DecidableEq, Inhabited

namespace Number

/-- Integers equal integers, floating point values equal by value. -/
def same : Number → Number → Bool
  | int a, int b => a == b
  | float a, float b => a.sameValue b
  | _, _ => false

def toDouble : Number → Double
  | int n => Double.ofInt n
  | float x => x

def isZero : Number → Bool
  | int n => n == 0
  | float x => x.isZero

end Number

inductive Json where
  | null
  | bool (value : Bool)
  | num (value : Number)
  | str (text : String)
  | arr (items : List Json)
  | obj (members : List (String × Json))
deriving Inhabited

abbrev Members := List (String × Json)

namespace Members

def find? (key : String) : Members → Option Json
  | [] => none
  | (k, v) :: rest => if k = key then some v else find? key rest

def contains (key : String) (ms : Members) : Bool :=
  (ms.find? key).isSome

/-- Put a member in its place by name, replacing one of the same name. -/
def insert (key : String) (value : Json) : Members → Members
  | [] => [(key, value)]
  | (k, v) :: rest =>
    if key < k then (key, value) :: (k, v) :: rest
    else if k = key then (key, value) :: rest
    else (k, v) :: insert key value rest

def erase (key : String) : Members → Members
  | [] => []
  | (k, v) :: rest => if k = key then rest else (k, v) :: erase key rest

/-- Insert every member of a list in turn, so that later ones win. -/
def insertAll (ms : Members) : List (String × Json) → Members
  | [] => ms
  | (k, v) :: rest => insertAll (ms.insert k v) rest

def ofList (entries : List (String × Json)) : Members :=
  insertAll [] entries

def keys (ms : Members) : List String :=
  ms.map (·.1)

/-- Names strictly increase. -/
def Sorted : Members → Prop
  | [] => True
  | [_] => True
  | (k, _) :: (k', v') :: rest => k < k' ∧ Sorted ((k', v') :: rest)

end Members

namespace Json

mutual

/-- Equality of values. -/
def same : Json → Json → Bool
  | null, null => true
  | bool a, bool b => a == b
  | num a, num b => a.same b
  | str a, str b => a == b
  | arr a, arr b => sameItems a b
  | obj a, obj b => sameMembers a b
  | _, _ => false

def sameItems : List Json → List Json → Bool
  | [], [] => true
  | a :: as, b :: bs => same a b && sameItems as bs
  | _, _ => false

def sameMembers : List (String × Json) → List (String × Json) → Bool
  | [], [] => true
  | (k, a) :: as, (l, b) :: bs => k == l && same a b && sameMembers as bs
  | _, _ => false

end

instance : BEq Json := ⟨same⟩

/-- An object with the given members; of two of the same name the later one counts. -/
def object (entries : List (String × Json)) : Json :=
  obj (Members.ofList entries)

def int (n : Int) : Json := num (.int n)

def float (x : Double) : Json := num (.float x)

/-- A floating point value where it is finite, else `null`. -/
def ofDouble (x : Double) : Json :=
  if x.isFinite then float x else null

def text? : Json → Option String
  | str s => some s
  | _ => none

def items? : Json → Option (List Json)
  | arr xs => some xs
  | _ => none

def members? : Json → Option Members
  | obj ms => some ms
  | _ => none

def int? : Json → Option Int
  | num (.int n) => some n
  | _ => none

def isNull : Json → Bool
  | null => true
  | _ => false

/-- A member of an object; `none` for all other values. -/
def get? (key : String) : Json → Option Json
  | obj ms => Members.find? key ms
  | _ => none

/-- Optional text, absent as `null`. -/
def ofText? : Option String → Json
  | some s => str s
  | none => null

mutual

/-- Nesting height: scalars have none, a container is one higher than its highest member. -/
def height : Json → Nat
  | arr xs => heightItems xs + 1
  | obj ms => heightMembers ms + 1
  | _ => 0

def heightItems : List Json → Nat
  | [] => 0
  | x :: xs => max (height x) (heightItems xs)

def heightMembers : List (String × Json) → Nat
  | [] => 0
  | (_, x) :: xs => max (height x) (heightMembers xs)

end

end Json

end Scaffold

import Scaffold.Script.Library

/-!
# The script machine

Variables live in cells, so that functions without names share the ones they have seen. A run
counts its operations and keeps the lines it has printed; it is left by an error or by a
statement that breaks off, and both keep the machine as it is then.
-/

namespace Scaffold.Script

/-- How a run is broken off. -/
inductive Signal where
  /-- An error with a value of its own. -/
  | thrown (value : Value)
  /-- An error of an operation. -/
  | fault
  /-- Too many operations, calls or bytes; nothing can go on after this. -/
  | limit
  | leave (value : Value)
  | next
  | result (value : Value)
  /-- The end of the whole script. -/
  | exit (value : Value)
deriving Inhabited

structure Machine where
  cells : Array Value := #[]
  closures : Array (List String × Stmt) := #[]
  /-- Last line first. -/
  printed : List String := []
  /-- Operations left. -/
  budget : Nat
deriving Inhabited

namespace Limits

def operations : Nat := 1000000

def calls : Nat := 64

end Limits

abbrev Run (α : Type) := EStateM Signal Machine α

namespace Run

def stop {α : Type} (s : Signal) : Run α := throw s

def ofOption {α : Type} : Option α → Run α
  | some a => return a
  | none => throw .fault

def tick : Run Unit := fun m =>
  match m.budget with
  | 0 => .error .limit m
  | n + 1 => .ok () { m with budget := n }

def newCell (v : Value) : Run Nat := fun m =>
  .ok m.cells.size { m with cells := m.cells.push v }

def readCell (i : Nat) : Run Value := fun m =>
  .ok (m.cells[i]?.getD .unit) m

def writeCell (i : Nat) (v : Value) : Run Unit := fun m =>
  .ok () { m with cells := m.cells.setIfInBounds i v }

/-- Take a value out of its cell, which is empty afterwards. -/
def takeCell (i : Nat) : Run Value := fun m =>
  let v := m.cells[i]?.getD .unit
  .ok v { m with cells := m.cells.setIfInBounds i .unit }

def newClosure (params : List String) (body : Stmt) : Run Nat := fun m =>
  .ok m.closures.size { m with closures := m.closures.push (params, body) }

def closure (i : Nat) : Run (List String × Stmt) := fun m =>
  match m.closures[i]? with
  | some c => .ok c m
  | none => .error .fault m

def print (line : String) : Run Unit := fun m =>
  .ok () { m with printed := line :: m.printed }

/-- Put a value at the end of the array in a cell. -/
def pushToCell (i : Nat) (v : Value) : Run Unit := do
  match ← takeCell i with
  | .array xs =>
    match Value.ofArray? (xs.push v) with
    | some a => writeCell i a
    | none => throw .limit
  | other =>
    writeCell i other
    throw .fault

/-- Change the value in a cell by an operator. -/
def operateOnCell (i : Nat) (op : Op) (v : Value) : Run Unit := do
  match ← readCell i with
  | .str _ =>
    match Operator.applyAssigning op (← takeCell i) v with
    | some r => writeCell i r
    | none => throw .limit
  | .array _ =>
    match Operator.applyAssigning op (← takeCell i) v with
    | some r => writeCell i r
    | none => throw .limit
  | old => writeCell i (← ofOption (Operator.applyAssigning op old v))

/-- Run a step again and again until it gives a value. The count only bounds the recursion: every
step takes an operation, so the budget ends first. -/
def repeating (step : Run (Option Value)) : Nat → Run Value
  | 0 => throw .limit
  | n + 1 => do
    match ← step with
    | some v => return v
    | none => repeating step n

def overValues (step : Value → Nat → Run (Option Value)) : Nat → List Value → Run Value
  | _, [] => return .unit
  | i, v :: vs => do
    match ← step v i with
    | some r => return r
    | none => overValues step (i + 1) vs

def overNumbers (step : Value → Nat → Run (Option Value)) : Int → Nat → Nat → Run Value
  | _, _, 0 => return .unit
  | first, i, n + 1 => do
    match ← step (.int first) i with
    | some r => return r
    | none => overNumbers step (first + 1) (i + 1) n

/-- The body of a loop: whether it leaves the loop, and with what. -/
def asStep (body : Run Value) : Run (Option Value) :=
  tryCatch (do
    let _ ← body
    return none) fun
    | .leave v => return some v
    | .next => return none
    | s => throw s

/-- A call gives what is returned from it. -/
def asCall (body : Run Value) : Run Value :=
  tryCatch body fun
    | .result v => return v
    | s => throw s

end Run

end Scaffold.Script

import Scaffold.Json.Parser
import Scaffold.Json.Printer
import Scaffold.Script.Machine
import Scaffold.Script.Parser

/-!
# Running scripts

A big-step evaluator. Its fuel bounds the nesting of evaluations, which nesting of scripts and
depth of calls keep far below it; loops are bounded by the budget of operations. What stands on
the left of a dot or a bracket is a place: a method that changes its value changes what is found
there.
-/

namespace Scaffold.Script

/-- A variable in sight. -/
structure Variable where
  name : String
  cell : Nat
deriving Inhabited

structure Context where
  functions : List Function
  vars : List Variable := []
  /-- The cell of `this`. -/
  self? : Option Nat := none
  /-- Calls so far. -/
  level : Nat := 0

namespace Context

def find? (c : Context) (name : String) : Option Nat :=
  (c.vars.find? (·.name == name)).map (·.cell)

def function? (c : Context) (name : String) (arity : Nat) : Option Function :=
  c.functions.find? fun f => f.name == name && f.params.length == arity

end Context

/-- A step from a value to a part of it, or a call on it. -/
inductive Link where
  | property (name : String) (safe : Bool)
  | index (at_ : Value) (safe : Bool)
  | method (name : String) (args : List Value) (safe : Bool)
deriving Inhabited

namespace Link

def isSafe : Link → Bool
  | property _ s => s
  | index _ s => s
  | method _ _ s => s

/-- The part that a step leads to, and how it is put back. -/
def part? (v : Value) : Link → Option Value
  | property n _ => Library.property? v n
  | index i _ => Library.item? v i
  | method _ _ _ => none

def putBack (v part : Value) : Link → Value
  | property n _ => (Library.setProperty? v n part).getD v
  | index i _ => (Library.setItem? v i part).getD v
  | method _ _ _ => v

def replace? (v part : Value) : Link → Option Value
  | property n _ => Library.setProperty? v n part
  | index i _ => Library.setItem? v i part
  | method _ _ _ => none

end Link

/-- A step with its operands still to be evaluated. -/
inductive OpenLink where
  | property (name : String) (safe : Bool)
  | index (at_ : Expr) (safe : Bool)
  | method (name : String) (args : List Expr) (safe : Bool)

/-- Where a chain of steps begins, and its steps. -/
def unchain : Nat → Expr → List OpenLink → Expr × List OpenLink
  | 0, e, links => (e, links)
  | depth + 1, e, links =>
    match e with
    | .property t n s => unchain depth t (.property n s :: links)
    | .index t i s => unchain depth t (.index i s :: links)
    | .method t n args s => unchain depth t (.method n args s :: links)
    | _ => (e, links)

namespace Eval

open Run

/-- Whether a value of a case fits, kinds included. -/
def fits (v pattern : Value) : Bool :=
  match pattern, v with
  | .range a b closed, .int n => a ≤ n && (if closed then n ≤ b else n < b)
  | _, _ => v.typeName == pattern.typeName && Value.same v pattern

def isTrue : Value → Bool
  | .bool b => b
  | _ => false

def isPointer : Value → Bool
  | .named _ _ => true
  | .closure _ _ _ => true
  | _ => false

/-- What a handler sees of an error; `none` where nothing can handle it. -/
def caught? : Signal → Option Value
  | .thrown v => some v
  | .fault => some (.map [("error", .str ""), ("message", .str "")])
  | _ => none

def asBool : Value → Run Bool
  | .bool b => return b
  | _ => throw .fault

/-- A failed function, which is a matter of limits where strings or arrays have grown. -/
def libraryCall (name : String) (self : Value) (args : List Value) : Run (Value × Value) :=
  ofOption (Library.call name self args)

/-- Functions that take functions: of arrays and of maps. -/
def takesFunction (name : String) : Bool :=
  ["map", "filter", "for_each", "reduce", "reduce_rev", "some", "all", "find", "find_index",
   "find_map", "index_of", "sort", "sort_by", "order_by", "drain", "retain"].contains name

/-- The cell of a variable or of `this`, where that is what an expression is. -/
def cellOf (c : Context) : Expr → Option Nat
  | .var n => c.find? n
  | .this => c.self?
  | _ => none

def isArrayCell (i : Nat) : Run Bool := do
  match ← readCell i with
  | .array _ => return true
  | _ => return false

def bindAll : List String → List Value → List Variable → Run (List Variable)
  | p :: ps, v :: vs, seen => do
    let i ← newCell v
    bindAll ps vs (⟨p, i⟩ :: seen)
  | _, _, seen => return seen

/-- How many arguments a function still takes. -/
def arity (c : Context) (f : Value) : Run (Option Nat) := do
  match f with
  | .closure i _ curried =>
    let (params, _) ← closure i
    return some (params.length - curried.length)
  | .named name curried =>
    return (c.functions.find? (·.name == name)).map fun g => g.params.length - curried.length
  | _ => return none

def selected (rs : List (Value × Value)) (wanted : Bool) : Value :=
  .array ((rs.filter fun (_, r) => isTrue r == wanted).map (·.1)).toArray

mutual

def expr : Nat → Context → Expr → Run Value
  | 0, _, _ => throw .limit
  | fuel + 1, c, e => do
    tick
    match e with
    | .const v => return v
    | .concat fixed codes =>
      let values ← texts fuel c codes
      let pieces := (fixed.zipIdx.map fun (t, i) => t ++ ((values[i]?).getD ""))
      ofOption (Value.ofText? (String.join pieces))
    | .var n =>
      match c.find? n with
      | some i => readCell i
      | none => throw .fault
    | .this =>
      match c.self? with
      | some i => readCell i
      | none => throw .fault
    | .array items => do
      let vs ← exprs fuel c items
      ofOption (Value.ofArray? vs.toArray)
    | .map entries => do
      let ms ← members fuel c entries []
      ofOption (Value.ofMembers? ms)
    | .unary op a => do
      let v ← expr fuel c a
      ofOption (Operator.applyUnary op v)
    | .binary .both a b => do
      if ← asBool (← expr fuel c a) then return .bool (← asBool (← expr fuel c b))
      else return .bool false
    | .binary .either a b => do
      if ← asBool (← expr fuel c a) then return .bool true
      else return .bool (← asBool (← expr fuel c b))
    | .binary .orElse a b => do
      let v ← expr fuel c a
      if v.isUnit then expr fuel c b else return v
    | .binary op a b => do
      let x ← expr fuel c a
      let y ← expr fuel c b
      ofOption (Operator.apply op x y)
    | .call name args => call fuel c name args
    | .property _ _ _ => chain fuel c e
    | .method _ _ _ _ => chain fuel c e
    | .index _ _ _ => chain fuel c e
    | .closure params body => do
      let i ← newClosure params body
      return .closure i (c.vars.map fun v => (v.name, v.cell)) []
    | .code s => stmt fuel c s

def exprs : Nat → Context → List Expr → Run (List Value)
  | 0, _, _ => throw .limit
  | _ + 1, _, [] => return []
  | fuel + 1, c, e :: es => do
    let v ← expr fuel c e
    return v :: (← exprs fuel c es)

def texts : Nat → Context → List (List Stmt) → Run (List String)
  | 0, _, _ => throw .limit
  | _ + 1, _, [] => return []
  | fuel + 1, c, code :: rest => do
    let (v, _) ← body fuel c .unit code
    return v.text :: (← texts fuel c rest)

def members : Nat → Context → List (String × Expr) → List (String × Value) →
    Run (List (String × Value))
  | 0, _, _, _ => throw .limit
  | _ + 1, _, [], done => return done
  | fuel + 1, c, (k, e) :: rest, done => do
    let v ← expr fuel c e
    members fuel c rest (Entries.insert k v done)

def links : Nat → Context → List OpenLink → Run (List Link)
  | 0, _, _ => throw .limit
  | _ + 1, _, [] => return []
  | fuel + 1, c, l :: ls => do
    let link ← match l with
      | .property n s => pure (Link.property n s)
      | .index i s => do pure (Link.index (← expr fuel c i) s)
      | .method n args s => do pure (Link.method n (← exprs fuel c args) s)
    return link :: (← links fuel c ls)

def chain : Nat → Context → Expr → Run Value
  | 0, _, _ => throw .limit
  | fuel + 1, c, e => do
    let (base, steps) := unchain fuel e []
    let ls ← links fuel c steps
    match cellOf c base with
    | some i =>
      tick
      match ls with
      | [.method "push" [v] _] =>
        match c.function? "push" 1, ← isArrayCell i with
        | none, true =>
          pushToCell i v
          return .unit
        | _, _ => viaCell fuel c i ls
      | _ => viaCell fuel c i ls
    | none =>
      let v ← expr fuel c base
      return (← walk fuel c v ls).2

def viaCell : Nat → Context → Nat → List Link → Run Value
  | 0, _, _, _ => throw .limit
  | fuel + 1, c, i, ls => do
    let v ← readCell i
    let (v, r) ← walk fuel c v ls
    writeCell i v
    return r

/-- Follow steps from a value: the value afterwards, and what the last step gives. -/
def walk : Nat → Context → Value → List Link → Run (Value × Value)
  | 0, _, _, _ => throw .limit
  | _ + 1, _, v, [] => return (v, v)
  | fuel + 1, c, v, l :: ls => do
    if l.isSafe && v.isUnit then return (v, .unit)
    match l with
    | .method name args _ => do
      let (v, r) ← method fuel c v name args
      return (v, (← walk fuel c r ls).2)
    | _ => do
      let part ← ofOption (l.part? v)
      match ls with
      | [] => return (v, part)
      | _ =>
        let (part, r) ← walk fuel c part ls
        return (l.putBack v part, r)

/-- Follow steps from a value and put another value at their end. -/
def store : Nat → Context → Value → List Link → (Value → Option Value) → Run Value
  | 0, _, _, _, _ => throw .limit
  | _ + 1, _, _, [], _ => throw .fault
  | fuel + 1, c, v, l :: ls, next => do
    if l.isSafe && v.isUnit then return v
    match l, ls with
    | .method name args _, _ => do
      let (v, r) ← method fuel c v name args
      let _ ← store fuel c r ls next
      return v
    | _, [] =>
      let old := (l.part? v).getD .unit
      let new ← ofOption (next old)
      ofOption (l.replace? v new)
    | _, _ => do
      let part ← ofOption (l.part? v)
      let part ← store fuel c part ls next
      ofOption (l.replace? v part)

/-- Call a function of the script. -/
def callFunction : Nat → Context → List Variable → List String → Stmt → List Value → Option Nat →
    Run Value
  | 0, _, _, _, _, _, _ => throw .limit
  | fuel + 1, c, seen, params, code, args, self? => do
    tick
    if Limits.calls ≤ c.level then throw .limit
    let vars ← bindAll params args seen
    asCall (stmt fuel { c with vars, self?, level := c.level + 1 } code)

/-- Call what a value points to. -/
def callPointer : Nat → Context → Value → List Value → Option Nat → Run Value
  | 0, _, _, _, _ => throw .limit
  | fuel + 1, c, f, args, self? => do
    match f with
    | .named name curried => callByName fuel c name (curried ++ args) self?
    | .closure i seen curried =>
      let (params, code) ← closure i
      let args := curried ++ args
      if params.length = args.length then
        callFunction fuel c (seen.map fun (n, cell) => ⟨n, cell⟩) params code args self?
      else throw .fault
    | _ => throw .fault

def callByName : Nat → Context → String → List Value → Option Nat → Run Value
  | 0, _, _, _, _ => throw .limit
  | fuel + 1, c, name, args, self? => do
    match c.function? name args.length with
    | some f => callFunction fuel c [] f.params f.body args self?
    | none =>
      match args with
      | [] => ofOption (Library.constant? name)
      | v :: vs => return (← method fuel c v name vs).2

/-- A call with a value of an array: with its position too if there are two parameters, as
`this` if there are none. The value afterwards and the result. -/
def callWithItem : Nat → Context → Value → Value → Nat → Run (Value × Value)
  | 0, _, _, _, _ => throw .limit
  | fuel + 1, c, f, item, position => do
    match ← arity c f with
    | some 0 =>
      let i ← newCell item
      let r ← callPointer fuel c f [] (some i)
      return (← readCell i, r)
    | some 2 => return (item, ← callPointer fuel c f [item, .int position] none)
    | _ => return (item, ← callPointer fuel c f [item] none)

def callAll : Nat → Context → Value → Nat → List Value → Run (List (Value × Value))
  | 0, _, _, _, _ => throw .limit
  | _ + 1, _, _, _, [] => return []
  | fuel + 1, c, f, i, v :: vs => do
    tick
    let r ← callWithItem fuel c f v i
    return r :: (← callAll fuel c f (i + 1) vs)

/-- The first item for which a function holds, with its position. -/
def search : Nat → Context → Value → Bool → Nat → List Value → Run (Option (Nat × Value))
  | 0, _, _, _, _, _ => throw .limit
  | _ + 1, _, _, _, _, [] => return none
  | fuel + 1, c, f, wanted, i, v :: vs => do
    tick
    let (_, r) ← callWithItem fuel c f v i
    if isTrue r == wanted then return some (i, v)
    else search fuel c f wanted (i + 1) vs

def fold : Nat → Context → Value → Value → List (Value × Nat) → Run Value
  | 0, _, _, _, _ => throw .limit
  | _ + 1, _, _, acc, [] => return acc
  | fuel + 1, c, f, acc, (v, i) :: vs => do
    tick
    let args := match ← arity c f with
      | some 3 => [acc, v, .int i]
      | _ => [acc, v]
    fold fuel c f (← callPointer fuel c f args none) vs

/-- Whether a function puts a value in front of another; it does not where it fails. -/
def isBefore : Nat → Context → Value → Value → Value → Run Bool
  | 0, _, _, _, _ => throw .limit
  | fuel + 1, c, f, v, w =>
    tryCatch (do
      match ← callPointer fuel c f [v, w] none with
      | .int n => return decide (n < 0)
      | _ => return false) fun signal =>
        match caught? signal with
        | some _ => return false
        | none => throw signal

/-- Put a value in order among values that are. -/
def placeInOrder : Nat → Context → Value → Value → List Value → Run (List Value)
  | 0, _, _, _, _ => throw .limit
  | _ + 1, _, _, v, [] => return [v]
  | fuel + 1, c, f, v, w :: ws => do
    tick
    if ← isBefore fuel c f v w then return v :: w :: ws
    else return w :: (← placeInOrder fuel c f v ws)

def inOrder : Nat → Context → Value → List Value → List Value → Run (List Value)
  | 0, _, _, _, _ => throw .limit
  | _ + 1, _, _, done, [] => return done
  | fuel + 1, c, f, done, v :: vs => do
    inOrder fuel c f (← placeInOrder fuel c f v done) vs

/-- A function of arrays that takes a function. -/
def onArray : Nat → Context → Array Value → String → List Value → Run (Value × Value)
  | 0, _, _, _, _ => throw .limit
  | fuel + 1, c, xs, name, args => do
    let self := Value.array xs
    let items := xs.toList
    match name, args with
    | "map", [f] => do
      let rs ← callAll fuel c f 0 items
      return (self, .array (rs.map (·.2)).toArray)
    | "filter", [f] => return (self, selected (← callAll fuel c f 0 items) true)
    | "for_each", [f] => do
      let rs ← callAll fuel c f 0 items
      return (.array (rs.map (·.1)).toArray, .unit)
    | "drain", [f] => do
      let rs ← callAll fuel c f 0 items
      return (selected rs false, selected rs true)
    | "retain", [f] => do
      let rs ← callAll fuel c f 0 items
      return (selected rs true, selected rs false)
    | "some", [f] => return (self, .bool (← search fuel c f true 0 items).isSome)
    | "all", [f] => return (self, .bool (← search fuel c f false 0 items).isNone)
    | "find", [f] =>
      return (self, ((← search fuel c f true 0 items).map (·.2)).getD .unit)
    | "find_index", [f] =>
      return (self, Library.foundAt ((← search fuel c f true 0 items).map (·.1)))
    | "index_of", [f] =>
      return (self, Library.foundAt ((← search fuel c f true 0 items).map (·.1)))
    | "find_map", [f] => do
      let rs ← callAll fuel c f 0 items
      return (self, ((rs.map (·.2)).find? (!·.isUnit)).getD .unit)
    | "reduce", [f] => return (self, ← fold fuel c f .unit items.zipIdx)
    | "reduce", [f, v] => return (self, ← fold fuel c f v items.zipIdx)
    | "reduce_rev", [f] => return (self, ← fold fuel c f .unit items.zipIdx.reverse)
    | "reduce_rev", [f, v] => return (self, ← fold fuel c f v items.zipIdx.reverse)
    | "sort", [f] => return (.array (← inOrder fuel c f [] items).toArray, .unit)
    | "sort_by", [f] => return (.array (← inOrder fuel c f [] items).toArray, .unit)
    | "order_by", [f] => return (self, .array (← inOrder fuel c f [] items).toArray)
    | _, _ => throw .fault

/-- Members for which a function holds, and the others. -/
def onMembers : Nat → Context → Value → List (String × Value) →
    Run (List (String × Value) × List (String × Value))
  | 0, _, _, _ => throw .limit
  | _ + 1, _, _, [] => return ([], [])
  | fuel + 1, c, f, (k, v) :: rest => do
    tick
    let r ← callPointer fuel c f [.str k, v] none
    let (inside, outside) ← onMembers fuel c f rest
    return if isTrue r then ((k, v) :: inside, outside) else (inside, (k, v) :: outside)

/-- Call a method: the value afterwards and the result. -/
def method : Nat → Context → Value → String → List Value → Run (Value × Value)
  | 0, _, _, _, _ => throw .limit
  | fuel + 1, c, v, name, args => do
    tick
    if name = "call" && isPointer v then return (v, ← callPointer fuel c v args none)
    if name = "curry" then
      match v with
      | .named n curried => return (v, .named n (curried ++ args))
      | .closure i seen curried => return (v, .closure i seen (curried ++ args))
      | _ => throw .fault
    let member? := match v with
      | .map ms => (Entries.find? name ms).filter isPointer
      | _ => none
    match member? with
    | some f => do
      let i ← newCell v
      let r ← callPointer fuel c f args (some i)
      return (← readCell i, r)
    | none =>
      match c.function? name args.length with
      | some f => do
        let i ← newCell v
        let r ← callFunction fuel c [] f.params f.body args (some i)
        return (← readCell i, r)
      | none =>
        match v, args with
        | .array xs, f :: _ =>
          if takesFunction name && isPointer f then onArray fuel c xs name args
          else libraryCall name v args
        | .map ms, [f] =>
          if ["filter", "retain", "drain"].contains name && isPointer f then
            let (inside, outside) ← onMembers fuel c f ms
            match name with
            | "filter" => return (v, .map inside)
            | "retain" => return (.map inside, .map outside)
            | _ => return (.map outside, .map inside)
          else libraryCall name v args
        | _, _ => libraryCall name v args

/-- Call a function by its name. The first argument is passed as a place if it is a variable. -/
def call : Nat → Context → String → List Expr → Run Value
  | 0, _, _, _ => throw .limit
  | fuel + 1, c, name, args => do
    let values ← exprs fuel c args
    match c.function? name values.length with
    | some f => callFunction fuel c [] f.params f.body values none
    | none =>
      match name, values with
      | "print", [] =>
        print ""
        return .unit
      | "print", [v] =>
        print v.text
        return .unit
      | "debug", [] =>
        print ""
        return .unit
      | "debug", [v] =>
        print v.debugText
        return .unit
      | "exit", [] => throw (.exit .unit)
      | "exit", [v] => throw (.exit v)
      | "take", [v] =>
        match args.head?.bind (cellOf c) with
        | some i => writeCell i .unit
        | none => pure ()
        return v
      | "Fn", [.str n] => return .named n []
      | "is_def_var", [.str n] => return .bool (c.find? n).isSome
      | "is_def_fn", [.str n, .int k] => return .bool (c.function? n k.toNat).isSome
      | "parse_json", [.str s] =>
        match Json.parse? s with
        | some (.obj ms) => return Value.ofJson (.obj ms)
        | _ => throw .fault
      | "call", f :: rest => callPointer fuel c f rest none
      | _, [] => ofOption (Library.constant? name)
      | _, v :: vs =>
        let (v, r) ← method fuel c v name vs
        match args.head?.bind (cellOf c) with
        | some i => writeCell i v
        | none => pure ()
        return r

def stmt : Nat → Context → Stmt → Run Value
  | 0, _, _ => throw .limit
  | fuel + 1, c, s => do
    tick
    match s with
    | .skip => return .unit
    | .expr e => expr fuel c e
    | .declare _ e _ =>
      match e with
      | some e => do
        let _ ← expr fuel c e
        return .unit
      | none => return .unit
    | .assign target op? e => do
      assign fuel c target op? e
      return .unit
    | .block code => do
      let (v, _) ← body fuel c .unit code
      return v
    | .branch cond yes no => do
      if ← asBool (← expr fuel c cond) then stmt fuel c yes else stmt fuel c no
    | .select subject cases => do
      let v ← expr fuel c subject
      select fuel c v cases
    | .while_ cond code =>
      repeating (do
        tick
        if ← asBool (← expr fuel c cond) then asStep (stmt fuel c code)
        else return some .unit) Limits.operations.succ
    | .doWhile code cond expected =>
      repeating (do
        tick
        match ← asStep (stmt fuel c code) with
        | some v => return some v
        | none =>
          if (← asBool (← expr fuel c cond)) == expected then return none
          else return some .unit) Limits.operations.succ
    | .loop code =>
      repeating (do
        tick
        asStep (stmt fuel c code)) Limits.operations.succ
    | .forEach name counter? items code => do
      let v ← expr fuel c items
      let i ← newCell .unit
      let j ← newCell .unit
      let counter := counter?.toList.map fun n => (⟨n, j⟩ : Variable)
      let inner := { c with vars := ⟨name, i⟩ :: counter ++ c.vars }
      let step (item : Value) (position : Nat) : Run (Option Value) := do
        tick
        writeCell i item
        writeCell j (.int position)
        asStep (stmt fuel inner code)
      match Library.steps? v with
      | some (.values items) => overValues step 0 items
      | some (.numbers first count) => overNumbers step first 0 count
      | none => throw .fault
    | .return_ e? => do
      throw (.result (← optional fuel c e?))
    | .throw_ e? => do
      throw (.thrown (← optional fuel c e?))
    | .break_ e? => do
      throw (.leave (← optional fuel c e?))
    | .continue_ => throw .next
    | .attempt code name? rescue =>
      tryCatch (stmt fuel c code) fun signal =>
        match caught? signal with
        | none => throw signal
        | some v => do
          let vars ← match name? with
            | some n => do pure (⟨n, ← newCell v⟩ :: c.vars)
            | none => pure c.vars
          tryCatch (do
            let _ ← stmt fuel { c with vars } rescue
            return .unit) fun
            | .thrown .unit => throw signal
            | s => throw s

def optional : Nat → Context → Option Expr → Run Value
  | 0, _, _ => throw .limit
  | fuel + 1, c, e? =>
    match e? with
    | some e => expr fuel c e
    | none => return .unit

def assign : Nat → Context → Expr → Option Op → Expr → Run Unit
  | 0, _, _, _, _ => throw .limit
  | fuel + 1, c, target, op?, e => do
    let v ← expr fuel c e
    let (base, steps) := unchain fuel target []
    match cellOf c base with
    | none => throw .fault
    | some i =>
      match steps with
      | [] =>
        match op? with
        | none => writeCell i v
        | some op => operateOnCell i op v
      | _ => do
        let ls ← links fuel c steps
        let next (old : Value) : Option Value :=
          match op? with
          | none => some v
          | some op => Operator.applyAssigning op old v
        let whole ← readCell i
        writeCell i (← store fuel c whole ls next)

def select : Nat → Context → Value → List (List Expr × Option Expr × Stmt) → Run Value
  | 0, _, _, _ => throw .limit
  | _ + 1, _, _, [] => return .unit
  | fuel + 1, c, v, (patterns, cond, code) :: rest => do
    let values ← exprs fuel c patterns
    if patterns.isEmpty || values.any (fits v) then
      let holds ← match cond with
        | some e => do asBool (← expr fuel c e)
        | none => pure true
      if holds then stmt fuel c code else select fuel c v rest
    else select fuel c v rest

/-- Statements in turn: the value of the last one, and the variables at the end. -/
def body : Nat → Context → Value → List Stmt → Run (Value × List Variable)
  | 0, _, _, _ => throw .limit
  | _ + 1, c, v, [] => return (v, c.vars)
  | fuel + 1, c, _, s :: rest => do
    match s with
    | .declare name e? _ => do
      tick
      let v ← optional fuel c e?
      let i ← newCell v
      body fuel { c with vars := ⟨name, i⟩ :: c.vars } .unit rest
    | _ => do
      let v ← stmt fuel c s
      body fuel c v rest

end

end Eval

/-- What comes of a script: its value and the value of one of its variables, and what it has
printed; `none` where it has failed. -/
structure Result where
  value : Option (Value × Option Value)
  printed : List String
deriving Inhabited

namespace Program

/-- Nesting of evaluations that no script within its limits reaches. -/
def depth : Nat := 400000

/-- Run a script with variables. Afterwards one variable is looked at. -/
def run (s : Program) (inputs : List (String × Value)) (watched : String) : Result :=
  let vars : List Variable := inputs.zipIdx.map fun ((n, _), i) => ⟨n, i⟩
  let machine : Machine :=
    { cells := (inputs.map (·.2)).toArray, budget := Limits.operations }
  let c : Context := { functions := s.functions, vars := vars.reverse }
  let lookBack (seen : Nat) : Run Unit := do
    match c.find? watched with
    | some i => Run.writeCell seen (← Run.readCell i)
    | none => pure ()
  let whole : Run (Value × Option Value) := do
    let seen ← Run.newCell .unit
    let result ← tryCatch (do
        let (v, vs) ← Eval.body depth c .unit s.body
        match vs.find? (·.name == watched) with
        | some var => Run.writeCell seen (← Run.readCell var.cell)
        | none => pure ()
        return v) fun
      | .result v => do
        lookBack seen
        return v
      | .exit v => do
        lookBack seen
        return v
      | signal => throw signal
    return (result, some (← Run.readCell seen))
  match whole machine with
  | .ok v m => ⟨some v, m.printed.reverse⟩
  | .error _ m => ⟨none, m.printed.reverse⟩

end Program

end Scaffold.Script

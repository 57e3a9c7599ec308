import Scaffold.Script.Syntax
import Scaffold.Script.Token

/-!
# Reading scripts

Tokens become statements by recursive descent, operators by precedence. Besides the form a few
rules are checked on the way: nesting is limited, `this` belongs into functions, `break` into
loops, constants are not assigned to, and what is disabled or reserved cannot be used.
-/

namespace Scaffold.Script

/-- What holds where a statement or an expression stands. -/
structure Place where
  /-- Nesting so far. -/
  level : Nat := 0
  inFunction : Bool := false
  inLoop : Bool := false
  /-- Whether `|` ends an expression. -/
  barEnds : Bool := false
  /-- Names in sight, and whether they are constants. -/
  names : List (String × Bool) := []
deriving Inhabited

namespace Place

def maxLevel : Nat := 64

def down (p : Place) (by_ : Nat) : Place :=
  { p with level := p.level + by_, barEnds := false }

def tooDeep (p : Place) : Bool :=
  maxLevel < p.level

def declare (p : Place) (name : String) (constant : Bool) : Place :=
  { p with names := (name, constant) :: p.names }

def isConstant (p : Place) (name : String) : Bool :=
  (p.names.lookup name).getD false

end Place

namespace Parser

abbrev Reader (α : Type) := Option (α × List Token)

/-- Words that are no names. -/
def reserved : List String :=
  ["true", "false", "let", "const", "if", "else", "switch", "do", "while", "until", "loop", "for",
   "in", "continue", "break", "return", "throw", "try", "catch", "fn", "private", "import",
   "export", "as", "this", "var", "static", "shared", "goto", "match", "case", "default",
   "void", "null", "nil", "public", "protected", "new", "use", "with", "each", "then", "async",
   "await", "yield", "go", "thread", "spawn", "sync", "module", "package", "super", "is", "unless",
   "eval", "_"]

/-- Words of the language that can only be called. -/
def callable : List String :=
  ["print", "debug", "type_of", "Fn", "call", "curry", "is_def_fn", "is_def_var", "is_shared"]

def isName (w : String) : Bool :=
  !reserved.contains w && !callable.contains w

/-- Names of properties and methods. -/
def isMember (w : String) : Bool :=
  !reserved.contains w && (w != "print" && w != "debug" && w != "Fn")

def expect (s : String) : List Token → Option (List Token)
  | .sign t :: rest => if t = s then some rest else none
  | _ => none

def atSign (s : String) : List Token → Bool
  | .sign t :: _ => t == s
  | _ => false

def expectWord (w : String) : List Token → Option (List Token)
  | .word t :: rest => if t = w then some rest else none
  | _ => none

def atWord (w : String) : List Token → Bool
  | .word t :: _ => t == w
  | _ => false

/-- The binary operator at the front with its precedence. -/
def operatorAt (p : Place) : List Token → Option (Op × Nat)
  | .sign s :: _ =>
    match s with
    | "||" => some (.either, 30)
    | "^" => some (.xor, 30)
    | "|" => if p.barEnds then none else some (.bitOr, 30)
    | "&&" => some (.both, 60)
    | "&" => some (.bitAnd, 60)
    | "==" => some (.eq, 90)
    | "!=" => some (.ne, 90)
    | "!in" => some (.notIn, 110)
    | "<" => some (.lt, 130)
    | "<=" => some (.le, 130)
    | ">" => some (.gt, 130)
    | ">=" => some (.ge, 130)
    | "??" => some (.orElse, 135)
    | ".." => some (.upTo, 140)
    | "..=" => some (.through, 140)
    | "+" => some (.add, 150)
    | "-" => some (.sub, 150)
    | "*" => some (.mul, 180)
    | "/" => some (.div, 180)
    | "%" => some (.rem, 180)
    | "**" => some (.pow, 190)
    | "<<" => some (.shl, 210)
    | ">>" => some (.shr, 210)
    | _ => none
  | .word "in" :: _ => some (.isIn, 110)
  | _ => none

def bindsRight (op : Op) : Bool := op == .pow

/-- The operator of an assignment; the inner `none` is a plain one. -/
def assignmentAt : List Token → Option (Option Op)
  | .sign s :: _ =>
    match s with
    | "=" => some none
    | "+=" => some (some .add)
    | "-=" => some (some .sub)
    | "*=" => some (some .mul)
    | "/=" => some (some .div)
    | "%=" => some (some .rem)
    | "**=" => some (some .pow)
    | "<<=" => some (some .shl)
    | ">>=" => some (some .shr)
    | "&=" => some (some .bitAnd)
    | "|=" => some (some .bitOr)
    | "^=" => some (some .xor)
    | _ => none
  | _ => none

/-- The variable at the root of what can be assigned to. -/
def targetRoot? : Expr → Option (Option String)
  | .var n => some (some n)
  | .this => some none
  | .property t _ _ => targetRoot? t
  | .index t _ _ => targetRoot? t
  | .method t _ _ _ => targetRoot? t
  | _ => none

def isMethodCall : Expr → Bool
  | .method _ _ _ _ => true
  | _ => false

def isTarget (p : Place) (e : Expr) : Bool :=
  match targetRoot? e with
  | some (some n) =>
    match e with
    | .var _ => !p.isConstant n
    | _ => !isMethodCall e
  | some none => !isMethodCall e
  | none => false

/-- A minus in front of a number is part of it. -/
def negated (e : Expr) : Expr :=
  match e with
  | .const (.int n) => if n = Value.minInt then .const (.float (Double.ofInt (-n))) else .const (.int (-n))
  | .const (.float x) => .const (.float x.negate)
  | _ => .unary .neg e

/-- Whether a statement needs no sign after it. -/
def endsItself : Stmt → Bool
  | .block _ => true
  | .branch _ _ _ => true
  | .select _ _ => true
  | .while_ _ _ => true
  | .loop _ => true
  | .forEach _ _ _ _ => true
  | .attempt _ _ _ => true
  | _ => false

/-- Whether a value of a case is known in advance; `depth` bounds the nesting looked at. -/
def isCaseValue : Nat → Expr → Bool
  | 0, _ => false
  | depth + 1, e =>
    match e with
    | .const _ => true
    | .binary .upTo (.const (.int _)) (.const (.int _)) => true
    | .binary .through (.const (.int _)) (.const (.int _)) => true
    | .array items => items.all (isCaseValue depth)
    | .map entries => entries.all fun (_, e) => isCaseValue depth e
    | _ => false

/-- Names between parentheses, each once. -/
def readParams : Nat → List String → List Token → Reader (List String)
  | 0, _, _ => none
  | fuel + 1, done, ts =>
    match ts with
    | .sign ")" :: rest => some (done.reverse, rest)
    | .word w :: rest =>
      if isName w && !done.contains w then
        match rest with
        | .sign "," :: rest => readParams fuel (w :: done) rest
        | .sign ")" :: rest => some ((w :: done).reverse, rest)
        | _ => none
      else none
    | _ => none

/-- Names between bars, each once. -/
def readBarParams : Nat → List String → List Token → Reader (List String)
  | 0, _, _ => none
  | fuel + 1, done, ts =>
    match ts with
    | .sign "|" :: rest => some (done.reverse, rest)
    | .word w :: rest =>
      if isName w && !done.contains w then
        match rest with
        | .sign "," :: rest => readBarParams fuel (w :: done) rest
        | .sign "|" :: rest => some ((w :: done).reverse, rest)
        | _ => none
      else none
    | _ => none

def endsValue : List Token → Bool
  | [] => true
  | .sign s :: _ => s == ";" || s == "\x7d"
  | _ => false

mutual

def readExpr : Nat → Place → List Token → Reader Expr
  | 0, _, _ => none
  | fuel + 1, p, ts =>
    if p.tooDeep then none
    else
      match readUnary fuel (p.down 1) ts with
      | some (left, rest) => readOperators fuel p 1 left rest
      | none => none

/-- Operators that bind as close as `least` or closer. -/
def readOperators : Nat → Place → Nat → Expr → List Token → Reader Expr
  | 0, _, _, _, _ => none
  | fuel + 1, p, least, left, ts =>
    match operatorAt p ts with
    | none => some (left, ts)
    | some (op, prec) =>
      if prec < least || (prec == least && !bindsRight op) then some (left, ts)
      else
        match readUnary fuel (p.down 1) ts.tail with
        | none => none
        | some (right, rest) =>
          match operatorAt p rest with
          | none => readOperators fuel p least (.binary op left right) rest
          | some (_, next) =>
            if prec < next || (prec == next && bindsRight op) then
              match readOperators fuel (p.down 1) prec right rest with
              | some (right, rest) => readOperators fuel p least (.binary op left right) rest
              | none => none
            else readOperators fuel p least (.binary op left right) rest

def readUnary : Nat → Place → List Token → Reader Expr
  | 0, _, _ => none
  | fuel + 1, p, ts =>
    if p.tooDeep then none
    else
      match ts with
      | .sign "-" :: rest =>
        (readUnary fuel (p.down 1) rest).map fun (e, rest) => (negated e, rest)
      | .sign "+" :: rest =>
        (readUnary fuel (p.down 1) rest).map fun (e, rest) =>
          (match e with
            | .const _ => e
            | _ => .unary .plus e, rest)
      | .sign "!" :: rest =>
        (readUnary fuel (p.down 1) rest).map fun (e, rest) => (.unary .not e, rest)
      | _ =>
        match readPrimary fuel (p.down 1) ts with
        | some (e, rest) => readPostfix fuel (p.down 1) e rest
        | none => none

/-- Members, items and methods after an expression. -/
def readPostfix : Nat → Place → Expr → List Token → Reader Expr
  | 0, _, _, _ => none
  | fuel + 1, p, e, ts =>
    match ts with
    | .sign s :: rest =>
      if s = "[" ∨ s = "?[" then
        match readExpr fuel (p.down 1) rest with
        | some (i, rest) =>
          match expect "]" rest with
          | some rest => readPostfix fuel p (.index e i (s == "?[")) rest
          | none => none
        | none => none
      else if s = "." ∨ s = "?." then
        match rest with
        | .word w :: rest =>
          if !isMember w then none
          else if atSign "(" rest then
            match readArgs fuel (p.down 1) [] rest.tail with
            | some (args, rest) => readPostfix fuel p (.method e w args (s == "?.")) rest
            | none => none
          else readPostfix fuel p (.property e w (s == "?.")) rest
        | _ => none
      else some (e, ts)
    | _ => some (e, ts)

/-- Arguments up to a closing parenthesis, last one first. -/
def readArgs : Nat → Place → List Expr → List Token → Reader (List Expr)
  | 0, _, _, _ => none
  | fuel + 1, p, done, ts =>
    if atSign ")" ts then some (done.reverse, ts.tail)
    else
      match readExpr fuel p ts with
      | some (e, rest) =>
        match rest with
        | .sign "," :: rest => readArgs fuel p (e :: done) rest
        | .sign ")" :: rest => some ((e :: done).reverse, rest)
        | _ => none
      | none => none

def readItems : Nat → Place → List Expr → List Token → Reader (List Expr)
  | 0, _, _, _ => none
  | fuel + 1, p, done, ts =>
    if atSign "]" ts then some (done.reverse, ts.tail)
    else
      match readExpr fuel p ts with
      | some (e, rest) =>
        match rest with
        | .sign "," :: rest => readItems fuel p (e :: done) rest
        | .sign "]" :: rest => some ((e :: done).reverse, rest)
        | _ => none
      | none => none

/-- Members up to a closing brace, each name once. -/
def readEntries : Nat → Place → List (String × Expr) → List Token → Reader (List (String × Expr))
  | 0, _, _, _ => none
  | fuel + 1, p, done, ts =>
    if atSign "\x7d" ts then some (done.reverse, ts.tail)
    else
      let named : Option (String × List Token) := match ts with
        | .word w :: rest => if isName w then some (w, rest) else none
        | .str s :: rest => some (s, rest)
        | _ => none
      match named with
      | none => none
      | some (key, rest) =>
        if done.any (·.1 == key) then none
        else
          match expect ":" rest with
          | none => none
          | some rest =>
            match readExpr fuel p rest with
            | some (e, rest) =>
              match rest with
              | .sign "," :: rest => readEntries fuel p ((key, e) :: done) rest
              | .sign "\x7d" :: rest => some (((key, e) :: done).reverse, rest)
              | _ => none
            | none => none

/-- The code between pieces of text. -/
def readCodes : Nat → Place → List (List Token) → Option (List (List Stmt))
  | 0, _, _ => none
  | _ + 1, _, [] => some []
  | fuel + 1, p, ts :: more =>
    match readBody fuel p [] ts with
    | some (body, []) => (readCodes fuel p more).map (body :: ·)
    | _ => none

def readPrimary : Nat → Place → List Token → Reader Expr
  | 0, _, _ => none
  | fuel + 1, p, ts =>
    if p.tooDeep then none
    else
      match ts with
      | [] => none
      | .int n :: rest => some (.const (.int n), rest)
      | .float x :: rest => some (.const (.float x), rest)
      | .char c :: rest => some (.const (.char c), rest)
      | .str s :: rest => some (.const (.str s), rest)
      | .template texts codes :: rest =>
        (readCodes fuel (p.down 1) codes).map fun codes => (.concat texts codes, rest)
      | .sign s :: rest =>
        if s = "(" then
          match rest with
          | .sign ")" :: rest => some (.const .unit, rest)
          | _ =>
            match readExpr fuel (p.down 1) rest with
            | some (e, rest) => (expect ")" rest).map fun rest => (e, rest)
            | none => none
        else if s = "[" then
          (readItems fuel (p.down 1) [] rest).map fun (xs, rest) => (.array xs, rest)
        else if s = "#\x7b" then
          (readEntries fuel (p.down 1) [] rest).map fun (ms, rest) => (.map ms, rest)
        else if s = "|" then
          match readBarParams (rest.length + 1) [] rest with
          | some (params, rest) => readClosure fuel p params rest
          | none => none
        else if s = "||" then readClosure fuel p [] rest
        else if s = "\x7b" then
          (readBlock fuel (p.down 1) ts).map fun (s, rest) => (.code s, rest)
        else none
      | .word w :: rest =>
        if w = "true" then some (.const (.bool true), rest)
        else if w = "false" then some (.const (.bool false), rest)
        else if w = "this" then if p.inFunction then some (.this, rest) else none
        else if ["if", "switch", "while", "loop", "do", "for"].contains w then
          (readControl fuel (p.down 1) w rest).map fun (s, rest) => (.code s, rest)
        else if !reserved.contains w && atSign "(" rest then
          (readArgs fuel (p.down 1) [] rest.tail).map fun (args, rest) => (.call w args, rest)
        else if !isName w then none
        else
          match rest with
          | .sign "::" :: .word m :: .sign "(" :: rest =>
            (readArgs fuel (p.down 1) [] rest).map fun (args, rest) =>
              (.call (w ++ "::" ++ m) args, rest)
          | .sign "::" :: .word m :: rest => some (.var (w ++ "::" ++ m), rest)
          | _ => some (.var w, rest)

def readClosure : Nat → Place → List String → List Token → Reader Expr
  | 0, _, _, _ => none
  | fuel + 1, p, params, ts =>
    let inner := params.foldl (fun q n => q.declare n false)
      { (p.down 1) with inFunction := true, inLoop := false }
    (readStmt fuel inner ts).map fun (body, rest, _) => (.closure params body, rest)

/-- Statements between braces. -/
def readBlock : Nat → Place → List Token → Reader Stmt
  | 0, _, _ => none
  | fuel + 1, p, ts =>
    if p.tooDeep then none
    else
      match expect "\x7b" ts with
      | none => none
      | some rest =>
        match readBody fuel (p.down 1) [] rest with
        | some (body, rest) => (expect "\x7d" rest).map fun rest => (.block body, rest)
        | none => none

/-- Statements up to a closing brace or the end, last one first. -/
def readBody : Nat → Place → List Stmt → List Token → Reader (List Stmt)
  | 0, _, _, _ => none
  | fuel + 1, p, done, ts =>
    match ts with
    | [] => some (done.reverse, [])
    | .sign ";" :: rest => readBody fuel p done rest
    | _ =>
      if atSign "\x7d" ts then some (done.reverse, ts)
      else
        match readStmt fuel p ts with
        | none => none
        | some (s, rest, p) =>
          if endsItself s || endsValue rest then readBody fuel p (s :: done) rest
          else none

/-- A statement, and the place after it. -/
def readStmt : Nat → Place → List Token → Option (Stmt × List Token × Place)
  | 0, _, _ => none
  | fuel + 1, p, ts =>
    if p.tooDeep then none
    else
      match ts with
      | .sign "\x7b" :: _ => (readBlock fuel (p.down 1) ts).map fun (s, rest) => (s, rest, p)
      | .word w :: rest =>
        if w = "let" ∨ w = "const" then readDeclaration fuel p (w == "const") rest
        else if ["if", "switch", "while", "loop", "do", "for"].contains w then
          (readControl fuel (p.down 1) w rest).map fun (s, rest) => (s, rest, p)
        else if w = "return" then
          (readOptional fuel p rest).map fun (v, rest) => (.return_ v, rest, p)
        else if w = "throw" then
          (readOptional fuel p rest).map fun (v, rest) => (.throw_ v, rest, p)
        else if w = "break" then
          if p.inLoop then
            (readOptional fuel p rest).map fun (v, rest) => (.break_ v, rest, p)
          else none
        else if w = "continue" then
          if p.inLoop then some (.continue_, rest, p) else none
        else if w = "try" then (readAttempt fuel p rest).map fun (s, rest) => (s, rest, p)
        else (readSimple fuel p ts).map fun (s, rest) => (s, rest, p)
      | _ => (readSimple fuel p ts).map fun (s, rest) => (s, rest, p)

/-- A value that may be left out. -/
def readOptional : Nat → Place → List Token → Reader (Option Expr)
  | 0, _, _ => none
  | fuel + 1, p, ts =>
    if endsValue ts then some (none, ts)
    else (readExpr fuel (p.down 1) ts).map fun (e, rest) => (some e, rest)

def readDeclaration : Nat → Place → Bool → List Token → Option (Stmt × List Token × Place)
  | 0, _, _, _ => none
  | fuel + 1, p, constant, ts =>
    match ts with
    | .word name :: rest =>
      if !isName name then none
      else
        match rest with
        | .sign "=" :: rest =>
          (readExpr fuel (p.down 1) rest).map fun (e, rest) =>
            (.declare name (some e) constant, rest, p.declare name constant)
        | _ => some (.declare name none constant, rest, p.declare name constant)
    | _ => none

/-- An expression or an assignment. -/
def readSimple : Nat → Place → List Token → Reader Stmt
  | 0, _, _ => none
  | fuel + 1, p, ts =>
    match readExpr fuel (p.down 2) ts with
    | none => none
    | some (e, rest) =>
      match assignmentAt rest with
      | none => some (.expr e, rest)
      | some op? =>
        if isTarget p e then
          (readExpr fuel (p.down 2) rest.tail).map fun (v, rest) => (.assign e op? v, rest)
        else none

def readAttempt : Nat → Place → List Token → Reader Stmt
  | 0, _, _ => none
  | fuel + 1, p, ts =>
    match readBlock fuel (p.down 1) ts with
    | none => none
    | some (body, rest) =>
      match expectWord "catch" rest with
      | none => none
      | some rest =>
        match rest with
        | .sign "(" :: .word n :: .sign ")" :: rest =>
          if !isName n then none
          else
            (readBlock fuel ((p.down 1).declare n false) rest).map fun (rescue, rest) =>
              (.attempt body (some n) rescue, rest)
        | _ =>
          (readBlock fuel (p.down 1) rest).map fun (rescue, rest) =>
            (.attempt body none rescue, rest)

/-- A branch or a loop, after its first word. -/
def readControl : Nat → Place → String → List Token → Reader Stmt
  | 0, _, _, _ => none
  | fuel + 1, p, w, ts =>
    let looping : Place := { (p.down 1) with inLoop := true }
    if w = "if" then
      match readExpr fuel (p.down 1) ts with
      | none => none
      | some (cond, rest) =>
        match readBlock fuel (p.down 1) rest with
        | none => none
        | some (yes, rest) =>
          if !atWord "else" rest then some (.branch cond yes (.block []), rest)
          else
            match rest.tail with
            | .word "if" :: rest =>
              (readControl fuel (p.down 1) "if" rest).map fun (no, rest) =>
                (.branch cond yes no, rest)
            | rest =>
              (readBlock fuel (p.down 1) rest).map fun (no, rest) => (.branch cond yes no, rest)
    else if w = "while" then
      match readExpr fuel (p.down 1) ts with
      | none => none
      | some (cond, rest) =>
        (readBlock fuel looping rest).map fun (body, rest) => (.while_ cond body, rest)
    else if w = "loop" then
      (readBlock fuel looping ts).map fun (body, rest) => (.loop body, rest)
    else if w = "do" then
      match readBlock fuel looping ts with
      | none => none
      | some (body, rest) =>
        match rest with
        | .word k :: rest =>
          if k = "while" ∨ k = "until" then
            (readExpr fuel (p.down 1) rest).map fun (cond, rest) =>
              (.doWhile body cond (k == "while"), rest)
          else none
        | _ => none
    else if w = "for" then
      let heads : Option (String × Option String × List Token) := match ts with
        | .sign "(" :: .word a :: .sign "," :: .word b :: .sign ")" :: rest =>
          if isName a && isName b && a != b then some (a, some b, rest) else none
        | .word a :: rest => if isName a then some (a, none, rest) else none
        | _ => none
      match heads with
      | none => none
      | some (a, b?, rest) =>
        match expectWord "in" rest with
        | none => none
        | some rest =>
          match readExpr fuel (p.down 1) rest with
          | none => none
          | some (items, rest) =>
            let inner := (b?.toList ++ [a]).foldl (fun q n => q.declare n false) looping
            (readBlock fuel inner rest).map fun (body, rest) => (.forEach a b? items body, rest)
    else if w = "switch" then
      match readExpr fuel (p.down 1) ts with
      | none => none
      | some (subject, rest) =>
        match expect "\x7b" rest with
        | none => none
        | some rest =>
          (readCases fuel (p.down 1) [] rest).map fun (cases, rest) =>
            (.select subject cases, rest)
    else none

/-- Values of a case with bars between them. -/
def readCaseValues : Nat → Place → List Expr → List Token → Reader (List Expr)
  | 0, _, _, _ => none
  | fuel + 1, p, done, ts =>
    match readExpr fuel { p with barEnds := true } ts with
    | none => none
    | some (e, rest) =>
      if !isCaseValue Place.maxLevel e then none
      else
        match rest with
        | .sign "|" :: rest => readCaseValues fuel p (e :: done) rest
        | _ => some ((e :: done).reverse, rest)

/-- Cases up to a closing brace, last one first; the one that always fits stands at the end. -/
def readCases : Nat → Place → List (List Expr × Option Expr × Stmt) → List Token →
    Reader (List (List Expr × Option Expr × Stmt))
  | 0, _, _, _ => none
  | fuel + 1, p, done, ts =>
    if atSign "\x7d" ts then some (done.reverse, ts.tail)
    else if done.any fun c => c.1.isEmpty then none
    else
      let values? : Reader (List Expr) := match ts with
        | .word "_" :: rest => some ([], rest)
        | _ => readCaseValues fuel p [] ts
      match values? with
      | none => none
      | some (values, rest) =>
        let guarded : Reader (Option Expr) :=
          if atWord "if" rest && !values.isEmpty then
            (readExpr fuel (p.down 1) rest.tail).map fun (e, rest) => (some e, rest)
          else some (none, rest)
        match guarded with
        | none => none
        | some (cond, rest) =>
          match expect "=>" rest with
          | none => none
          | some rest =>
            match readStmt fuel (p.down 1) rest with
            | none => none
            | some (body, rest, _) =>
              let done := (values, cond, body) :: done
              match rest with
              | .sign "," :: rest => readCases fuel p done rest
              | _ =>
                if atSign "\x7d" rest || endsItself body then readCases fuel p done rest
                else none

end

/-- A function after its first word. -/
def readFunction (fuel : Nat) (ts : List Token) : Reader Function :=
  match ts with
  | .word name :: .sign "(" :: rest =>
    if reserved.contains name then none
    else
      match readParams (rest.length + 1) [] rest with
      | none => none
      | some (params, rest) =>
        let place : Place :=
          params.foldl (fun q n => q.declare n false) { level := 1, inFunction := true }
        (readBlock fuel place rest).map fun (body, rest) => ({ name, params, body }, rest)
  | _ => none

/-- Statements and functions up to the end, last one first. -/
def readTop : Nat → Nat → Place → List Function → List Stmt → List Token → Option Program
  | 0, _, _, _, _, _ => none
  | steps + 1, fuel, p, functions, body, ts =>
    let addFunction (rest : List Token) : Option Program :=
      match readFunction fuel rest with
      | none => none
      | some (f, rest) =>
        if functions.any fun g => g.name == f.name && g.params.length == f.params.length then none
        else readTop steps fuel p (f :: functions) body rest
    match ts with
    | [] => some { functions := functions.reverse, body := body.reverse }
    | .sign ";" :: rest => readTop steps fuel p functions body rest
    | .word "fn" :: rest => addFunction rest
    | .word "private" :: .word "fn" :: rest => addFunction rest
    | _ =>
      match readStmt fuel p ts with
      | none => none
      | some (s, rest, p) =>
        if endsItself s || rest.isEmpty || atSign ";" rest then
          readTop steps fuel p functions (s :: body) rest
        else none

end Parser

/-- The statements of a script, or `none` if it is none. -/
def parse? (source : String) : Option Program :=
  (tokens? source.toList).bind fun ts =>
    Parser.readTop (ts.length + 1) (40 * source.length + 400) {} [] [] ts

end Scaffold.Script

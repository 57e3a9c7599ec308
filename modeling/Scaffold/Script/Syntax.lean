import Scaffold.Script.Value

/-!
# Script syntax

Expressions and statements of scripts. Nearly everything has a value: a block that of its last
statement, a loop that with which it is left.
-/

namespace Scaffold.Script

inductive Op where
  | add | sub | mul | div | rem | pow | shl | shr
  | eq | ne | lt | le | gt | ge
  | bitAnd | bitOr | xor
  | both | either | orElse
  | isIn | notIn
  | upTo | through
deriving DecidableEq, Inhabited

inductive UnaryOp where
  | neg
  | plus
  | not
deriving DecidableEq, Inhabited

mutual

inductive Expr where
  | const (value : Value)
  /-- Pieces of text with the values of code between each two. -/
  | concat (texts : List String) (codes : List (List Stmt))
  | var (name : String)
  | this
  | array (items : List Expr)
  | map (entries : List (String × Expr))
  | unary (op : UnaryOp) (operand : Expr)
  | binary (op : Op) (left right : Expr)
  | call (name : String) (args : List Expr)
  /-- A member; where `safe`, nothing of nothing is nothing. -/
  | property (target : Expr) (name : String) (safe : Bool)
  | method (target : Expr) (name : String) (args : List Expr) (safe : Bool)
  | index (target at_ : Expr) (safe : Bool)
  | closure (params : List String) (body : Stmt)
  | code (statement : Stmt)

inductive Stmt where
  | skip
  | expr (value : Expr)
  | declare (name : String) (value : Option Expr) (constant : Bool)
  | assign (target : Expr) (op : Option Op) (value : Expr)
  | block (body : List Stmt)
  | branch (cond : Expr) (yes no : Stmt)
  /-- The first case one of whose values fits and whose condition holds; a case without values
  fits always. -/
  | select (subject : Expr) (cases : List (List Expr × Option Expr × Stmt))
  | while_ (cond : Expr) (body : Stmt)
  /-- A loop that goes on after its body while the condition has the given truth value. -/
  | doWhile (body : Stmt) (cond : Expr) (expected : Bool)
  | loop (body : Stmt)
  | forEach (name : String) (counter : Option String) (items : Expr) (body : Stmt)
  | return_ (value : Option Expr)
  | throw_ (value : Option Expr)
  | break_ (value : Option Expr)
  | continue_
  | attempt (body : Stmt) (name : Option String) (rescue : Stmt)

end

instance : Inhabited Expr := ⟨.const .unit⟩
instance : Inhabited Stmt := ⟨.skip⟩

/-- A function with a name. -/
structure Function where
  name : String
  params : List String
  body : Stmt
deriving Inhabited

structure Program where
  functions : List Function
  body : List Stmt
deriving Inhabited

end Scaffold.Script

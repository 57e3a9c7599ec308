import Scaffold.Json.Basic

/-!
# Templates

A template is text with tags in it. A tag names a value or calls a helper with operands; a block
calls a helper that decides what becomes of the nodes inside. Nodes can also be kept under a name
and included where they are needed.
-/

namespace Scaffold.Template

/-- A step of a reference, from the current entity outwards or inwards. -/
inductive Step where
  | root
  | here
  | up
  | name (text : String)
deriving DecidableEq, Inhabited

/-- A reference to a value, with the text it was written as. -/
structure Reference where
  raw : String
  steps : List Step
deriving DecidableEq, Inhabited

/-- What a helper is called with, and how the helper itself is named. -/
inductive Operand where
  /-- A plain word in the place of a helper. -/
  | word (text : String)
  | literal (value : Json)
  | reference (target : Reference)
  | call (head : Operand) (args : List Operand) (named : List (String × Operand))
deriving Inhabited

/-- A helper with its operands, by position and by name. -/
structure Call where
  head : Operand
  args : List Operand := []
  named : List (String × Operand) := []
deriving Inhabited

namespace Call

/-- Whether nothing but a name is there, which may be a value as well as a helper. -/
def isBare (c : Call) : Bool :=
  c.args.isEmpty && c.named.isEmpty

end Call

/-- The call that opens a block, with the names it gives to what the helper binds. -/
structure Opening where
  call : Call
  binders : List String := []
deriving Inhabited

inductive Node where
  | text (chars : List Char)
  | value (call : Call) (escaped : Bool)
  | block (opening : Opening) (body otherwise : List Node)
  /-- A definition: with the name `inline` it keeps its body under the name in its operand. -/
  | define (call : Call) (body : Option (List Node))
  /-- Nodes that were kept under a name, with the blanks that their lines begin with. The body
  stands where nothing was kept. -/
  | inclusion (call : Call) (indent : List Char) (body : Option (List Node))
deriving Inhabited

end Scaffold.Template

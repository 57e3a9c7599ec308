import Scaffold.Json.Parser
import Scaffold.Template.Syntax
import Scaffold.Text.Segment

/-!
# Reading tags

The inside of a tag: words, references, literals, calls within calls and named operands. Every
reader takes what it can from the front and gives back the rest, or `none` if the text does not
start with what it reads. A literal has to be JSON in the end; one that only looks like it makes
the whole template unreadable, which `bad` records.
-/

namespace Scaffold.Template

abbrev Reader (α : Type) := List Char → Option (α × List Char)

def isSpace (c : Char) : Bool :=
  c == ' ' || c == '\t' || c == '\n' || c == '\r'

def skipSpace (cs : List Char) : List Char :=
  cs.dropWhile isSpace

/-- Enough for every nesting that a text of this length can hold. -/
def depthOf (cs : List Char) : Nat :=
  4 * cs.length + 8

/-- Characters of words. -/
def isSymbol (c : Char) : Bool :=
  ('a' ≤ c && c ≤ 'z') || ('A' ≤ c && c ≤ 'Z') || ('0' ≤ c && c ≤ '9') || c == '_' || c == '-' ||
    c == '$' || 0x80 ≤ c.toNat

def isDigit (c : Char) : Bool := '0' ≤ c && c ≤ '9'

def startsSymbol : List Char → Bool
  | c :: _ => isSymbol c
  | [] => false

/-- A word of at least one character. -/
def readWord : Reader String := fun cs =>
  match cs.takeWhile isSymbol with
  | [] => none
  | word => some (String.ofList word, cs.dropWhile isSymbol)

/-- A fixed text, blanks before it passed over. -/
def expectText (word : String) (cs : List Char) : Option (List Char) :=
  Text.afterPrefix? word.toList (skipSpace cs)

/-! ## Literals -/

def isHex (c : Char) : Bool :=
  isDigit c || ('a' ≤ c && c ≤ 'f') || ('A' ≤ c && c ≤ 'F')

/-- The rest after a quoted text, its opening quote already taken. -/
def skipQuoted (quote : Char) : List Char → Option (List Char)
  | [] => none
  | c :: cs =>
    if c = quote then some cs
    else if c = '\\' then
      match cs with
      | 'u' :: a :: b :: c :: d :: rest =>
        if isHex a && isHex b && isHex c && isHex d then skipQuoted quote rest else none
      | e :: rest =>
        if e = quote || ['\\', '/', 'b', 'f', 'n', 'r', 't'].contains e then skipQuoted quote rest
        else none
      | [] => none
    else skipQuoted quote cs

def skipString : List Char → Option (List Char)
  | '"' :: cs => skipQuoted '"' cs
  | '\'' :: cs => skipQuoted '\'' cs
  | _ => none

/-- The rest after an exponent with a capital mark, if one is there. -/
def skipExponent (cs : List Char) : List Char :=
  match cs with
  | 'E' :: '-' :: d :: rest => if isDigit d then rest.dropWhile isDigit else cs
  | 'E' :: d :: rest => if isDigit d then rest.dropWhile isDigit else cs
  | _ => cs

def skipNumber (cs : List Char) : Option (List Char) :=
  let digits := match cs with
    | '-' :: rest => rest
    | _ => cs
  match digits with
  | d :: rest =>
    if isDigit d then
      let rest := rest.dropWhile isDigit
      let rest := match rest with
        | '.' :: more => more.dropWhile isDigit
        | _ => rest
      let rest := skipExponent rest
      if startsSymbol rest then none else some rest
    else none
  | [] => none

/-- A literal word that no further character of a word follows. -/
def skipKeyword (word : String) (cs : List Char) : Option (List Char) :=
  match Text.afterPrefix? word.toList cs with
  | some rest => if startsSymbol rest then none else some rest
  | none => none

mutual

/-- The rest after a literal; `fuel` bounds the nesting and the number of items. -/
def skipLiteral : Nat → List Char → Option (List Char)
  | 0, _ => none
  | fuel + 1, cs =>
    match skipString cs with
    | some rest => some rest
    | none =>
      match skipArray fuel cs with
      | some rest => some rest
      | none =>
        match skipObject fuel cs with
        | some rest => some rest
        | none =>
          match skipNumber cs with
          | some rest => some rest
          | none =>
            match skipKeyword "null" cs with
            | some rest => some rest
            | none =>
              match skipKeyword "true" cs with
              | some rest => some rest
              | none => skipKeyword "false" cs

def skipArray : Nat → List Char → Option (List Char)
  | 0, _ => none
  | fuel + 1, cs =>
    match cs with
    | '[' :: rest =>
      match skipLiteral fuel (skipSpace rest) with
      | some rest => skipMoreItems fuel rest
      | none => skipMoreItems fuel rest
    | _ => none

def skipMoreItems : Nat → List Char → Option (List Char)
  | 0, _ => none
  | fuel + 1, cs =>
    match skipSpace cs with
    | ',' :: rest =>
      match skipLiteral fuel (skipSpace rest) with
      | some rest => skipMoreItems fuel rest
      | none => none
    | ']' :: rest => some rest
    | _ => none

def skipObject : Nat → List Char → Option (List Char)
  | 0, _ => none
  | fuel + 1, cs =>
    match cs with
    | '\x7b' :: rest =>
      match skipPair fuel (skipSpace rest) with
      | some rest => skipMorePairs fuel rest
      | none => skipMorePairs fuel rest
    | _ => none

def skipPair : Nat → List Char → Option (List Char)
  | 0, _ => none
  | fuel + 1, cs =>
    match skipString cs with
    | some rest =>
      match skipSpace rest with
      | ':' :: rest => skipLiteral fuel (skipSpace rest)
      | _ => none
    | none => none

def skipMorePairs : Nat → List Char → Option (List Char)
  | 0, _ => none
  | fuel + 1, cs =>
    match skipSpace cs with
    | ',' :: rest =>
      match skipPair fuel (skipSpace rest) with
      | some rest => skipMorePairs fuel rest
      | none => none
    | '\x7d' :: rest => some rest
    | _ => none

end

/-- What was taken from the front of `cs` to leave `rest`. -/
def taken (cs rest : List Char) : List Char :=
  cs.take (cs.length - rest.length)

/-- A text between single quotes as one between double quotes. -/
def requote (cs : List Char) : List Char :=
  let inner := (cs.drop 1).dropLast
  let inner := Text.replace ['\\', '\''] ['\''] inner
  '"' :: (Text.replace ['"'] ['\\', '"'] inner ++ ['"'])

/-- The value of a literal, if it is JSON. -/
def literalValue? (cs : List Char) : Option Json :=
  match cs with
  | '\'' :: _ => Json.parseChars (requote cs)
  | _ => Json.parseChars cs

/-! ## References -/

def isDivider (c : Char) : Bool := c == '/' || c == '.'

def skipDivider : List Char → Option (List Char)
  | c :: cs => if isDivider c then some cs else none
  | [] => none

/-- A name of a reference, plain or between brackets. -/
def readName : Reader String := fun cs =>
  match readWord cs with
  | some r => some r
  | none =>
    match cs with
    | '[' :: rest =>
      match rest.dropWhile (· ≠ ']') with
      | _ :: after => some (String.ofList (rest.takeWhile (· ≠ ']')), after)
      | [] => none
    | _ => none

/-- The name `this` stands for the value itself and is no step. -/
def nameSteps (name : String) : List Step :=
  if name = "this" then [] else [.name name]

def readMoreNames : Nat → List Char → List Step × List Char
  | 0, cs => ([], cs)
  | fuel + 1, cs =>
    match skipDivider cs with
    | some rest =>
      match readName rest with
      | some (name, rest) =>
        let (steps, rest) := readMoreNames fuel rest
        (nameSteps name ++ steps, rest)
      | none => ([], cs)
    | none => ([], cs)

def readUps : Nat → List Char → List Step × List Char
  | 0, cs => ([], cs)
  | fuel + 1, cs =>
    match cs with
    | '.' :: '.' :: rest =>
      match skipDivider rest with
      | some rest =>
        let (steps, rest) := readUps fuel rest
        (.up :: steps, rest)
      | none => ([], cs)
    | _ => ([], cs)

/-- Pass over a leading `this/` or `./`. -/
def skipCurrent (cs : List Char) : List Char :=
  match Text.afterPrefix? "this".toList cs with
  | some rest => (skipDivider rest).getD cs
  | none => (Text.afterPrefix? "./".toList cs).getD cs

def readRoot (cs : List Char) : List Step × List Char :=
  match Text.afterPrefix? "@root".toList cs with
  | some rest =>
    match skipDivider rest with
    | some rest => ([.root], rest)
    | none => ([], cs)
  | none => ([], cs)

def readHere (cs : List Char) : List Step × List Char :=
  match cs with
  | '@' :: rest => ([.here], rest)
  | _ => ([], cs)

def readReference : Reader Reference := fun cs =>
  let (root, rest) := readRoot (skipCurrent cs)
  let (here, rest) := readHere rest
  let (ups, rest) := readUps rest.length rest
  match readName rest with
  | some (name, rest) =>
    let (more, rest) := readMoreNames rest.length rest
    some (⟨String.ofList (taken cs rest), root ++ here ++ ups ++ nameSteps name ++ more⟩, rest)
  | none => none

/-! ## Operands -/

/-- Whether a word stands here that opens another part of a tag. -/
def atKeyword (cs : List Char) : Bool :=
  ["as", "else"].any fun word =>
    match Text.afterPrefix? word.toList cs with
    | some rest => !startsSymbol (skipSpace rest)
    | none => false

/-- An operand by position, or one with a name. -/
inductive Argument where
  | plain (operand : Operand)
  | named (name : String) (operand : Operand)
  /-- A literal that is not JSON. -/
  | bad
deriving Inhabited

namespace Argument

def withName (name : String) : Argument → Argument
  | plain o => named name o
  | a => a

end Argument

/-- Operands in the order they were written; of two with one name the later counts. -/
def collect (head : Operand) (args : List Argument) : Option Call :=
  args.foldl (fun call? a =>
    match call?, a with
    | none, _ => none
    | some _, .bad => none
    | some c, .plain o => some { c with args := c.args ++ [o] }
    | some c, .named n o => some { c with named := (c.named.filter (·.1 ≠ n)) ++ [(n, o)] })
    (some { head := head })

mutual

def readOperand : Nat → List Char → Option (Argument × List Char)
  | 0, _ => none
  | fuel + 1, cs =>
    if atKeyword cs then none
    else
      match skipLiteral (depthOf cs) cs with
      | some rest =>
        match literalValue? (taken cs rest) with
        | some v => some (.plain (.literal v), rest)
        | none => some (.bad, rest)
      | none =>
        match readReference cs with
        | some (r, rest) => some (.plain (.reference r), rest)
        | none => readInner fuel cs

/-- A call between parentheses. -/
def readInner : Nat → List Char → Option (Argument × List Char)
  | 0, _ => none
  | fuel + 1, cs =>
    match cs with
    | '(' :: rest =>
      let rest := skipSpace rest
      match readCallBody fuel rest with
      | some (call?, rest) =>
        match skipSpace rest with
        | ')' :: rest =>
          match call? with
          | some c => some (.plain (.call c.head c.args c.named), rest)
          | none => some (.bad, rest)
        | _ => none
      | none =>
        match readReference rest with
        | some (r, rest) =>
          match skipSpace rest with
          | ')' :: rest => some (.plain (.call (.reference r) [] []), rest)
          | _ => none
        | none => none
    | _ => none

/-- A word with at least one operand. -/
def readCallBody : Nat → List Char → Option (Option Call × List Char)
  | 0, _ => none
  | fuel + 1, cs =>
    match readWord cs with
    | some (word, rest) =>
      match readArguments fuel rest with
      | ([], _) => none
      | (args, rest) => some (collect (.word word) args, rest)
    | none => none

def readArguments : Nat → List Char → List Argument × List Char
  | 0, cs => ([], cs)
  | fuel + 1, cs =>
    match readArgument fuel (skipSpace cs) with
    | some (a, rest) =>
      let (more, rest) := readArguments fuel rest
      (a :: more, rest)
    | none => ([], cs)

def readArgument : Nat → List Char → Option (Argument × List Char)
  | 0, _ => none
  | fuel + 1, cs =>
    match readNamed fuel cs with
    | some r => some r
    | none => readOperand fuel cs

def readNamed : Nat → List Char → Option (Argument × List Char)
  | 0, _ => none
  | fuel + 1, cs =>
    match readWord cs with
    | some (name, rest) =>
      match skipSpace rest with
      | '=' :: rest =>
        match readOperand fuel (skipSpace rest) with
        | some (a, rest) => some (a.withName name, rest)
        | none => none
      | _ => none
    | none => none

end

/-- What a value tag holds: a call, a reference or a call between parentheses. The inner `none`
stands for a call with a literal that is not JSON. -/
def readTagBody (cs : List Char) : Option (Option Call × List Char) :=
  match readCallBody (depthOf cs) cs with
  | some r => some r
  | none => readTagName cs
where
  readTagName (cs : List Char) : Option (Option Call × List Char) :=
    match readInner (depthOf cs) cs with
    | some (.plain o, rest) => some (some { head := o }, rest)
    | some (_, rest) => some (none, rest)
    | none =>
      match readReference cs with
      | some (r, rest) => some (some { head := .reference r }, rest)
      | none => none

/-- A reference or a call between parentheses alone. -/
def readBareName (cs : List Char) : Option (Option Call × List Char) :=
  readTagBody.readTagName cs

/-- Names between bars after `as`. -/
def readBinders (cs : List Char) : Option (List String × List Char) :=
  match expectText "as" cs with
  | none => none
  | some rest =>
    match expectText "|" rest with
    | none => none
    | some rest =>
      match readWord (skipSpace rest) with
      | none => none
      | some (first, rest) =>
        match readWord (skipSpace rest) with
        | some (second, after) => (expectText "|" after).map fun rest => ([first, second], rest)
        | none => (expectText "|" rest).map fun rest => ([first], rest)

/-- A word with operands and binders, as blocks are opened with. -/
def readOpening (cs : List Char) : Option (Option Opening × List Char) :=
  match readWord cs with
  | none => none
  | some (word, rest) =>
    let (args, rest) := readArguments (depthOf rest) rest
    let call? := collect (.word word) args
    match readBinders rest with
    | some (binders, rest) => some (call?.map (⟨·, binders⟩), rest)
    | none => some (call?.map (⟨·, []⟩), rest)

end Scaffold.Template

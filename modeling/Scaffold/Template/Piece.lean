import Scaffold.Template.Reader
import Scaffold.Text.Blank

/-!
# Pieces

A template taken apart, in one line: text and tags in turn. A backslash keeps a tag from being
one. Blanks between two tags are a piece of their own, because a tag can ask for them to go.
-/

namespace Scaffold.Template

inductive Tag where
  | value (call : Call) (escaped : Bool)
  | opening (head : Opening)
  | otherwise
  | otherwiseCall (head : Opening)
  | closing (name : String)
  | rawOpening (head : Opening)
  | rawClosing (name : String)
  | comment
  | define (call : Call)
  | defineOpening (call : Call)
  /-- An inclusion, with the blanks in front of it. -/
  | inclusion (call : Call) (indent : List Char)
  | inclusionOpening (call : Call)
deriving Inhabited

namespace Tag

/-- Tell an inclusion about the blanks in front of it. -/
def indented (blanks : List Char) : Tag → Tag
  | inclusion call _ => inclusion call blanks
  | t => t

end Tag

/-- A tag with its signs for cutting blanks on either side. -/
structure Marked where
  tag : Tag
  cutBefore : Bool := false
  cutAfter : Bool := false
deriving Inhabited

inductive Piece where
  /-- Blanks between two tags. -/
  | gap (chars : List Char)
  | text (chars : List Char)
  /-- The inside of a raw block. -/
  | verbatim (chars : List Char)
  /-- A tag, and whether it has its line to itself. -/
  | tag (marked : Marked) (alone : Bool)
deriving Inhabited

/-! ## Tags -/

/-- The sign for cutting blanks, and what follows it. -/
def readCut (cs : List Char) : Bool × List Char :=
  match skipSpace cs with
  | '~' :: rest => (true, rest)
  | _ => (false, cs)

/-- Read a tag: `lead`, a cut sign, `mark`, the body, a cut sign and `tail`. -/
def readMarked (lead mark tail : String) (body : List Char → Option (Option Tag × List Char))
    (cs : List Char) : Option (Option Marked × List Char) :=
  match Text.afterPrefix? lead.toList cs with
  | none => none
  | some rest =>
    let (cutBefore, rest) := readCut rest
    match (if mark.isEmpty then some rest else expectText mark rest) with
    | none => none
    | some rest =>
      match body (skipSpace rest) with
      | none => none
      | some (tag?, rest) =>
        let (cutAfter, rest) := readCut rest
        match expectText tail rest with
        | none => none
        | some rest => some (tag?.map fun tag => { tag, cutBefore, cutAfter }, rest)

def readElseMark (cs : List Char) : Option (List Char) :=
  match Text.afterPrefix? "else".toList cs with
  | some rest => some rest
  | none => Text.afterPrefix? "^".toList cs

def readElse (cs : List Char) : Option (Option Tag × List Char) :=
  (readElseMark cs).map fun rest => (some .otherwise, rest)

def readElseCall (cs : List Char) : Option (Option Tag × List Char) :=
  match readElseMark cs with
  | none => none
  | some rest =>
    match readOpening (skipSpace rest) with
    | some (head?, rest) => some (head?.map .otherwiseCall, rest)
    | none => none

def readValue (escaped : Bool) (cs : List Char) : Option (Option Tag × List Char) :=
  match readTagBody cs with
  | some (call?, rest) => some (call?.map (.value · escaped), rest)
  | none => none

/-- A value between braces of its own, which is not escaped. -/
def readBraced (cs : List Char) : Option (Option Tag × List Char) :=
  match readValue false cs with
  | some (tag?, rest) => (expectText "\x7d" rest).map fun rest => (tag?, rest)
  | none => none

def readPlainName (cs : List Char) : Option (Option Tag × List Char) :=
  match readBareName cs with
  | some (call?, rest) => some (call?.map (.value · false), rest)
  | none => none

def readHead (make : Opening → Tag) (cs : List Char) : Option (Option Tag × List Char) :=
  match readOpening cs with
  | some (head?, rest) => some (head?.map make, rest)
  | none => none

def readClose (make : String → Tag) (cs : List Char) : Option (Option Tag × List Char) :=
  match readWord cs with
  | some (name, rest) => some (some (make name), rest)
  | none => none

/-- Read what follows a second mark. -/
def readAfter (mark : String) (body : List Char → Option (Option Tag × List Char))
    (cs : List Char) : Option (Option Tag × List Char) :=
  (expectText mark cs).bind fun rest => body (skipSpace rest)

def skipComment (stop : List Char) : List Char → Option (List Char)
  | [] => none
  | c :: cs =>
    match Text.afterPrefix? stop (c :: cs) with
    | some rest => some rest
    | none => skipComment stop cs

/-- A comment, whose text may hold closing braces only between dashes. -/
def readComment (cs : List Char) : Option (Option Marked × List Char) :=
  match Text.afterPrefix? "\x7b\x7b".toList cs with
  | none => none
  | some rest =>
    match expectText "!" rest with
    | none => none
    | some rest =>
      let dashed := match expectText "--" rest with
        | some inner => skipComment "--\x7d\x7d".toList inner
        | none => none
      match dashed with
      | some rest => some (some ⟨.comment, false, false⟩, rest)
      | none =>
        (skipComment "\x7d\x7d".toList rest).map fun rest => (some ⟨.comment, false, false⟩, rest)

/-- Characters of the names of other templates. -/
def isIncludedSymbol (c : Char) : Bool := isSymbol c || c == '/' || c == '.'

/-- The name of another template: a plain one, a quoted one or a call. -/
def readIncludedName (cs : List Char) : Option (Option Operand × List Char) :=
  match cs.takeWhile isIncludedSymbol with
  | [] =>
    match cs with
    | '\'' :: rest =>
      match skipQuoted '\'' rest with
      | some after => some (some (.word (String.ofList (taken rest after).dropLast)), after)
      | none => none
    | _ => (readBareName cs).map fun (call?, rest) => (call?.map Call.head, rest)
  | word => some (some (.word (String.ofList word)), cs.dropWhile isIncludedSymbol)

/-- The name after the sign of an inclusion, with operands. -/
def readIncluded (make : Call → Tag) (cs : List Char) : Option (Option Tag × List Char) :=
  match readIncludedName cs with
  | some (some name, rest) =>
    let (args, rest) := readArguments (depthOf rest) rest
    some ((collect name args).map make, rest)
  | some (none, rest) => some (none, rest)
  | none => none

/-- The end of a block that includes, whose name may hold more than a word does. -/
def readIncludedClose (cs : List Char) : Option (Option Tag × List Char) :=
  match readIncludedName cs with
  | some (some (.word name), rest) => some (some (.closing name), rest)
  | _ => none

/-- The first reader that takes something. -/
def firstOf {α : Type} : List (List Char → Option α) → List Char → Option α
  | [], _ => none
  | r :: rs, cs =>
    match r cs with
    | some a => some a
    | none => firstOf rs cs

/-- The tag at the front; the inner `none` stands for one with a literal that is not JSON. -/
def readTag : List Char → Option (Option Marked × List Char) :=
  let lead := "\x7b\x7b"
  let tail := "\x7d\x7d"
  firstOf [
    readMarked lead "" tail readElseCall,
    readMarked lead "" tail readElse,
    readMarked lead "" tail (readValue true),
    readMarked "\x7b\x7b\x7b" "" "\x7d\x7d\x7d" (readValue false),
    readMarked lead "\x7b" tail readBraced,
    readMarked lead "&" tail readPlainName,
    readMarked lead "#" tail (readHead .opening),
    readMarked lead "/" tail (readClose .closing),
    readMarked lead "/" tail readIncludedClose,
    readMarked "\x7b\x7b\x7b\x7b" "" "\x7d\x7d\x7d\x7d" (readHead .rawOpening),
    readComment,
    readMarked lead "*" tail (readHead fun o => .define o.call),
    readMarked lead "#" tail (readAfter "*" (readHead fun o => .defineOpening o.call)),
    readMarked lead ">" tail (readIncluded (.inclusion · [])),
    readMarked lead "#" tail (readAfter ">" (readIncluded .inclusionOpening))]

/-! ## Text -/

/-- Pass over text up to a tag. A backslash in front of a tag goes away and keeps the tag from
being one; of several backslashes in front of a tag one goes away and the tag counts. `stop` is
what ends the text. -/
def readText (stop : List Char) : Nat → List Char → List Char × List Char
  | 0, cs => ([], cs)
  | _ + 1, [] => ([], [])
  | fuel + 1, c :: cs =>
    let lead := "\x7b\x7b".toList
    let plain := fun (_ : Unit) =>
      match Text.afterPrefix? stop (c :: cs) with
      | some _ => ([], c :: cs)
      | none =>
        let (text, rest) := readText stop fuel cs
        (c :: text, rest)
    if c = '\\' then
      match Text.afterPrefix? lead cs with
      | some rest =>
        match Text.afterPrefix? lead rest with
        | some rest =>
          let (text, rest) := readText stop fuel rest
          (lead ++ lead ++ text, rest)
        | none =>
          let (text, rest) := readText stop fuel rest
          (lead ++ text, rest)
      | none =>
        let slashes := cs.takeWhile (· = '\\')
        let after := cs.dropWhile (· = '\\')
        if slashes.isEmpty then plain ()
        else
          match Text.afterPrefix? lead after with
          | some _ =>
            let (text, rest) := readText stop fuel after
            (slashes ++ text, rest)
          | none => plain ()
    else plain ()

/-- Blanks that do not end a line. -/
def isInlineBlank (c : Char) : Bool := c == ' ' || c == '\t'

def isLineEnd (c : Char) : Bool := c == '\n' || c == '\r'

/-- Whether nothing but blanks stands before the end of the line; the text has to go on. -/
def startsBlankLine (cs : List Char) : Bool :=
  match cs.dropWhile isInlineBlank with
  | c :: _ => isLineEnd c
  | [] => false

/-- The line so far. -/
structure LineSoFar where
  /-- Whether it is blank. -/
  blank : Bool := false
  /-- The blanks at its end, last one first. -/
  blanks : List Char := []
deriving Inhabited

namespace LineSoFar

def step (l : LineSoFar) (c : Char) : LineSoFar :=
  if isLineEnd c then { blank := true }
  else if isInlineBlank c then { l with blanks := c :: l.blanks }
  else {}

def extend (l : LineSoFar) (cs : List Char) : LineSoFar :=
  cs.foldl step l

end LineSoFar

/-- The inside and the end of a raw block; `line` is the line in front of it. -/
def readRawBlock (line : LineSoFar) (cs : List Char) : Option (List Piece × List Char) :=
  let cs := skipSpace cs
  let (text, rest) := readText "\x7b\x7b\x7b\x7b".toList cs.length cs
  let line := line.extend (taken cs rest)
  match readMarked "\x7b\x7b\x7b\x7b" "/" "\x7d\x7d\x7d\x7d" (readClose .rawClosing) rest with
  | some (some m, after) =>
    some ([.verbatim text, .tag m (line.blank && startsBlankLine after)], after)
  | _ => none

/-- All pieces, or `none` if some tag cannot be read. -/
def readPieces : Nat → LineSoFar → List Char → Option (List Piece)
  | 0, _, cs => if cs.isEmpty then some [] else none
  | fuel + 1, line, cs =>
    let gap := cs.takeWhile isSpace
    let rest := cs.dropWhile isSpace
    match rest with
    | [] => some (if gap.isEmpty then [] else [.gap gap])
    | _ =>
      match Text.afterPrefix? "\x7b\x7b".toList rest with
      | none =>
        let (text, after) := readText "\x7b\x7b".toList rest.length rest
        (readPieces fuel (line.extend (taken cs after)) after).map fun more =>
          .text (gap ++ text) :: more
      | some _ =>
        let line := line.extend gap
        let front : List Piece := if gap.isEmpty then [] else [.gap gap]
        match readTag rest with
        | some (some m, after) =>
          let m := { m with tag := m.tag.indented line.blanks.reverse }
          let piece : Piece := .tag m (line.blank && startsBlankLine after)
          match m.tag with
          | .rawOpening _ =>
            match readRawBlock (LineSoFar.extend {} (taken after (skipSpace after))) after with
            | some (inner, after) =>
              (readPieces fuel {} after).map fun more => front ++ piece :: inner ++ more
            | none => none
          | _ => (readPieces fuel {} after).map fun more => front ++ piece :: more
        | _ => none

def piecesOf? (cs : List Char) : Option (List Piece) :=
  readPieces (cs.length + 1) { blank := true } cs

end Scaffold.Template

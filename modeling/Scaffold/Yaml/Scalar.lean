import Scaffold.Yaml.Cursor

/-!
# Scalars

The texts of scalars. Line breaks inside of plain and quoted scalars are folded: one becomes a
space, of more of them the first is dropped. Block scalars take their indentation from their
first line unless it is given, and keep or drop the breaks at their end as asked for.
-/

namespace Scaffold.Yaml

inductive ScalarStyle where
  | plain
  | quoted
  | literal
  | folded
deriving DecidableEq, Inhabited

/-! ## Folding -/

/-- A text while it is read, with the gaps and breaks that may still become part of it; all but
the first break are kept backwards. -/
structure Folding where
  text : List Char := []
  gaps : List Char := []
  firstBreak : List Char := []
  breaks : List Char := []
  /-- Whether a break has been met since the last word. -/
  isBroken : Bool := false

namespace Folding

/-- Make the gaps and breaks part of the text. -/
def join (f : Folding) : Folding :=
  if f.isBroken then
    if f.firstBreak = ['\n'] then
      { text := if f.breaks.isEmpty then ' ' :: f.text else f.breaks ++ f.text }
    else { text := f.breaks ++ f.firstBreak ++ f.text }
  else { text := f.gaps ++ f.text }

def add (f : Folding) (cs : List Char) : Folding :=
  { f with text := cs.reverse ++ f.text }

def addGap (f : Folding) (c : Char) : Folding :=
  if f.isBroken then f else { f with gaps := c :: f.gaps }

def addBreak (f : Folding) (cs : List Char) : Folding :=
  if f.isBroken then { f with breaks := cs ++ f.breaks }
  else { f with gaps := [], firstBreak := cs, isBroken := true }

end Folding

/-- Read gaps and breaks. After a break no tab may stand before the column given. -/
def readGaps (margin : Nat) : Nat → Cursor → Folding → Option (Folding × Cursor)
  | 0, c, f => some (f, c)
  | fuel + 1, c, f =>
    match c.rest with
    | [] => some (f, c)
    | ch :: _ =>
      if isGap ch then
        if f.isBroken && c.column < margin && ch == '\t' then none
        else readGaps margin fuel c.skip (f.addGap ch)
      else if isBreak ch then readGaps margin fuel c.skipBreak (f.addBreak c.breakText)
      else some (f, c)

/-! ## Plain scalars -/

def isFlowMark (c : Char) : Bool :=
  c == ',' || c == '[' || c == ']' || c == '\x7b' || c == '\x7d'

/-- The plain characters in front; in a flow collection a colon may not touch a flow mark. -/
def plainWord? (inFlow : Bool) : List Char → Option (List Char)
  | [] => some []
  | ch :: rest =>
    if isGap ch || isBreak ch then some []
    else if inFlow && ch == ':' && rest.head?.any (fun d => isFlowMark d || d == '?') then none
    else if (ch == ':' && endsWord rest) || (inFlow && isFlowMark ch) then some []
    else (plainWord? inFlow rest).map (ch :: ·)

/-- A plain scalar, with whether it reached over a line break. -/
def plainScalar? (inFlow : Bool) (margin : Nat) :
    Nat → Cursor → Folding → Option (List Char × Bool × Cursor)
  | 0, _, _ => none
  | fuel + 1, c, f =>
    let stop (f : Folding) (c : Cursor) := some (f.text.reverse, f.isBroken, c)
    if c.atDocumentMark || c.startsWith '#' then stop f c
    else
      match plainWord? inFlow c.rest with
      | none => none
      | some word =>
        let f := if word.isEmpty then f else f.join.add word
        let c := c.advance word.length
        if c.rest.isEmpty || !endsWord c.rest then stop f c
        else
          match readGaps margin c.rest.length c f with
          | none => none
          | some (f, c) =>
            if !inFlow && c.column < margin then stop f c
            else plainScalar? inFlow margin fuel c f

/-! ## Quoted scalars -/

/-- The character that an escape of one letter stands for. -/
def escaped? (c : Char) : Option Char :=
  match c with
  | '0' => some '\x00'
  | 'a' => some '\x07'
  | 'b' => some '\x08'
  | 't' => some '\t'
  | '\t' => some '\t'
  | 'n' => some '\n'
  | 'v' => some '\x0b'
  | 'f' => some '\x0c'
  | 'r' => some '\r'
  | 'e' => some '\x1b'
  | ' ' => some ' '
  | '"' => some '"'
  | '/' => some '/'
  | '\\' => some '\\'
  | 'N' => some '\x85'
  | '_' => some '\xa0'
  | 'L' => some '\u2028'
  | 'P' => some '\u2029'
  | _ => none

/-- How many digits follow the letter of an escape. -/
def escapeLength? (c : Char) : Option Nat :=
  match c with
  | 'x' => some 2
  | 'u' => some 4
  | 'U' => some 8
  | _ => none

def hexValue? (c : Char) : Option Nat :=
  if '0' ≤ c ∧ c ≤ '9' then some (c.toNat - 48)
  else if 'a' ≤ c ∧ c ≤ 'f' then some (c.toNat - 87)
  else if 'A' ≤ c ∧ c ≤ 'F' then some (c.toNat - 55)
  else none

/-- A number of hexadecimal digits, all of which are needed. -/
def hexNumber? : Nat → Nat → List Char → Option Nat
  | 0, acc, _ => some acc
  | _ + 1, _, [] => none
  | n + 1, acc, c :: cs => (hexValue? c).bind fun d => hexNumber? n (16 * acc + d) cs

def codePoint? (n : Nat) : Option Char :=
  if n.isValidChar then some (Char.ofNat n) else none

/-- The characters of an escape behind its backslash, and what they stand for. -/
def escape? : List Char → Option (Char × Nat)
  | [] => none
  | e :: rest =>
    match escaped? e, escapeLength? e with
    | some ch, _ => some (ch, 1)
    | none, some n => (hexNumber? n 0 rest).bind fun v => (codePoint? v).map fun ch => (ch, n + 1)
    | none, none => none

/-- Read quoted characters up to a gap, a break or the closing quote. -/
def quotedWord? (quote : Char) : Nat → Cursor → Folding → Option (Folding × Cursor)
  | 0, _, _ => none
  | fuel + 1, c, f =>
    match c.rest with
    | [] => some (f, c)
    | ch :: rest =>
      if isGap ch || isBreak ch then some (f, c)
      else if ch == quote then
        if quote == '\'' && rest.head? == some '\'' then
          quotedWord? quote fuel (c.advance 2) (f.add ['\''])
        else some (f, c)
      else if quote == '"' && ch == '\\' then
        if rest.head?.any isBreak then some ({ f with isBroken := true }, c.skip.skipBreak)
        else
          match escape? rest with
          | some (d, n) => quotedWord? quote fuel (c.advance (n + 1)) (f.add [d])
          | none => none
      else quotedWord? quote fuel c.skip (f.add [ch])

/-- A quoted scalar behind its opening quote. -/
def quotedScalar? (quote : Char) : Nat → Cursor → Folding → Option (List Char × Cursor)
  | 0, _, _ => none
  | fuel + 1, c, f =>
    if c.atDocumentMark || c.rest.isEmpty then none
    else
      match quotedWord? quote (c.rest.length + 1) c f with
      | none => none
      | some (f, c) =>
        if c.startsWith quote then some (f.text.reverse, c.skip)
        else
          match readGaps 0 c.rest.length c f with
          | none => none
          | some (f, c) => quotedScalar? quote fuel c f.join

/-! ## Block scalars -/

inductive Chomping where
  | strip
  | clip
  | keep
deriving DecidableEq

/-- What stands behind the mark of a block scalar: how its end is treated, and its indentation
where it is given. -/
structure BlockHeader where
  chomping : Chomping := .clip
  increment : Option Nat := none

def chomping? (c : Char) : Option Chomping :=
  if c == '+' then some .keep else if c == '-' then some .strip else none

def increment? (c : Char) : Option Nat :=
  if '1' ≤ c ∧ c ≤ '9' then some (c.toNat - 48) else none

/-- The header of a block scalar, and the line break behind it. -/
def blockHeader? (c : Cursor) : Option (BlockHeader × Cursor) :=
  let given : BlockHeader × Nat :=
    match c.rest with
    | a :: b :: _ =>
      match chomping? a, increment? a, increment? b, chomping? b with
      | some ch, _, some n, _ => (⟨ch, some n⟩, 2)
      | some ch, _, none, _ => (⟨ch, none⟩, 1)
      | none, some n, _, some ch => (⟨ch, some n⟩, 2)
      | none, some n, _, none => (⟨.clip, some n⟩, 1)
      | none, none, _, _ => ({}, 0)
    | [a] =>
      match chomping? a, increment? a with
      | some ch, _ => (⟨ch, none⟩, 1)
      | none, some n => (⟨.clip, some n⟩, 1)
      | none, none => ({}, 0)
    | [] => ({}, 0)
  ((c.advance given.2).toLineEnd?).map fun c => (given.1, c)

/-- Empty lines in front of a line of a block scalar: their breaks backwards, and the deepest
column met. Without an indentation all spaces count to it. -/
def blockBreaks (indent : Option Nat) :
    Nat → Cursor → List Char → Nat → Option (List Char × Nat × Cursor)
  | 0, _, _, _ => none
  | fuel + 1, c, breaks, deepest =>
    let inside (n : Nat) : Bool := indent.all fun i => n < i
    let spaces := (c.rest.takeWhile (· == ' ')).length
    let c := c.advance (match indent with
      | none => spaces
      | some i => min spaces (i - c.column))
    let deepest := max deepest c.column
    if inside c.column && c.startsWith '\t' then none
    else if c.rest.head?.any isBreak then
      blockBreaks indent fuel c.skipBreak (c.breakText ++ breaks) deepest
    else some (breaks, deepest, c)

/-- The lines of a block scalar: its text backwards, its last break, and the breaks after it. -/
def blockLines (literal : Bool) (indent : Nat) :
    Nat → Cursor → List Char → (lead : List Char) → (breaks : List Char) → (afterGap : Bool) →
    Option (List Char × List Char × List Char × Cursor)
  | 0, _, _, _, _, _ => none
  | fuel + 1, c, text, lead, breaks, afterGap =>
    if c.column ≠ indent || c.rest.isEmpty then some (text, lead, breaks, c)
    else
      let gap := c.rest.head?.any isGap
      let text :=
        if !literal && lead == ['\n'] && !afterGap && !gap then
          if breaks.isEmpty then ' ' :: text else text
        else lead ++ text
      let line := c.restOfLine
      let c := c.advance line.length
      let text := line.reverse ++ breaks ++ text
      let lead := c.breakText
      match blockBreaks (some indent) (c.rest.length + 2) c.skipBreak [] 0 with
      | none => none
      | some (breaks, _, c) => blockLines literal indent fuel c text lead breaks gap

/-- A block scalar behind its mark; `parent` is the indentation of what it stands in. -/
def blockScalar? (literal : Bool) (parent : Int) (c : Cursor) : Option (List Char × Cursor) :=
  match blockHeader? c with
  | none => none
  | some (header, c) =>
    let given := header.increment.map fun n => ((max parent 0) + n).toNat
    match blockBreaks given (c.rest.length + 1) c [] 0 with
    | none => none
    | some (breaks, deepest, c) =>
      let indent := given.getD (max (max deepest (parent + 1).toNat) 1)
      match blockLines literal indent (c.rest.length + 2) c [] [] breaks false with
      | none => none
      | some (text, lead, breaks, c) =>
        let text := match header.chomping with
          | .strip => text
          | .clip => lead ++ text
          | .keep => breaks ++ lead ++ text
        some (text.reverse, c)

end Scaffold.Yaml

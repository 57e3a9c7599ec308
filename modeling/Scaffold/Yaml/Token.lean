import Scaffold.Yaml.Scalar

/-!
# Tokens

A text becomes a list of tokens, in which indentation shows as starts and ends of blocks. What
turns out to be a key by the colon behind it gets its key token put in front of it afterwards;
so every place where a key may begin is remembered until it is clear that none does.
-/

namespace Scaffold.Yaml

inductive Token where
  | streamEnd
  | version (major minor : Nat)
  | tagDirective (handle lead : List Char)
  | documentStart
  | documentEnd
  | blockSequenceStart
  | blockMappingStart
  | blockEnd
  | flowSequenceStart
  | flowSequenceEnd
  | flowMappingStart
  | flowMappingEnd
  | blockEntry
  | flowEntry
  | key
  | value
  | reference (name : List Char)
  | anchor (name : List Char)
  | tag (handle suffix : List Char)
  | scalar (text : List Char) (style : ScalarStyle)
deriving DecidableEq, Inhabited

/-! ## Tags and directives -/

def isTagMark (c : Char) : Bool :=
  ";/?:@&=+$.%!~*'()".toList.contains c

/-- The bytes of escapes that stand one after the other, as many as a character has. -/
def escapedBytes? : Nat → List Char → Option (List Nat × List Char)
  | 0, cs => some ([], cs)
  | n + 1, '%' :: a :: b :: cs =>
    match hexNumber? 2 0 [a, b], escapedBytes? n cs with
    | some v, some (vs, rest) => some (v :: vs, rest)
    | _, _ => none
  | _ + 1, _ => none

/-- How many bytes a character has that begins with the given one. -/
def byteCount? (lead : Nat) : Option Nat :=
  if lead < 0x80 then some 1
  else if 0xC0 ≤ lead ∧ lead < 0xE0 then some 2
  else if 0xE0 ≤ lead ∧ lead < 0xF0 then some 3
  else if 0xF0 ≤ lead ∧ lead < 0xF8 then some 4
  else none

/-- The number that the bytes of a character stand for. -/
def byteValue? : List Nat → Option Nat
  | [] => none
  | lead :: rest =>
    if rest.all fun v => 0x80 ≤ v ∧ v < 0xC0 then
      let first := match rest.length with
        | 0 => lead
        | 1 => lead % 0x20
        | 2 => lead % 0x10
        | _ => lead % 0x08
      some (rest.foldl (fun acc v => 64 * acc + v % 64) first)
    else none

/-- A character written as escaped bytes. -/
def uriEscape? (cs : List Char) : Option (Char × List Char) :=
  match escapedBytes? 1 cs with
  | some ([lead], _) =>
    match byteCount? lead with
    | none => none
    | some n =>
      match escapedBytes? n cs with
      | none => none
      | some (bytes, rest) =>
        ((byteValue? bytes).bind codePoint?).map fun ch => (ch, rest)
  | _ => none

/-- The text of a tag as far as it goes; in brackets more characters may stand. -/
def tagText? (inBrackets : Bool) : Nat → List Char → Option (List Char × List Char)
  | 0, _ => none
  | fuel + 1, cs =>
    match cs with
    | [] => some ([], [])
    | c :: rest =>
      if c == '%' then
        match uriEscape? cs with
        | none => none
        | some (ch, rest) => (tagText? inBrackets fuel rest).map fun (t, r) => (ch :: t, r)
      else if isNameChar c || isTagMark c ||
          (inBrackets && (c == ',' || c == '[' || c == ']')) then
        (tagText? inBrackets fuel rest).map fun (t, r) => (c :: t, r)
      else some ([], cs)

/-- Read the text of a tag in the line. -/
def Cursor.tagText? (c : Cursor) (inBrackets : Bool) : Option (List Char × Cursor) :=
  (Yaml.tagText? inBrackets (c.rest.length + 1) c.rest).map fun (t, rest) =>
    (t, c.advance (c.rest.length - rest.length))

/-- A handle at the front: `!`, name characters, and a second `!` if there is one. -/
def tagHandle (cs : List Char) : List Char :=
  let word := cs.tail.takeWhile isNameChar
  match cs.tail.dropWhile isNameChar with
  | '!' :: _ => '!' :: word ++ ['!']
  | _ => '!' :: word

/-- A handle that is closed by a second `!`. -/
def isClosed (handle : List Char) : Bool :=
  2 ≤ handle.length && handle.getLast? == some '!'

def verbatimTag? (c : Cursor) : Option (Token × Cursor) :=
  match (c.advance 2).tagText? true with
  | none => none
  | some (suffix, c) =>
    if !suffix.isEmpty && c.startsWith '>' then some (.tag [] suffix, c.skip) else none

/-- A tag with a handle, or one of which the first `!` is all the handle there is. -/
def shortTag? (c : Cursor) : Option (Token × Cursor) :=
  let handle := tagHandle c.rest
  if isClosed handle then
    match (c.advance handle.length).tagText? false with
    | none => none
    | some (suffix, c) => if suffix.isEmpty then none else some (.tag handle suffix, c)
  else
    match (c.advance handle.length).tagText? false with
    | none => none
    | some (more, c) =>
      let suffix := handle.tail ++ more
      some (if suffix.isEmpty then .tag [] ['!'] else .tag ['!'] suffix, c)

def readTag? (inFlow : Bool) (c : Cursor) : Option (Token × Cursor) :=
  let tag? := match c.rest with
    | '!' :: '<' :: _ => verbatimTag? c
    | _ => shortTag? c
  match tag? with
  | none => none
  | some (t, c) =>
    if endsWord c.rest || (inFlow && c.startsWith ',') then some (t, c) else none

/-- A number of a version, of at most nine digits. -/
def versionNumber? (c : Cursor) : Option (Nat × Cursor) :=
  let digits := c.rest.takeWhile Char.isDigit
  if digits.isEmpty || 9 < digits.length then none
  else some (digits.foldl (fun n d => 10 * n + (d.toNat - 48)) 0, c.advance digits.length)

def versionDirective? (c : Cursor) : Option (Token × Cursor) :=
  match versionNumber? (c.skipWhile isGap) with
  | none => none
  | some (major, c) =>
    if c.startsWith '.' then
      (versionNumber? c.skip).map fun (minor, c) => (.version major minor, c)
    else none

def tagDirective? (c : Cursor) : Option (Token × Cursor) :=
  let c := c.skipWhile isGap
  if !c.startsWith '!' then none
  else
    let handle := tagHandle c.rest
    let c := c.advance handle.length
    if !(isClosed handle || handle == ['!']) || !c.rest.head?.any isGap then none
    else
      match (c.skipWhile isGap).tagText? true with
      | none => none
      | some (lead, c) =>
        if lead.isEmpty || !endsWord c.rest then none else some (.tagDirective handle lead, c)

/-- A directive behind its percent sign, with the rest of its line. -/
def readDirective? (c : Cursor) : Option (Token × Cursor) :=
  let name := c.rest.takeWhile isNameChar
  let c := c.advance name.length
  if name.isEmpty || !endsWord c.rest then none
  else
    let directive? :=
      if name = "YAML".toList then versionDirective? c
      else if name = "TAG".toList then tagDirective? c
      else none
    match directive? with
    | none => none
    | some (t, c) => (c.toLineEnd?).map fun c => (t, c)

/-- The name of an anchor or an alias behind its mark. -/
def readName? (c : Cursor) : Option (List Char × Cursor) :=
  let name := c.rest.takeWhile isNameChar
  let c := c.advance name.length
  let isEnded := endsWord c.rest || c.rest.head?.any fun d => "?:,]\x7d%@\x60".toList.contains d
  if name.isEmpty || !isEnded then none else some (name, c)

/-! ## The scanner -/

/-- A place where a key may begin. -/
structure KeyPlace where
  /-- Whether it has to be a key. -/
  isRequired : Bool
  /-- How many tokens stand in front. -/
  tokens : Nat
  index : Nat
  line : Nat
  column : Nat

structure Scanner where
  cursor : Cursor
  tokens : Array Token := #[]
  indent : Int := -1
  /-- Indentations of the blocks around, innermost first. -/
  indents : List Int := []
  mayBeKey : Bool := true
  /-- Possible keys: of the innermost flow collection first, of the block last. -/
  keys : List (Option KeyPlace) := [none]

namespace Scanner

def inFlow (s : Scanner) : Bool :=
  1 < s.keys.length

def emit (s : Scanner) (t : Token) : Scanner :=
  { s with tokens := s.tokens.push t }

def insertAt (s : Scanner) (i : Nat) (t : Token) : Scanner :=
  { s with tokens := s.tokens.insertIdxIfInBounds i t }

def setKey (s : Scanner) (k : Option KeyPlace) : Scanner :=
  { s with keys := k :: s.keys.tail }

/-- Go over gaps, comments and line breaks. -/
def toNextToken : Nat → Scanner → Scanner
  | 0, s => s
  | fuel + 1, s =>
    let c := s.cursor
    let c := if c.index == 0 && c.startsWith '\ufeff' then c.skip else c
    let c := c.skipWhile fun ch => ch == ' ' || (ch == '\t' && (s.inFlow || !s.mayBeKey))
    let c := if c.startsWith '#' then c.advance c.restOfLine.length else c
    if c.rest.head?.any isBreak then
      toNextToken fuel { s with cursor := c.skipBreak, mayBeKey := s.mayBeKey || !s.inFlow }
    else { s with cursor := c }

/-- Whether a key can no longer end: keys stay in one line and below a length. -/
def isStale (c : Cursor) (k : KeyPlace) : Bool :=
  k.line < c.line || k.index + 1024 < c.index

/-- Forget keys that can no longer end; none of them may be required. -/
def dropStale? (s : Scanner) : Option Scanner :=
  let stale (k : Option KeyPlace) : Bool := k.any (isStale s.cursor)
  if s.keys.any fun k => stale k && k.any (·.isRequired) then none
  else some { s with keys := s.keys.map fun k => if stale k then none else k }

/-- Forget the innermost possible key, which may not be required. -/
def dropKey? (s : Scanner) : Option Scanner :=
  match s.keys with
  | some k :: _ => if k.isRequired then none else some (s.setKey none)
  | _ => some s

/-- Remember that a key may begin here, where one may. -/
def saveKey? (s : Scanner) : Option Scanner :=
  if s.mayBeKey then
    let c := s.cursor
    let place : KeyPlace :=
      { isRequired := !s.inFlow && s.indent == (c.column : Int)
        tokens := s.tokens.size, index := c.index, line := c.line, column := c.column }
    s.dropKey?.map fun s => s.setKey (some place)
  else some s

/-- Begin a block if the column lies deeper; its start goes in front of a number of tokens. -/
def openBlock (s : Scanner) (column : Nat) (at_ : Nat) (t : Token) : Scanner :=
  if s.inFlow || (column : Int) ≤ s.indent then s
  else { s.insertAt at_ t with indent := column, indents := s.indent :: s.indents }

/-- End the blocks that lie deeper than a column. -/
def closeBlocks (column : Int) : List Int → Scanner → Scanner
  | [], s => s
  | outer :: rest, s =>
    if s.inFlow || s.indent ≤ column then s
    else closeBlocks column rest { s.emit .blockEnd with indent := outer, indents := rest }

def closeTo (s : Scanner) (column : Int) : Scanner :=
  closeBlocks column s.indents s

def skip (s : Scanner) (n : Nat) : Scanner :=
  { s with cursor := s.cursor.advance n }

def allowKey (s : Scanner) (b : Bool) : Scanner :=
  { s with mayBeKey := b }

/-- Between documents no block and no key is open. -/
def betweenDocuments? (s : Scanner) : Option Scanner :=
  (s.closeTo (-1)).dropKey?.map fun s => s.allowKey false

def endStream? (s : Scanner) : Option Scanner :=
  s.betweenDocuments?.map fun s => s.emit .streamEnd

/-- Put the result of reading a token into place. -/
def take (s : Scanner) : Option (Token × Cursor) → Option Scanner
  | none => none
  | some (t, c) => some { s.emit t with cursor := c }

def directive? (s : Scanner) : Option Scanner :=
  s.betweenDocuments?.bind fun s => s.take (readDirective? s.cursor.skip)

def documentMark? (s : Scanner) (t : Token) : Option Scanner :=
  s.betweenDocuments?.map fun s => (s.emit t).skip 3

def openFlow? (s : Scanner) (t : Token) : Option Scanner :=
  s.saveKey?.map fun s =>
    { (s.emit t).skip 1 with keys := none :: s.keys, mayBeKey := true }

def closeFlow? (s : Scanner) (t : Token) : Option Scanner :=
  s.dropKey?.map fun s =>
    let keys := if s.inFlow then s.keys.tail else s.keys
    { (s.emit t).skip 1 with keys := keys, mayBeKey := false }

def flowEntry? (s : Scanner) : Option Scanner :=
  s.dropKey?.map fun s => ((s.emit .flowEntry).skip 1).allowKey true

def blockEntry? (s : Scanner) : Option Scanner :=
  if !s.inFlow && !s.mayBeKey then none
  else
    let s := s.openBlock s.cursor.column s.tokens.size .blockSequenceStart
    s.dropKey?.map fun s => ((s.emit .blockEntry).skip 1).allowKey true

def key? (s : Scanner) : Option Scanner :=
  if !s.inFlow && !s.mayBeKey then none
  else
    let s := s.openBlock s.cursor.column s.tokens.size .blockMappingStart
    s.dropKey?.map fun s => ((s.emit .key).skip 1).allowKey !s.inFlow

/-- A colon: it makes a key of what may be one, or stands behind a key marked as such. -/
def value? (s : Scanner) : Option Scanner :=
  match s.keys with
  | some k :: _ =>
    let s := s.insertAt k.tokens .key
    let s := (s.openBlock k.column k.tokens .blockMappingStart).setKey none
    some (((s.emit .value).skip 1).allowKey false)
  | _ =>
    if !s.inFlow && !s.mayBeKey then none
    else
      let s := s.openBlock s.cursor.column s.tokens.size .blockMappingStart
      some (((s.emit .value).skip 1).allowKey !s.inFlow)

/-- A name behind its mark, made into a token. -/
def named? (s : Scanner) (make : List Char → Token) : Option Scanner :=
  s.saveKey?.bind fun s =>
    (s.take ((readName? s.cursor.skip).map fun (n, c) => (make n, c))).map fun s =>
      s.allowKey false

def tag? (s : Scanner) : Option Scanner :=
  s.saveKey?.bind fun s => (s.take (readTag? s.inFlow s.cursor)).map fun s => s.allowKey false

def block? (s : Scanner) (literal : Bool) : Option Scanner :=
  s.dropKey?.bind fun s =>
    let style := if literal then ScalarStyle.literal else .folded
    (s.take ((blockScalar? literal s.indent s.cursor.skip).map fun (t, c) =>
      (.scalar t style, c))).map fun s => s.allowKey true

def quoted? (s : Scanner) (quote : Char) : Option Scanner :=
  s.saveKey?.bind fun s =>
    let c := s.cursor.skip
    (s.take ((quotedScalar? quote (c.rest.length + 1) c {}).map fun (t, c) =>
      (.scalar t .quoted, c))).map fun s => s.allowKey false

def plain? (s : Scanner) : Option Scanner :=
  s.saveKey?.bind fun s =>
    let margin := (s.indent + 1).toNat
    match plainScalar? s.inFlow margin (s.cursor.rest.length + 1) s.cursor {} with
    | none => none
    | some (t, broken, c) =>
      (s.take (some (.scalar t .plain, c))).map fun s => s.allowKey broken

/-- Marks that no plain scalar begins with. -/
def isIndicator (c : Char) : Bool :=
  "-?:,[]\x7b\x7d#&*!|>\x27\"%@\x60".toList.contains c

/-- Whether a plain scalar begins with a character and what follows. -/
def beginsPlain (inFlow : Bool) (c : Char) (rest : List Char) : Bool :=
  !(isGap c || isBreak c || isIndicator c) ||
  (c == '-' && !rest.head?.any isGap) ||
  (!inFlow && (c == '?' || c == ':') && !endsWord rest)

/-- Read the next token, which begins with a character at the start of the text. -/
def token? (s : Scanner) (c : Char) (rest : List Char) : Option Scanner :=
  let atMargin := s.cursor.column == 0
  if atMargin && c == '%' then s.directive?
  else if s.cursor.atDocumentMark then
    s.documentMark? (if c == '-' then .documentStart else .documentEnd)
  else if c == '[' then s.openFlow? .flowSequenceStart
  else if c == '\x7b' then s.openFlow? .flowMappingStart
  else if c == ']' then s.closeFlow? .flowSequenceEnd
  else if c == '\x7d' then s.closeFlow? .flowMappingEnd
  else if c == ',' then s.flowEntry?
  else if c == '-' && endsWord rest then s.blockEntry?
  else if c == '?' && (s.inFlow || endsWord rest) then s.key?
  else if c == ':' && (s.inFlow || endsWord rest) then s.value?
  else if c == '*' then s.named? .reference
  else if c == '&' then s.named? .anchor
  else if c == '!' then s.tag?
  else if c == '|' && !s.inFlow then s.block? true
  else if c == '>' && !s.inFlow then s.block? false
  else if c == '\'' || c == '"' then s.quoted? c
  else if beginsPlain s.inFlow c rest then s.plain?
  else none

/-- Read tokens up to the end of the text. -/
def scan? : Nat → Scanner → Option (List Token)
  | 0, _ => none
  | fuel + 1, s =>
    match (s.toNextToken (s.cursor.rest.length + 1)).dropStale? with
    | none => none
    | some s =>
      let s := s.closeTo s.cursor.column
      match s.cursor.rest with
      | [] => s.endStream?.map fun s => s.tokens.toList
      | c :: rest =>
        match s.token? c rest with
        | none => none
        | some s => scan? fuel s

end Scanner

/-- The tokens of a text, if all of it is in order. -/
def tokens? (text : List Char) : Option (List Token) :=
  if text.all isAllowed then Scanner.scan? (text.length + 2) { cursor := { rest := text } }
  else none

end Scaffold.Yaml

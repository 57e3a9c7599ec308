import Scaffold.Number.Reading
import Scaffold.Template.Reader
import Scaffold.Text.Blank

/-!
# Script tokens

A script text cut into words, numbers, strings and signs. Strings between backticks may hold
code; its tokens come with the pieces of text around it.
-/

namespace Scaffold.Script

inductive Token where
  | int (value : Int)
  | float (value : Double)
  | char (value : Char)
  | str (text : String)
  /-- Pieces of text with code between each two. -/
  | template (texts : List String) (codes : List (List Token))
  | word (text : String)
  | sign (text : String)
deriving Inhabited

namespace Token

def isWordStart (c : Char) : Bool :=
  ('a' ≤ c && c ≤ 'z') || ('A' ≤ c && c ≤ 'Z') || c == '_'

def isDigit (c : Char) : Bool := '0' ≤ c && c ≤ '9'

def isWordPart (c : Char) : Bool := isWordStart c || isDigit c

/-- Signs, longer ones before those they start with. -/
def signs : List String :=
  ["...", "..=", "===", "!==", "**=", "<<=", ">>=",
   "??", "?.", "?[", "=>", "==", "!=", "<=", ">=", "&&", "||", "+=", "-=", "*=", "/=", "%=", "&=",
   "|=", "^=", "<<", ">>", "**", "#\x7b", "::", "->", "<-", ":=", "++", "--", "..",
   "\x7b", "\x7d", "(", ")", "[", "]", ";", ",", ".", "+", "-", "*", "/", "%", "=", "<", ">", "!",
   "&", "|", "^", ":", "?", "~", "@", "#", "$"]

def readSign (cs : List Char) : Option (String × List Char) :=
  signs.findSome? fun s => (Text.afterPrefix? s.toList cs).map fun rest => (s, rest)

/-! ## Numbers -/

def digitOf? (radix : Nat) (c : Char) : Option Nat :=
  let n :=
    if '0' ≤ c ∧ c ≤ '9' then c.toNat - 48
    else if 'a' ≤ c ∧ c ≤ 'f' then c.toNat - 87
    else if 'A' ≤ c ∧ c ≤ 'F' then c.toNat - 55
    else radix
  if n < radix then some n else none

/-- Digits with underscores between them, which do not count. -/
def takeNumber (radix : Nat) : List Char → List Char × List Char
  | [] => ([], [])
  | c :: cs =>
    if c = '_' then takeNumber radix cs
    else if (digitOf? radix c).isSome then
      let (ds, rest) := takeNumber radix cs
      (c :: ds, rest)
    else ([], c :: cs)

def natOf (radix : Nat) (ds : List Char) : Nat :=
  ds.foldl (fun n c => n * radix + (digitOf? radix c).getD 0) 0

/-- A number with a radix of its own: sixty-four bits, taken with their sign. -/
def readRadix (radix : Nat) (negative : Bool) (cs : List Char) : Option (Token × List Char) :=
  match takeNumber radix cs with
  | ([], _) => none
  | (ds, rest) =>
    let n := natOf radix ds
    if 2 ^ 64 ≤ n then none
    else
      let v : Int := if n < 2 ^ 63 then n else (n : Int) - 2 ^ 64
      some (.int (if negative then -v else v), rest)

/-- The fraction after digits: its characters, the point included. A point that a range or the
name of a property follows is none. -/
def takeFraction (cs : List Char) : List Char × List Char :=
  match cs with
  | '.' :: c :: rest =>
    if isDigit c then
      let (ds, after) := takeNumber 10 (c :: rest)
      ('.' :: ds, after)
    else if c = '.' ∨ isWordStart c then ([], cs)
    else (['.', '0'], c :: rest)
  | ['.'] => (['.', '0'], [])
  | _ => ([], cs)

def takeExponent (cs : List Char) : List Char × List Char :=
  match cs with
  | 'e' :: c :: rest =>
    if isDigit c then
      let (ds, after) := takeNumber 10 (c :: rest)
      ('e' :: ds, after)
    else if c = '+' ∨ c = '-' then
      let (ds, after) := takeNumber 10 rest
      ('e' :: c :: ds, after)
    else ([], cs)
  | _ => ([], cs)

/-- Decimal digits are a whole number if sixty-four bits hold it, else a floating point one. -/
def readDecimal (negative : Bool) (cs : List Char) : Option (Token × List Char) :=
  let (ds, rest) := takeNumber 10 cs
  let (fraction, rest) := takeFraction rest
  let (exponent, rest) := takeExponent rest
  let lead := if negative then ['-'] else []
  let asFloat := (Double.ofText? (lead ++ ds ++ fraction ++ exponent)).map fun x =>
    (Token.float x, rest)
  if fraction.isEmpty && exponent.isEmpty then
    let n : Int := if negative then -(natOf 10 ds : Int) else natOf 10 ds
    if -(2 ^ 63) ≤ n ∧ n < 2 ^ 63 then some (.int n, rest) else asFloat
  else asFloat

def readNumber (negative : Bool) (cs : List Char) : Option (Token × List Char) :=
  match cs with
  | '0' :: x :: rest =>
    if x = 'x' ∨ x = 'X' then readRadix 16 negative rest
    else if x = 'o' ∨ x = 'O' then readRadix 8 negative rest
    else if x = 'b' ∨ x = 'B' then readRadix 2 negative rest
    else readDecimal negative cs
  | _ => readDecimal negative cs

/-! ## Strings -/

def hexNumber (cs : List Char) : Option Nat :=
  cs.foldl (fun n? c => n?.bind fun n => (digitOf? 16 c).map fun d => n * 16 + d) (some 0)

/-- The character of an escape, after its backslash. -/
def readEscape (cs : List Char) : Option (Char × List Char) :=
  let coded (digits : Nat) (rest : List Char) : Option (Char × List Char) :=
    let ds := rest.take digits
    if ds.length = digits then
      (hexNumber ds).bind fun n =>
        if n < 0xD800 ∨ (0xE000 ≤ n ∧ n < 0x110000) then some (Char.ofNat n, rest.drop digits)
        else none
    else none
  match cs with
  | 't' :: rest => some ('\t', rest)
  | 'n' :: rest => some ('\n', rest)
  | 'r' :: rest => some ('\r', rest)
  | '\\' :: rest => some ('\\', rest)
  | '"' :: rest => some ('"', rest)
  | '\'' :: rest => some ('\'', rest)
  | '\x60' :: rest => some ('\x60', rest)
  | 'x' :: rest => coded 2 rest
  | 'u' :: rest => coded 4 rest
  | 'U' :: rest => coded 8 rest
  | _ => none

/-- The text up to a closing quote, which counts as itself where it stands twice. A line ends
the text with failure, unless a backslash stands before the line end. -/
def readQuoted (quote : Char) : Nat → List Char → Option (List Char × List Char)
  | 0, _ => none
  | _ + 1, [] => none
  | fuel + 1, c :: cs =>
    if c = quote then
      match cs with
      | d :: rest =>
        if d = quote then (readQuoted quote fuel rest).map fun (t, r) => (quote :: t, r)
        else some ([], cs)
      | [] => some ([], [])
    else if c = '\\' then
      match cs with
      | '\n' :: rest => readQuoted quote fuel (rest.dropWhile Template.isSpace)
      | '\r' :: '\n' :: rest => readQuoted quote fuel (rest.dropWhile Template.isSpace)
      | _ =>
        match readEscape cs with
        | some (e, rest) => (readQuoted quote fuel rest).map fun (t, r) => (e :: t, r)
        | none => none
    else if c = '\n' then none
    else (readQuoted quote fuel cs).map fun (t, r) => (c :: t, r)

/-- The number of hash signs in front of a quote, and what follows the quote. -/
def readRawStart : List Char → Option (Nat × List Char)
  | '#' :: '"' :: rest => some (1, rest)
  | '#' :: rest => (readRawStart rest).map fun (n, r) => (n + 1, r)
  | _ => none

/-- Text as it stands up to a closing text. -/
def readRawText (close : List Char) : List Char → Option (List Char × List Char)
  | [] => none
  | c :: cs =>
    match Text.afterPrefix? close (c :: cs) with
    | some rest => some ([], rest)
    | none => (readRawText close cs).map fun (t, r) => (c :: t, r)

/-- A string between hash signs and quotes, in which nothing but its closing has a meaning. -/
def readRaw (cs : List Char) : Option (List Char × List Char) :=
  (readRawStart cs).bind fun (n, rest) => readRawText ('"' :: List.replicate n '#') rest

/-- How a piece of text between backticks ends. -/
inductive PieceEnd where
  | closed
  | code

/-- Text up to a closing backtick, which counts as itself where it stands twice, or up to code. -/
def readPiece : Nat → List Char → Option (List Char × PieceEnd × List Char)
  | 0, _ => none
  | _ + 1, [] => none
  | fuel + 1, c :: cs =>
    if c = '\x60' then
      match cs with
      | '\x60' :: rest => (readPiece fuel rest).map fun (t, e, r) => ('\x60' :: t, e, r)
      | _ => some ([], .closed, cs)
    else if c = '$' then
      match cs with
      | '\x7b' :: rest => some ([], .code, rest)
      | _ => (readPiece fuel cs).map fun (t, e, r) => (c :: t, e, r)
    else (readPiece fuel cs).map fun (t, e, r) => (c :: t, e, r)

/-! ## Comments -/

/-- What follows a comment; comments between signs may hold others. -/
def skipBlock (depth : Nat) : List Char → List Char
  | '*' :: '/' :: cs => if depth = 0 then cs else skipBlock (depth - 1) cs
  | '/' :: '*' :: cs => skipBlock (depth + 1) cs
  | _ :: cs => skipBlock depth cs
  | [] => []

/-! ## Tokens -/

/-- Words after which a minus belongs to a number. -/
def operatorWords : List String :=
  ["return", "throw", "if", "while", "until", "in", "else", "do", "loop", "switch", "const", "let"]

/-- Whether a minus after this token stands between two operands. -/
def endsOperand : Option Token → Bool
  | none => false
  | some (.sign s) => s == ")" || s == "]" || s == "\x7d"
  | some (.word w) => !operatorWords.contains w
  | some _ => true

/-- Words have a letter after their underscores. -/
def isWord (w : List Char) : Bool :=
  match w.dropWhile (· = '_') with
  | c :: _ => isWordStart c
  | [] => false

/-- What follows `!in`, if that stands here. -/
def readNotIn (cs : List Char) : Option (List Char) :=
  match cs with
  | '!' :: 'i' :: 'n' :: rest => if rest.head?.any isWordPart then none else some rest
  | _ => none

mutual

/-- Tokens up to the end, or up to a closing brace that none of them opens, last token first. -/
def readAll : Nat → Nat → List Token → List Char → Option (List Token × List Char)
  | 0, _, _, _ => none
  | _ + 1, _, done, [] => some (done, [])
  | fuel + 1, depth, done, c :: cs =>
    if Text.isBlank c then readAll fuel depth done cs
    else
      match c, cs with
      | '/', '/' :: rest => readAll fuel depth done (rest.dropWhile (· ≠ '\n'))
      | '/', '*' :: rest => readAll fuel depth done (skipBlock 0 rest)
      | '"', rest =>
        match readQuoted '"' fuel rest with
        | some (t, rest) => readAll fuel depth (.str (String.ofList t) :: done) rest
        | none => none
      | '\'', rest =>
        match readQuoted '\'' fuel rest with
        | some ([ch], rest) => readAll fuel depth (.char ch :: done) rest
        | _ => none
      | '\x60', rest =>
        let rest := match rest with
          | '\n' :: more => more
          | '\r' :: '\n' :: more => more
          | _ => rest
        match readTemplate fuel [] [] rest with
        | some (t, rest) => readAll fuel depth (t :: done) rest
        | none => none
      | '\x7d', rest =>
        match depth with
        | 0 => some (done, c :: rest)
        | d + 1 => readAll fuel d (.sign "\x7d" :: done) rest
      | _, rest =>
        if isDigit c then
          match readNumber false (c :: rest) with
          | some (t, rest) => readAll fuel depth (t :: done) rest
          | none => none
        else if c = '-' && !endsOperand done.head? && (rest.head?.any isDigit) then
          match readNumber true rest with
          | some (t, rest) => readAll fuel depth (t :: done) rest
          | none => none
        else if isWordStart c then
          let word := (c :: rest).takeWhile isWordPart
          let after := (c :: rest).dropWhile isWordPart
          if isWord word ∨ word = ['_'] then
            readAll fuel depth (.word (String.ofList word) :: done) after
          else none
        else
          match readNotIn (c :: rest), readRaw (c :: rest) with
          | some rest, _ => readAll fuel depth (.sign "!in" :: done) rest
          | none, some (t, rest) => readAll fuel depth (.str (String.ofList t) :: done) rest
          | none, none =>
            match readSign (c :: rest) with
            | some (s, rest) =>
              let depth := if s = "\x7b" ∨ s = "#\x7b" then depth + 1 else depth
              readAll fuel depth (.sign s :: done) rest
            | none => none

/-- A string between backticks, its pieces and codes last one first. -/
def readTemplate : Nat → List String → List (List Token) → List Char →
    Option (Token × List Char)
  | 0, _, _, _ => none
  | fuel + 1, texts, codes, cs =>
    match readPiece fuel cs with
    | none => none
    | some (t, .closed, rest) =>
      let texts := (String.ofList t :: texts).reverse
      some (match texts with
        | [only] => .str only
        | _ => .template texts codes.reverse, rest)
    | some (t, .code, rest) =>
      match readAll fuel 0 [] rest with
      | some (tokens, '\x7d' :: rest) =>
        readTemplate fuel (String.ofList t :: texts) (tokens.reverse :: codes) rest
      | _ => none

end

end Token

/-- The tokens of a script. -/
def tokens? (cs : List Char) : Option (List Token) :=
  match Token.readAll (2 * cs.length + 2) 0 [] cs with
  | some (done, []) => some done.reverse
  | _ => none

end Scaffold.Script

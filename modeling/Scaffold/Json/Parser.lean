import Scaffold.Json.Basic
import Scaffold.Number.Reading

/-!
# Reading JSON text

A reader for one JSON value surrounded by blanks. Containers nest less than 128 deep, numbers
that fit no 64-bit integer are floating point values, and of two members of the same name the
later one counts. Every reader takes the text that is left and returns what follows its value;
the fuel of the value reader is the length of the text.
-/

namespace Scaffold.Json

def isSpace (c : Char) : Bool :=
  c == ' ' || c == '\n' || c == '\t' || c == '\r'

def skipSpace (cs : List Char) : List Char :=
  cs.dropWhile isSpace

def hexValue? (c : Char) : Option Nat :=
  if '0' ≤ c ∧ c ≤ '9' then some (c.toNat - 48)
  else if 'a' ≤ c ∧ c ≤ 'f' then some (c.toNat - 87)
  else if 'A' ≤ c ∧ c ≤ 'F' then some (c.toNat - 55)
  else none

def hexFour? : List Char → Option (Nat × List Char)
  | a :: b :: c :: d :: rest =>
    match hexValue? a, hexValue? b, hexValue? c, hexValue? d with
    | some a, some b, some c, some d => some (((a * 16 + b) * 16 + c) * 16 + d, rest)
    | _, _, _, _ => none
  | _ => none

/-- The character of an escape by number; a high half must be followed by a low one. -/
def unicodeEscape? (cs : List Char) : Option (Char × List Char) :=
  match hexFour? cs with
  | none => none
  | some (n, rest) =>
    if 0xDC00 ≤ n ∧ n ≤ 0xDFFF then none
    else if 0xD800 ≤ n ∧ n ≤ 0xDBFF then
      match rest with
      | '\\' :: 'u' :: rest =>
        match hexFour? rest with
        | some (m, rest) =>
          if 0xDC00 ≤ m ∧ m ≤ 0xDFFF then
            some (Char.ofNat (0x10000 + (n - 0xD800) * 0x400 + (m - 0xDC00)), rest)
          else none
        | none => none
      | _ => none
    else some (Char.ofNat n, rest)

/-- The character of an escape without number. -/
def plainEscape? (c : Char) : Option Char :=
  if c = '"' ∨ c = '\\' ∨ c = '/' then some c
  else if c = 'b' then some (Char.ofNat 8)
  else if c = 'f' then some (Char.ofNat 12)
  else if c = 'n' then some '\n'
  else if c = 'r' then some '\r'
  else if c = 't' then some '\t'
  else none

/-- The rest of a string after its opening quote; `acc` holds what was read, last first. -/
def readString : Nat → List Char → List Char → Option (List Char × List Char)
  | 0, _, _ => none
  | _ + 1, _, [] => none
  | fuel + 1, acc, c :: cs =>
    if c = '"' then some (acc.reverse, cs)
    else if c = '\\' then
      match cs with
      | [] => none
      | e :: cs =>
        if e = 'u' then
          match unicodeEscape? cs with
          | some (x, rest) => readString fuel (x :: acc) rest
          | none => none
        else
          match plainEscape? e with
          | some x => readString fuel (x :: acc) cs
          | none => none
    else if c.toNat < 32 then none
    else readString fuel (c :: acc) cs

/-- Digits up to what a 64-bit word holds, with the count of digits left over. -/
structure Significand where
  value : Nat
  exponent : Int
  rest : List Char

def wordLimit : Nat := 2 ^ 64 - 1

/-- Skip digits, counting them. -/
def skipDigits : List Char → Nat → Nat × List Char
  | [], n => (n, [])
  | c :: cs, n =>
    match Number.digitValue? c with
    | some _ => skipDigits cs (n + 1)
    | none => (n, c :: cs)

/-- Whole digits, as far as they fit a word; the ones beyond only raise the exponent. -/
def wholeDigits : List Char → Nat → Significand
  | [], v => ⟨v, 0, []⟩
  | c :: cs, v =>
    match Number.digitValue? c with
    | none => ⟨v, 0, c :: cs⟩
    | some d =>
      if wordLimit < 10 * v + d then
        let (n, rest) := skipDigits (c :: cs) 0
        ⟨v, n, rest⟩
      else wholeDigits cs (10 * v + d)

/-- Fraction digits, as far as they fit a word; the ones beyond are dropped. -/
def fractionDigits : List Char → Nat → Int → Significand
  | [], v, e => ⟨v, e, []⟩
  | c :: cs, v, e =>
    match Number.digitValue? c with
    | none => ⟨v, e, c :: cs⟩
    | some d =>
      if wordLimit < 10 * v + d then ⟨v, e, (skipDigits (c :: cs) 0).2⟩
      else fractionDigits cs (10 * v + d) (e - 1)

def powerOfTen (n : Nat) : Double :=
  Double.ofRatio false (10 ^ n) 1

/-- Multiply or divide the word by powers of ten up to `1e308`; `none` out of range. -/
def scaleByTen : Nat → Double → Int → Option Double
  | 0, _, _ => none
  | fuel + 1, x, e =>
    if e.natAbs ≤ 308 then
      if 0 ≤ e then
        let y := x.timesFinite (powerOfTen e.natAbs)
        if y.isInfinite then none else some y
      else some (x.dividedByFinite (powerOfTen e.natAbs))
    else if x.isZero then some x
    else if 0 ≤ e then none
    else scaleByTen fuel (x.dividedByFinite (powerOfTen 308)) (e + 308)

def floatOf (negative : Bool) (significand : Nat) (exponent : Int) : Option Number :=
  (scaleByTen 8 (Double.ofRatio false significand 1) exponent).map fun x =>
    .float (if negative then x.negate else x)

def integerOf (negative : Bool) (n : Nat) : Number :=
  if !negative then .int n
  else if n = 0 ∨ 2 ^ 63 < n then .float (Double.ofRatio true n 1)
  else .int (-(n : Int))

/-- An exponent part after its mark, added to the exponent of the digits before it. -/
def withExponent (negative : Bool) (s : Significand) : List Char → Option (Number × List Char)
  | cs =>
    match Number.splitSign cs with
    | (minus, rest) =>
      match Number.takeDigits rest 0 0 with
      | (n, k, rest) =>
        if k = 0 then none
        else if 2 ^ 31 ≤ n then
          if s.value = 0 ∨ minus then some (.float (Double.zero negative), rest) else none
        else
          (floatOf negative s.value (s.exponent + if minus then -(n : Int) else n)).map
            fun x => (x, rest)

/-- A number after its sign. -/
def readNumber (negative : Bool) (cs : List Char) : Option (Number × List Char) :=
  let start : Option Significand :=
    match cs with
    | [] => none
    | c :: rest =>
      if c = '0' then
        match rest with
        | d :: _ => if (Number.digitValue? d).isSome then none else some ⟨0, 0, rest⟩
        | [] => some ⟨0, 0, rest⟩
      else
        match Number.digitValue? c with
        | some d => some (wholeDigits rest d)
        | none => none
  match start with
  | none => none
  | some s =>
    match s.rest with
    | '.' :: rest =>
      match rest with
      | [] => none
      | d :: _ =>
        if (Number.digitValue? d).isNone then none
        else
          let f := fractionDigits rest s.value s.exponent
          match f.rest with
          | c :: r =>
            if c = 'e' ∨ c = 'E' then withExponent negative f r
            else (floatOf negative f.value f.exponent).map fun x => (x, f.rest)
          | [] => (floatOf negative f.value f.exponent).map fun x => (x, [])
    | c :: r =>
      if c = 'e' ∨ c = 'E' then withExponent negative s r
      else if s.exponent = 0 then some (integerOf negative s.value, s.rest)
      else (floatOf negative s.value s.exponent).map fun x => (x, s.rest)
    | [] =>
      if s.exponent = 0 then some (integerOf negative s.value, [])
      else (floatOf negative s.value s.exponent).map fun x => (x, [])

def expect (word : List Char) (v : Json) (cs : List Char) : Option (Json × List Char) :=
  if cs.take word.length = word then some (v, cs.drop word.length) else none

mutual

/-- One value; blanks before it are skipped. `depth` containers may still open. -/
def readValue : Nat → Nat → List Char → Option (Json × List Char)
  | 0, _, _ => none
  | fuel + 1, depth, cs =>
    match skipSpace cs with
    | [] => none
    | c :: rest =>
      if c = 'n' then expect ['u', 'l', 'l'] null rest
      else if c = 't' then expect ['r', 'u', 'e'] (bool true) rest
      else if c = 'f' then expect ['a', 'l', 's', 'e'] (bool false) rest
      else if c = '-' then (readNumber true rest).map fun r => (num r.1, r.2)
      else if c = '"' then
        (readString (rest.length + 1) [] rest).map fun r => (str (String.ofList r.1), r.2)
      else if c = '[' then
        match depth with
        | 0 => none
        | depth + 1 =>
          match skipSpace rest with
          | ']' :: after => some (arr [], after)
          | _ =>
            match readValue fuel depth rest with
            | some (v, after) => readItems fuel depth [v] after
            | none => none
      else if c = '\x7b' then
        match depth with
        | 0 => none
        | depth + 1 =>
          match skipSpace rest with
          | '\x7d' :: after => some (obj [], after)
          | _ =>
            match readMember fuel depth rest with
            | some (k, v, after) => readMembers fuel depth [(k, v)] after
            | none => none
      else (readNumber false (c :: rest)).map fun r => (num r.1, r.2)

/-- The items after the first, `acc` last first, up to the closing bracket. -/
def readItems : Nat → Nat → List Json → List Char → Option (Json × List Char)
  | 0, _, _, _ => none
  | fuel + 1, depth, acc, cs =>
    match skipSpace cs with
    | ']' :: rest => some (arr acc.reverse, rest)
    | ',' :: rest =>
      match readValue fuel depth rest with
      | some (v, after) => readItems fuel depth (v :: acc) after
      | none => none
    | _ => none

/-- A name, a colon and a value. -/
def readMember : Nat → Nat → List Char → Option (String × Json × List Char)
  | 0, _, _ => none
  | fuel + 1, depth, cs =>
    match skipSpace cs with
    | '"' :: rest =>
      match readString (rest.length + 1) [] rest with
      | some (k, after) =>
        match skipSpace after with
        | ':' :: after =>
          match readValue fuel depth after with
          | some (v, after) => some (String.ofList k, v, after)
          | none => none
        | _ => none
      | none => none
    | _ => none

/-- The members after the first, `acc` in the order of their names, up to the closing brace. -/
def readMembers : Nat → Nat → Members → List Char → Option (Json × List Char)
  | 0, _, _, _ => none
  | fuel + 1, depth, acc, cs =>
    match skipSpace cs with
    | '\x7d' :: rest => some (obj acc, rest)
    | ',' :: rest =>
      match readMember fuel depth rest with
      | some (k, v, after) => readMembers fuel depth (acc.insert k v) after
      | none => none
    | _ => none

end

/-- Containers nest one less deep than this. -/
def depthLimit : Nat := 127

def parseChars (cs : List Char) : Option Json :=
  match readValue (2 * cs.length + 2) depthLimit cs with
  | some (v, rest) => if (skipSpace rest).isEmpty then some v else none
  | none => none

/-- The value of a text that holds exactly one. -/
def parse? (s : String) : Option Json :=
  parseChars s.toList

end Scaffold.Json

import Scaffold.Text.Blank
import Scaffold.Text.Quoted
import Scaffold.Text.Segment

/-!
# Paths

A path is kept as it was written; nothing is resolved by writing it down. Its components are
what it means: empty segments and inner `.` segments count for nothing, so two texts can be the
same path. Joining, taking the parent and the last name all go by components.
-/

namespace Scaffold

structure Path where
  chars : List Char
deriving DecidableEq, Inhabited

namespace Path

def ofString (s : String) : Path := ⟨s.toList⟩

def text (p : Path) : String := String.ofList p.chars

/-- The text between double quotes, as messages show it. -/
def shown (p : Path) : String := String.ofList (Text.quotedPath p.chars)

def isEmpty (p : Path) : Bool := p.chars.isEmpty

def isSlash (c : Char) : Bool := c == '/'

inductive Component where
  | root
  | here
  | up
  | name (chars : List Char)
deriving DecidableEq

/-- What an inner segment means. -/
def innerComponent? (segment : List Char) : Option Component :=
  if segment = [] ∨ segment = ['.'] then none
  else if segment = ['.', '.'] then some .up
  else some (.name segment)

def innerComponents (segments : List (List Char)) : List Component :=
  segments.filterMap innerComponent?

def isAbsolute (p : Path) : Bool :=
  match p.chars with
  | '/' :: _ => true
  | _ => false

def components (p : Path) : List Component :=
  match Text.splitBy isSlash p.chars with
  | [] => []
  | first :: rest =>
    if p.isAbsolute then .root :: innerComponents rest
    else if first = ['.'] then .here :: innerComponents rest
    else innerComponents (first :: rest)

/-- Same components. -/
def same (p q : Path) : Bool :=
  p.components == q.components

/-- `q` below `p`; an absolute `q` stands for itself. -/
def join (p q : Path) : Path :=
  if q.isAbsolute then q
  else if p.chars = [] ∨ p.chars.getLast? = some '/' then ⟨p.chars ++ q.chars⟩
  else ⟨p.chars ++ '/' :: q.chars⟩

/-- One name after the other below `p`. -/
def joinAll (p : Path) (names : List (List Char)) : Path :=
  names.foldl (fun q name => q.join ⟨name⟩) p

/-- Cut separators and `.` segments off the reversed text, down to a single leading one. -/
def trimReversed : List Char → List Char
  | ['/'] => ['/']
  | '/' :: rest => trimReversed rest
  | '.' :: '/' :: rest => trimReversed ('/' :: rest)
  | cs => cs

/-- The path of everything but the last component, if that is not the root. -/
def parent? (p : Path) : Option Path :=
  match trimReversed p.chars.reverse with
  | [] => none
  | ['/'] => none
  | cs => some ⟨(trimReversed (cs.dropWhile fun c => !isSlash c)).reverse⟩

/-- The last component, if it is a name. -/
def fileName? (p : Path) : Option (List Char) :=
  match p.components.getLast? with
  | some (.name cs) => some cs
  | _ => none

/-- A name cut at its last dot, the dot itself left out; a dot in front does not count. -/
def splitAtDot (name : List Char) : List Char × Option (List Char) :=
  let tail := name.reverse.takeWhile (· ≠ '.')
  match name.reverse.dropWhile (· ≠ '.') with
  | [] => (name, none)
  | [_] => (name, none)
  | _ :: stem => (stem.reverse, some tail.reverse)

def fileStem? (p : Path) : Option (List Char) :=
  p.fileName?.map fun name => (splitAtDot name).1

def extension? (p : Path) : Option (List Char) :=
  p.fileName?.bind fun name => (splitAtDot name).2

/-- The components that follow those of `root`. -/
def afterComponents? : List Component → List Component → Option (List Component)
  | [], cs => some cs
  | _ :: _, [] => none
  | r :: rs, c :: cs => if r = c then afterComponents? rs cs else none

def names (cs : List Component) : List (List Char) :=
  cs.filterMap fun
    | .name n => some n
    | _ => none

/-- The text of `p` seen from `root`, if it lies there. -/
def relativeTo? (root p : Path) : Option (List Char) :=
  (afterComponents? root.components p.components).map fun cs => Text.joinWith ['/'] (names cs)

/-- `p` with more text at its end. -/
def appendText (p : Path) (tail : String) : Path :=
  ⟨p.chars ++ tail.toList⟩

end Path

end Scaffold

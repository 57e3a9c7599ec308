import Scaffold.CommandLine.Flag

/-!
# Flags that are given

The words of a command line are flags in their long form, flags in their short form, several of
those in one word, or the values of the flags before them. A value is looked at once the flag is
settled, which is when the next flag comes or the words end.
-/

namespace Scaffold.CommandLine

/-- What a word looks like. -/
inductive Word where
  | escape
  | long (name : String) (value : Option String)
  | short (flags : List Char)
  | plain
deriving DecidableEq

namespace Word

/-- Cut at the first `=`. -/
def ofLong (cs : List Char) : Word :=
  match cs.dropWhile (· ≠ '=') with
  | [] => long (String.ofList cs) none
  | _ :: value => long (String.ofList (cs.takeWhile (· ≠ '='))) (some (String.ofList value))

def ofString (s : String) : Word :=
  match s.toList with
  | ['-', '-'] => escape
  | '-' :: '-' :: rest => ofLong rest
  | '-' :: c :: rest => short (c :: rest)
  | _ => plain

end Word

/-- Flags with their values, and a flag that is not settled yet with its value if there is one. -/
structure Given where
  values : List (Flag × FlagValue) := []
  open? : Option (Flag × Option String) := none

namespace Given

def has (g : Given) (f : Flag) : Bool :=
  g.values.any fun v => v.1 == f

/-- Add a flag that takes a value. -/
def assign (g : Given) (f : Flag) (value : Option String) : Except UsageError Given :=
  match value with
  | none => .error (.missingValue f)
  | some s =>
    if g.has f && !f.isRepeatable then .error (.repeated f)
    else (f.readValue s).map fun v => { values := g.values ++ [(f, v)] }

/-- Look at the value of the flag that is open. -/
def settle (g : Given) : Except UsageError Given :=
  match g.open? with
  | none => .ok g
  | some (f, value) => assign { g with open? := none } f value

/-- Add a flag that takes no value. -/
def raise (g : Given) (f : Flag) : Except UsageError Given := do
  let g ← g.settle
  if f = .help then .error .helpAsked
  else if g.has f then .error (.repeated f)
  else .ok { g with values := g.values ++ [(f, .on)] }

/-- Add a flag that takes a value, with the value in the same word or in the next one. -/
def await (g : Given) (f : Flag) (value : Option String) : Except UsageError Given := do
  let g ← g.settle
  match value with
  | some s => g.assign f (some s)
  | none => .ok { g with open? := some (f, none) }

/-- Add a flag in its long form. -/
def readLong (scope : List Flag) (g : Given) (name : String) (value : Option String) :
    Except UsageError Given :=
  match scope.find? fun f => f.long == name with
  | none => .error (.unknownWord ("--" ++ name))
  | some f =>
    if !f.isSwitch then g.await f value
    else if value.isSome then .error (.unneededValue f)
    else g.raise f

/-- Add flags in their short form; what follows one that takes a value is the value. -/
def readShort (scope : List Flag) : List Char → Given → Except UsageError Given
  | [], g => .ok g
  | c :: cs, g =>
    match scope.find? fun f => f.short? == some c with
    | none => .error (.unknownWord (String.ofList ['-', c]))
    | some f =>
      if f.isSwitch then (g.raise f).bind (readShort scope cs)
      else
        match cs with
        | [] => g.await f none
        | '=' :: value => g.await f (some (String.ofList value))
        | value => g.await f (some (String.ofList value))

/-- Read the words behind a command. Behind `--` there may be nothing. -/
def readWords (g : Given) : List String → Except UsageError Given
  | [] => g.settle
  | w :: ws =>
    match Word.ofString w with
    | .escape =>
      match ws with
      | [] => g.settle
      | w :: _ => .error (.unknownWord w)
    | .long name value => (g.readLong Flag.all name value).bind fun g => g.readWords ws
    | .short flags => (readShort Flag.all flags g).bind fun g => g.readWords ws
    | .plain =>
      match g.open? with
      | some (f, none) => { g with open? := some (f, some w) }.readWords ws
      | _ => .error (.unknownWord w)

def values? {α : Type} (g : Given) (f : Flag) (read? : FlagValue → Option α) : List α :=
  g.values.filterMap fun v => if v.1 = f then read? v.2 else none

def path? (g : Given) (f : Flag) : Option Path := (g.values? f FlagValue.path?).head?

def text? (g : Given) (f : Flag) : Option String := (g.values? f FlagValue.text?).head?

def int? (g : Given) (f : Flag) : Option Int := (g.values? f FlagValue.int?).head?

end Given

end Scaffold.CommandLine

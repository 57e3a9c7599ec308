import Scaffold.CommandLine.Given
import Scaffold.Run.Config

/-!
# Invocations

A command line names a command, `build` or `update`, and says with flags what it is to work on.
`Invocation.parse` reads the words of one; `Invocation.config` is the configuration of the run
that is asked for.
-/

namespace Scaffold.CommandLine

structure Invocation where
  verbose : Bool := false
  action : Action
  /-- The file of the export. -/
  input : Path
  output : Path
  key : Option String := none
  spec : Bool := false
  specKey : Option String := none
  specType : Option String := none
  overwrite : Bool := false
  pid : Option Int := none
  iosProjectPath : Option Path := none
  pbxForce : Bool := false
  /-- The file of the export of the run before. -/
  previous : Option Path := none
  configRoot : Option Path := none
  /-- The file of the settings. -/
  settings : Option Path := none
  args : List (String × Json) := []

def commandOf? (w : String) : Option Action :=
  [Action.build, Action.update].find? fun a => a.name == w

def isHelp (w : String) : Bool :=
  w == "help"

def isCommand (w : String) : Bool :=
  (commandOf? w).isSome || isHelp w

/-- What is wrong with the words behind `help`; asking for help ends the reading too. -/
def helpError : List String → UsageError
  | [] => .helpAsked
  | w :: ws =>
    if !isCommand w then .unknownCommand w
    else
      match ws with
      | [] => .helpAsked
      | next :: _ => .unknownCommand next

/-- What is wrong with words that end before there is a command. -/
def noCommand (g : Given) : UsageError :=
  if g.has .verbose then .missingCommand else .nothingGiven

/-- Read up to the command, which comes with the flags in front of it and the words behind. -/
def readCommand (g : Given) : List String → Except UsageError (Given × Action × List String)
  | [] => .error (noCommand g)
  | w :: ws =>
    match commandOf? w with
    | some action => .ok (g, action, ws)
    | none =>
      if isHelp w then .error (helpError ws)
      else
        match Word.ofString w with
        | .escape =>
          match ws with
          | [] => .error (noCommand g)
          | w :: _ => .error (if isCommand w then .unknownWord w else .unknownCommand w)
        | .long name value =>
          (g.readLong Flag.general name value).bind fun g => readCommand g ws
        | .short flags => (g.readShort Flag.general flags).bind fun g => readCommand g ws
        | .plain => .error (.unknownCommand w)

namespace Invocation

def ofGiven (verbose : Bool) (action : Action) (g : Given) : Except UsageError Invocation :=
  match g.path? .input, g.path? .output with
  | none, _ => .error (.missingFlag .input)
  | _, none => .error (.missingFlag .output)
  | some input, some output =>
    .ok {
      verbose := verbose || g.has .verbose
      action, input, output
      key := g.text? .key
      spec := g.has .spec
      specKey := g.text? .specKey
      specType := g.text? .specType
      overwrite := g.has .overwrite
      pid := g.int? .pid
      iosProjectPath := g.path? .iosProjectPath
      pbxForce := g.has .pbxForce
      previous := g.path? .previous
      configRoot := g.path? .configRoot
      settings := g.path? .config
      args := g.values? .arg FlagValue.pair? }

/-- Read the words of a command line. -/
def parse (words : List String) : Except UsageError Invocation := do
  let (front, action, rest) ← readCommand {} words
  let g ← Given.readWords {} rest
  ofGiven (front.has .verbose) action g

/-- Arguments as the flags give them; of two values with one name the later one counts. -/
def flagArgs (i : Invocation) : RunArgs :=
  { action := i.action
    key := i.key
    spec := i.spec
    specKey := i.specKey
    overwrite := i.overwrite
    pid := i.pid
    iosProjectPath := i.iosProjectPath
    pbxForce := i.pbxForce
    extra := Members.ofList i.args }

/-- Arguments of the run; flags win over settings. -/
def runArgs (i : Invocation) (s : Settings) : RunArgs :=
  let args := i.flagArgs.applySettings s
  { args with platform := (i.specType.map Platform.ofName).getD args.platform }

def config (i : Invocation) (s : Settings) : RunConfig :=
  let c := RunConfig.ofArgs (i.runArgs s) i.output
  match i.configRoot.or s.configRoot with
  | some root => c.withConfigRoot root
  | none => c

end Invocation

end Scaffold.CommandLine

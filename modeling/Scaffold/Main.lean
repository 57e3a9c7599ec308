import Scaffold.CommandLine.Run
import Scaffold.Run.LogRecord

/-!
# The command

Runs a command line on the files of this machine. Assets are asked for but not fetched; what is
told goes to the standard error, the report to the standard output.
-/

namespace Scaffold.Terminal

/-- Whether an action ends without an error. -/
def succeeds (act : IO Unit) : IO Bool := do
  try
    act
    return true
  catch _ => return false

def attempt? {α : Type} (act : IO α) : IO (Option α) := do
  try return some (← act)
  catch _ => return none

def pathExists (p : Path) : IO Bool := do
  return (← attempt? (IO.FS.realPath p.text)).isSome

def fileNames (p : Path) : IO (List String) := do
  let entries ← (← IO.FS.realPath p.text).readDir
  return (entries.toList.map fun e => e.fileName).mergeSort fun a b => decide (a ≤ b)

def removeDir (p : Path) : IO Unit := do
  if ← pathExists p then IO.FS.removeDirAll p.text

def report (c : LogConfig) (e : LogEvent) : IO Unit := do
  if c.shows e then IO.eprintln (c.record e)

/-- The files of this machine. -/
def host (c : LogConfig) : Host IO where
  pathExists := pathExists
  write p content := succeeds (IO.FS.writeFile p.text content)
  createDirAll p := if p.isEmpty then pure true else succeeds (IO.FS.createDirAll p.text)
  removeDirAll p := succeeds (removeDir p)
  readText p := attempt? (IO.FS.readFile p.text)
  names p := attempt? (fileNames p)
  download url dest := report c
    (.error "Asset download failed" [("url", .str url), ("dest", .str dest.shown)])
  updateProject _ _ := pure true
  log := report c

def logConfig (verbose : Bool) : IO LogConfig := do
  if verbose then return LogConfig.verbose
  return LogConfig.ofVariables (← IO.getEnv "STUBSMITH_LOG_LEVEL")
    (← IO.getEnv "STUBSMITH_LOG_FORMAT") (← IO.getEnv "STUBSMITH_LOG_INCLUDE_LOCATION")

/-- How the command is used. -/
def usage : String :=
  "Usage: stubsmith [-v] <build|update> --input <INPUT> --output <OUTPUT> [OPTIONS]\n\n" ++
    String.join (CommandLine.Flag.all.map fun f => "  --" ++ f.long ++ "  " ++ f.purpose ++ "\n")

def refuse (e : CommandLine.UsageError) : IO UInt32 := do
  match e with
  | .helpAsked =>
    IO.print usage
    return 0
  | .nothingGiven =>
    IO.eprint usage
    return 2
  | e =>
    IO.eprintln ("error: " ++ e.message ++ "\n\n" ++ usage)
    return 2

def run (words : List String) : IO UInt32 := do
  match CommandLine.Invocation.parse words with
  | .error e => refuse e
  | .ok invocation =>
    match ← (invocation.run (host (← logConfig invocation.verbose))).run with
    | .ok r =>
      IO.print r.text
      return 0
    | .error e =>
      IO.eprintln ("Error: " ++ e.message)
      return 1

end Scaffold.Terminal

def main (words : List String) : IO UInt32 :=
  Scaffold.Terminal.run words

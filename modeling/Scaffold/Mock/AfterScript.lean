import Scaffold.Mock.Synthesis
import Scaffold.Script.Evaluator

/-!
# Scripts over payloads

An interface may hold a script that works over its payload. The script sees the payload as
`json`; its value is the new payload, unless it has none: then the payload is what `json` holds
at the end. A script that fails leaves the payload as it is.
-/

namespace Scaffold.Mock

open Script (Value)

/-- The script of an interface, unless it is blank. -/
def scriptText? (i : Interface) : Option String :=
  match i.afterScript with
  | none => none
  | some s =>
    let text := Text.trim s.toList
    if text.isEmpty then none else some (String.ofList text)

/-- What a script makes of a payload, and the lines it printed. -/
def runScript (source : String) (constraints json : Json) : Option Json × List String :=
  match Script.parse? source with
  | none => (none, [])
  | some script =>
    let r := script.run [("json", .ofJson json), ("constraints", .ofJson constraints)] "json"
    let value? := r.value.map fun (v, held) => if v.isUnit then held.getD v else v
    (value?.bind Value.toJson?, r.printed)

def scriptFailure (i : Interface) : String :=
  "afterScript of '" ++ i.name ++ "' failed"

def applyScript (constraints json : Json) (i : Interface) : MockData :=
  match scriptText? i with
  | none => { json }
  | some source =>
    match runScript source constraints json with
    | (some out, printed) => { json := out, printed }
    | (none, printed) => { json, errors := [scriptFailure i], printed }

end Scaffold.Mock

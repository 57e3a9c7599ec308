import Scaffold.Mock.Writer
import Scaffold.Output.Walk
import Scaffold.Render.Registry
import Scaffold.Run.ServerConfig

/-!
# Generating a project

A run registers the helpers of a project, finds its structural roots, writes mock data, walks
the document tree and keeps its own configuration; the last and the mock data are for
incremental runs only. Faults in single files are counted and stop nothing; a run fails where
the output or its configuration cannot be created or written, or the platform's project cannot
be updated.
-/

namespace Scaffold

/-- Why a run stops. -/
inductive RunError where
  | outputRoot (path : Path)
  | configRoot (path : Path)
  | configFile (path : Path)
  | projectUpdate (path : Path)
deriving DecidableEq

namespace RunError

def message : RunError → String
  | outputRoot p => "Failed to create output root " ++ p.shown
  | configRoot p => "Failed to create config root " ++ p.shown
  | configFile p => "Failed to write " ++ p.shown
  | projectUpdate p => "Failed to update " ++ p.shown

end RunError

/-- What a run did. -/
structure RunReport where
  /-- Mock files and files of the tree. -/
  files : Report := {}
  change : Option Change := none
  roots : StructuralRoots := {}
  /-- How many script helpers there are. -/
  helpers : Nat := 0
  interfaceRules : Nat := 0
  viewRules : Nat := 0
  configFiles : List Path := []
  projectUpdated : Bool := false
deriving Inhabited

namespace RunReport

def countLine (label : String) (n : Nat) : String :=
  label ++ String.ofList (Number.natDigits n) ++ "\n"

/-- The report in lines; what does not apply is left out. -/
def text (r : RunReport) : String :=
  countLine "written:   " r.files.written.length ++
  countLine "kept:      " r.files.kept.length ++
  countLine "empty:     " r.files.suppressed ++
  countLine "failed:    " r.files.failed ++
  countLine "downloads: " r.files.downloads.length ++
  (if r.files.purged.isEmpty then "" else countLine "purged:    " r.files.purged.length) ++
  (if r.configFiles.isEmpty then ""
    else "rules:     " ++ String.ofList (Number.natDigits r.interfaceRules) ++ " interface, " ++
      String.ofList (Number.natDigits r.viewRules) ++ " view\n") ++
  (if r.projectUpdated then "project file updated\n" else "")

end RunReport

/-- What a run works with. -/
structure RunSetup (m : Type → Type) where
  host : Host m
  provider : MockProvider
  /-- What has changed since an earlier run. -/
  change : Change

namespace RunSetup

variable {m : Type → Type} [Monad m]

/-- Render with the helpers of a project, and tell what there is to tell. -/
def render (u : RunSetup m) (helpers : HelperRegistry) (template : String) (data : Json) :
    m (Option String) := do
  let (text?, events) := helpers.render template data
  u.host.logAll events
  return text?

/-- Find the structural roots, by the context in which neither places nor rules are known. -/
def findRoots (u : RunSetup m) (helpers : HelperRegistry) (c : RunConfig) (s : Spec) :
    m StructuralRoots :=
  let data := (RenderContext.ofSpec s c.args).data
  StructuralRoots.discover s.docs s.info.attributes c.outputRoot
    (fun name => u.render helpers name data) u.host.log

/-- Write a configuration file. -/
def writeConfigFile (u : RunSetup m) (path : Path) (v : Json) : ExceptT RunError m Unit := do
  match ← u.host.replaceOutput path (ServerConfig.text v) with
  | some _ => return
  | none => throw (.configFile path)

/-- Keep the run's configuration: what a later update needs, and the mock server's. -/
def writeConfig (u : RunSetup m) (c : RunConfig) (s : Spec) (roots : StructuralRoots)
    (views : List ViewRule) (mocks : List MockRule) : ExceptT RunError m (List Path) := do
  if !(← u.host.createDirAll c.configRoot) then throw (.configRoot c.configRoot)
  let enginePath := c.configRoot.join ServerConfig.engineFile
  u.writeConfigFile enginePath c.engineConfig
  let serverPath := c.configRoot.join ServerConfig.serverFile
  let existing ← (ServerConfig.readExisting u.host serverPath : m (Option Json))
  u.writeConfigFile serverPath
    (ServerConfig.encode c roots s.info (ServerRule.sorted views mocks) existing)
  u.host.log (.info "Wrote run configuration" [("dir", .str c.configRoot.shown)])
  return [enginePath, serverPath]

/-- Whether the platform's project is updated. -/
def wantsUpdate (args : RunArgs) (change : Change) : Bool :=
  args.isBuild || (args.action == .update && (change.any || args.pbxForce))

/-- Make the platform's project refer to generated directories, if there is one. -/
def updateProject (u : RunSetup m) (c : RunConfig) (change : Change) (tracked : List Path) :
    ExceptT RunError m Bool := do
  if wantsUpdate c.args change then
    match ← u.host.locateProject c.iosProjectDir with
    | none =>
      u.host.log (.info "No Xcode project to update" [("dir", .str c.iosProjectDir.shown)])
      return false
    | some manifest =>
      if ← u.host.updateProject manifest tracked then return true
      else throw (.projectUpdate manifest.file)
  else
    u.host.log (.info "Interfaces and data types unchanged, project file left alone")
    return false

/-- What has changed, as far as the run is to know. -/
def knownChange (u : RunSetup m) (args : RunArgs) : m (Option Change) := do
  if args.isIncremental then
    u.host.log (.info "Computed diff"
      [("interface_changed", .bool u.change.interfaces),
       ("datatype_changed", .bool u.change.dataTypes)])
    return some u.change
  else return none

/-- Write the mock data of an incremental run. -/
def writeMocks (u : RunSetup m) (args : RunArgs) (s : Spec) (roots : StructuralRoots) :
    m (List MockRule × Report) :=
  if args.isIncremental then
    Mock.writeAll ⟨u.host, args.overwrite, u.provider⟩ s roots.mockApiRoot roots.mockViewRoot
  else return ([], {})

/-- The context of the walk: places and routing rules are known. -/
def walkContext (c : RunConfig) (s : Spec) (roots : StructuralRoots) (mocks : List MockRule)
    (views : List ViewRule) : RenderContext :=
  let context := (RenderContext.ofSpec s c.args).insert "config" (roots.configValue c.outputRoot)
  if c.args.isIncremental then
    (context.insert "interfaceMockRules" (encodeList MockRule.encode mocks)).insert
      "templateMockRules" (encodeList ViewRule.encode views)
  else context

/-- Configuration and project of an incremental run. -/
def finish (u : RunSetup m) (c : RunConfig) (s : Spec) (change : Change)
    (mocks : List MockRule) (views : List ViewRule) (r : RunReport) :
    ExceptT RunError m RunReport := do
  if c.args.isIncremental then
    let configFiles ← u.writeConfig c s r.roots views mocks
    let projectUpdated ←
      if c.args.platform == .ios then u.updateProject c change r.files.tracked else pure false
    return { r with
      configFiles, projectUpdated
      interfaceRules := mocks.length
      viewRules := views.length }
  else return r

/-- Generate a project. -/
def run (u : RunSetup m) (c : RunConfig) (s : Spec) : ExceptT RunError m RunReport := do
  let (helpers, events) := HelperRegistry.ofDocs s.docs
  u.host.logAll events
  let roots ← u.findRoots helpers c s
  if !(← u.host.createDirAll c.outputRoot) then throw (.outputRoot c.outputRoot)
  let change? ← u.knownChange c.args
  let change := change?.getD {}
  let (mocks, mockReport) ← u.writeMocks c.args s roots
  let views := if c.args.isIncremental then ViewRule.ofPages s.pages else []
  let walker : Walker m :=
    { host := u.host, render := u.render helpers, overwrite := c.args.overwrite
      policy := RegenerationPolicy.ofArgs c.args change }
  let walked ← walker.walk s.docs c.outputRoot (walkContext c s roots mocks views)
  let report : RunReport :=
    { files := (({} : Report).merge mockReport).merge walked.report
      change := change?
      roots := roots
      helpers := helpers.names.length }
  let report ← u.finish c s change mocks views report
  u.host.log (.info "Generation finished"
    [("written", Json.int report.files.written.length),
     ("kept", Json.int report.files.kept.length),
     ("failed", Json.int report.files.failed)])
  return report

end RunSetup

end Scaffold

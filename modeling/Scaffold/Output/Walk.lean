import Scaffold.Output.Writer
import Scaffold.Path.Rendered
import Scaffold.Render.Context
import Scaffold.Run.Policy

/-!
# Walking a document tree

Each file node becomes none, one or many files: documents one each, nodes of a source one for
each of its entities, assets are asked for. Names and contents are rendered, and what fails is
counted where it fails while everything else goes on. While a node expands, the current entity
is bound in the context; directories of generated sources may be purged first, once in a walk.
-/

namespace Scaffold

/-- What a walk works with. -/
structure Walker (m : Type → Type) where
  host : Host m
  render : String → Json → m (Option String)
  overwrite : Bool
  policy : RegenerationPolicy

structure WalkState where
  context : RenderContext
  /-- Directories for which a purge was tried. -/
  purged : List Path := []
  report : Report := {}

/-- The mark of a data type node that expands over enumerations only. -/
def enumFlag : List Char := "!!enum".toList

namespace DocFile

def isEnumsOnly (f : DocFile) : Bool :=
  f.dataSource == .dataType && Text.occurs enumFlag f.name.toList

/-- The name template without the mark. -/
def nameTemplate (f : DocFile) : String :=
  if f.isEnumsOnly then String.ofList (Text.replace enumFlag [] f.name.toList) else f.name

end DocFile

namespace DataSource

/-- Sources whose files the platform's project may have to list. -/
def isTracked : DataSource → Bool
  | interface => true
  | dataType => true
  | _ => false

end DataSource

namespace Walker

variable {m : Type → Type} [Monad m]

def onReport (s : WalkState) (f : Report → Report) : WalkState :=
  { s with report := f s.report }

/-- Render a file name; a blank one stands for none. -/
def renderName (w : Walker m) (name : String) (s : WalkState) : m (Option String) := do
  match ← w.render name s.context.data with
  | some rendered =>
    if (Text.trim rendered.toList).isEmpty then
      w.host.log (.debug "File name rendered empty, skipped" [("name", .str name)])
      return none
    else return some rendered
  | none =>
    w.host.log (.debug "File name rendered empty, skipped" [("name", .str name)])
    return none

/-- Write rendered content to its place. -/
def output (w : Walker m) (path : Path) (content : String) (s : WalkState) : m WalkState := do
  if ← w.host.ensureParent path then
    let result ← w.host.writeOutput w.overwrite path content
    let report ← w.host.recordWrite s.report path result
    return { s with report }
  else
    w.host.log (.error "Failed to create parent directory" [("path", .str path.shown)])
    return onReport s Report.fail

/-- Render one file and write it. -/
def emit (w : Walker m) (f : DocFile) (dir : Path) (s : WalkState) : m WalkState := do
  match ← w.renderName f.nameTemplate s with
  | none => return onReport s Report.suppress
  | some rendered =>
    match ← w.render f.content s.context.data with
    | none => return onReport s Report.fail
    | some content => w.output (dir.joinRendered rendered) content s

/-- Write one file for each entity in turn. -/
def expandOver (w : Walker m) (f : DocFile) (key : String) (dir : Path) :
    List Json → WalkState → m WalkState
  | [], s => return s
  | entity :: rest, s => do
    let (previous, context) := s.context.bind key entity
    let s ← w.emit f dir { s with context }
    w.expandOver f key dir rest { s with context := s.context.unbind key previous }

/-- Write a node's files for all entities of its source. -/
def expand (w : Walker m) (f : DocFile) (dir : Path) (s : WalkState) : m WalkState :=
  match f.dataSource.bindingKey? with
  | none => return s
  | some key =>
    w.expandOver f key dir (s.context.entities f.dataSource f.isEnumsOnly) s

/-- Ask for an asset, unless its place is taken. -/
def fetchTo (w : Walker m) (path : Path) (url : String) (s : WalkState) : m WalkState := do
  if ← w.host.pathExists path then
    w.host.log (.debug "Binary exists, not downloaded" [("path", .str path.shown)])
    return onReport s fun r => { r with kept := r.kept ++ [path] }
  else
    if !(← w.host.ensureParent path) then
      w.host.log (.error "Failed to create directory for download" [("path", .str path.shown)])
    w.host.download url path
    return onReport s fun r => { r with downloads := r.downloads ++ [path] }

/-- Ask for the asset of a node under its rendered name. -/
def fetchAsset (w : Walker m) (f : DocFile) (dir : Path) (s : WalkState) : m WalkState := do
  match ← w.renderName f.name s with
  | none => return onReport s Report.suppress
  | some rendered => w.fetchTo (dir.joinRendered rendered) f.content s

/-- Remove a directory and create it anew. -/
def purge (w : Walker m) (dir : Path) (s : WalkState) : m WalkState := do
  let emptied ← do
    if ← w.host.removeDirAll dir then w.host.createDirAll dir else pure false
  let s := { s with purged := s.purged ++ [dir] }
  if emptied then
    w.host.log (.info "Purged generated directory" [("dir", .str dir.shown)])
    return onReport s fun r => { r with purged := r.purged ++ [dir] }
  else
    w.host.log (.error "Failed to purge generated directory" [("dir", .str dir.shown)])
    return s

/-- Purge a directory of generated sources if the run asks for it, once, and note it. -/
def prepare (w : Walker m) (dir : Path) (s : WalkState) : m WalkState := do
  let s ← if w.policy.purgeGenerated && !s.purged.any (Path.same dir) then w.purge dir s
    else pure s
  return onReport s fun r => r.track dir

def walkFile (w : Walker m) (f : DocFile) (dir : Path) (s : WalkState) : m WalkState := do
  if !f.isText && w.policy.normalDocs then w.fetchAsset f dir s
  else
    match f.dataSource with
    | .handlebarHelper => return s
    | .none => if w.policy.normalDocs then w.emit f dir s else return s
    | source =>
      let s ← if source.isTracked then w.prepare dir s else pure s
      w.expand f dir s

/-- Create a directory, and tell of a failure. -/
def makeDir (w : Walker m) (path : Path) : m Bool := do
  if ← w.host.createDirAll path then return true
  else
    w.host.log (.error "Failed to create directory, subtree skipped" [("dir", .str path.shown)])
    return false

/-- Create the directory that a rendered name leads to; `none` is a failure. -/
def enter (w : Walker m) (name : String) (dir : Path) (s : WalkState) : m (Option Path) := do
  match ← w.render name s.context.data with
  | none => return none
  | some rendered =>
    let path := dir.joinRendered rendered
    if ← w.makeDir path then return some path else return none

mutual

def walkNode (w : Walker m) (dir : Path) : DocNode → WalkState → m WalkState
  | .file f, s => w.walkFile f dir s
  | .directory _ name children, s => do
    match ← w.enter name dir s with
    | some path => w.walkNodes path children s
    | none => return onReport s Report.fail

/-- Walk nodes in document order into a directory. -/
def walkNodes (w : Walker m) (dir : Path) : List DocNode → WalkState → m WalkState
  | [], s => return s
  | n :: ns, s => do
    let s ← w.walkNode dir n s
    w.walkNodes dir ns s

end

/-- Walk a document tree from a context on. -/
def walk (w : Walker m) (docs : List DocNode) (dir : Path) (context : RenderContext) :
    m WalkState :=
  w.walkNodes dir docs { context }

end Walker

end Scaffold

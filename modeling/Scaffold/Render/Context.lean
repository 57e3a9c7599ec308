import Scaffold.Json.Members
import Scaffold.Run.Args
import Scaffold.Spec.Export

/-!
# Render contexts

The data that every template of a run renders against: the run's arguments, the project and its
entities. While a file expands over entities, the current one is bound under a name of its own;
binding gives back what stood there before, and unbinding puts it back.
-/

namespace Scaffold

structure RenderContext where
  members : Members
  sorted : members.Sorted

namespace RenderContext

def data (c : RenderContext) : Json :=
  .obj c.members

def ofMembers (entries : List (String × Json)) : RenderContext :=
  ⟨Members.ofList entries, Members.sorted_ofList entries⟩

def get? (key : String) (c : RenderContext) : Option Json :=
  Members.find? key c.members

def insert (key : String) (value : Json) (c : RenderContext) : RenderContext :=
  ⟨Members.insert key value c.members, c.sorted.insert⟩

def erase (key : String) (c : RenderContext) : RenderContext :=
  ⟨Members.erase key c.members, c.sorted.erase⟩

/-- The entities of a project as templates see them. -/
def entitiesOf (s : Spec) : Json :=
  Json.object
    [("interfaces", encodeList Interface.encode s.interfaces),
     ("datatypes", encodeList DataType.encode s.datatypes),
     ("templates", encodeList PageTemplate.encode s.templates),
     ("pages", encodeList Page.encode s.pages),
     ("constraints", s.constraints)]

/-- The context of a run; places and routing rules are not known yet. -/
def ofSpec (s : Spec) (args : RunArgs) : RenderContext :=
  ofMembers
    [("args", args.encode),
     ("config", .obj []),
     ("project", s.project),
     ("spec", s.info.encode),
     ("datatypeEnums", encodeList DataType.encode s.datatypeEnums),
     ("ds", entitiesOf s),
     ("_ds", s.raw),
     ("interfaceMockRules", .arr []),
     ("templateMockRules", .arr [])]

/-- Where the entities of a source stand. -/
def entityPlace (source : DataSource) (enumsOnly : Bool) : List String :=
  match source with
  | .interface => ["ds", "interfaces"]
  | .dataType => if enumsOnly then ["datatypeEnums"] else ["ds", "datatypes"]
  | .template => ["ds", "templates"]
  | .webView => ["ds", "pages"]
  | .none => []
  | .handlebarHelper => []

/-- The value at the end of a way through objects. -/
def follow? (v : Json) : List String → Option Json
  | [] => some v
  | key :: keys => (v.get? key).bind fun w => follow? w keys

/-- The entities that a source expands over; sources without entities have none. -/
def entities (source : DataSource) (enumsOnly : Bool) (c : RenderContext) : List Json :=
  ((follow? c.data (entityPlace source enumsOnly)).bind Json.items?).getD []

/-- Interfaces, data types, page templates and pages are listed in `ds`, enumerations once more
beside it. What is missing, or is no list, has no entities. -/
theorem entities_eq (source : DataSource) (enumsOnly : Bool) (c : RenderContext) :
    let listed (v : Option Json) : List Json := (v.bind Json.items?).getD []
    let ds (key : String) : Option Json := (c.get? "ds").bind (Json.get? key)
    c.entities source enumsOnly =
      match source, enumsOnly with
      | .interface, _ => listed (ds "interfaces")
      | .dataType, false => listed (ds "datatypes")
      | .dataType, true => listed (c.get? "datatypeEnums")
      | .template, _ => listed (ds "templates")
      | .webView, _ => listed (ds "pages")
      | .none, _ => []
      | .handlebarHelper, _ => [] := by
  have htop : ∀ key, follow? c.data [key] = c.get? key := fun key => Option.bind_fun_some _
  have hds : ∀ key, follow? c.data ["ds", key] = (c.get? "ds").bind (Json.get? key) := by
    intro key
    change ((c.get? "ds").bind fun w => (w.get? key).bind some) = _
    simp only [Option.bind_fun_some]
  cases source with
  | none | handlebarHelper => rfl
  | interface | template | webView => simp only [entities, entityPlace, hds]
  | dataType =>
    cases enumsOnly with
    | true => simp only [entities, entityPlace, if_true, htop]
    | false => simp only [entities, entityPlace, Bool.false_eq_true, if_false, hds]

/-- Bind an entity; what the name held before comes along. -/
def bind (key : String) (entity : Json) (c : RenderContext) : Option Json × RenderContext :=
  (c.get? key, c.insert key entity)

/-- Undo a binding. -/
def unbind (key : String) (previous : Option Json) (c : RenderContext) : RenderContext :=
  match previous with
  | some v => c.insert key v
  | none => c.erase key

end RenderContext

end Scaffold

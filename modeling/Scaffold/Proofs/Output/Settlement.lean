import Mathlib
import Scaffold.Proofs.Plan.Settled
import Scaffold.Render.Registry

/-!
# What a walk makes of the files

A walk that purges nothing, and gets all it asks for, comes to a map from locations to contents
that can be told from the tree it starts with and from the units of its documents alone.
-/

namespace Scaffold.Walker

open FileUnit (settledAt? ofNodes)

/-- If everything that a walk asks for is done, each file holds the content of the last
overwriting unit for its place, else its old content, else the content of the first unit. No unit
is without a file unless a directory has its place, no file makes room for a directory, and
files that no unit is for stay as they were. -/
theorem walk_settles_files {σ : Type} {view : σ → Journal} {r : Refusals}
    {w : Walker (StateM σ)} {render : Rendering} (hhost : w.host.Follows view (Journal.host r))
    (hrender : w.RendersBy view render) (hpurge : w.policy.purgeGenerated = false)
    (docs : List DocNode) (dir : Path) (c : RenderContext) (s : σ)
    (hok : ∀ call ∈ (view (w.walk docs dir c s).2).calls, call.answer = true) :
    let before := (view s).files
    let after := (view (w.walk docs dir c s).2).files
    let units := ofNodes render w.overwrite w.policy.normalDocs c dir docs
    ∀ loc,
      (∀ content, after.find? loc = some (.file content) →
        settledAt? before units loc = some content) ∧
      (after.find? loc = some .directory → before.fileAt? loc = none) ∧
      (after.find? loc = none → settledAt? before units loc = none) ∧
      ((∀ u ∈ units, before.destination u.target ≠ loc) →
        after.fileAt? loc = before.fileAt? loc) := by
  intro before after units loc
  have hview := (walk_follows hhost hrender docs dir c s).2
  have hsettles := (settles_compositional (w := w.onHost (Journal.host r) render) rfl
    hpurge).carryOutAll (fun _ _ _ => trivial) dir trivial
      (Plan.ofNodes render w.policy.normalDocs c docs) { context := c } (view s)
  have hunits : ((Plan.outputsAll dir (Plan.ofNodes render w.policy.normalDocs c docs)).map
      Plan.Output.entry).map (FileUnit.ofEntry w.overwrite) = units := by
    rw [List.map_map]
    exact FileUnit.ofOutputs_ofNodes render w.overwrite w.policy.normalDocs c dir docs
  have hsettled : FileUnit.Settled units before after := by
    rw [← hunits]
    simp only [after, hview] at hok ⊢
    exact hsettles.2 hok
  have hplace := hsettled.place loc
  refine ⟨fun content hfile => ?_, fun hdir => ?_, fun hnone => ?_, fun helse => ?_⟩
  · rw [hfile] at hplace
    rcases hplace with ⟨hdir, -⟩ | hfind
    · simp at hdir
    · simpa [eq_comm] using hfind
  · rw [hdir] at hplace
    rcases hplace with ⟨-, hnone⟩ | hfind
    · exact hnone
    · simp [eq_comm] at hfind
  · rw [hnone] at hplace
    rcases hplace with ⟨hdir, -⟩ | hfind
    · simp at hdir
    · simpa [eq_comm] using hfind
  · have hsame : settledAt? before units loc = before.fileAt? loc :=
      FileUnit.settledAt?_of_forall_elsewhere helse
    rcases hplace with ⟨hdir, hnone⟩ | hfind
    · rw [FileTree.fileAt?_of_directory hdir, hnone]
    · rw [hsame] at hfind
      cases hfile : before.fileAt? loc with
      | none => exact FileTree.fileAt?_of_none (by rw [hfind, hfile, Option.map_none])
      | some content => exact FileTree.fileAt?_of_file (by rw [hfind, hfile, Option.map_some])

/-- Where nothing asks for overwriting, the first of two units stays, and an older file stays
before both; the last of two units that are marked to overwrite stays in any case. Nodes of a
source have units for its entities, which meet others: the file of an interface gives way to that
of an enumeration of the same name, which is marked, and a type that is no enumeration has none. -/
theorem walk_settles_meeting_units :
    let render : Rendering := fun template data =>
      ((default : HelperRegistry).render template data).1
    let w : Walker (StateM Journal) :=
      { host := Journal.host {}, render := fun template data => pure (render template data)
        overwrite := false, policy := { normalDocs := true } }
    let docs : List DocNode :=
      [.directory 1 "src"
        [.file ⟨2, "a.txt", none, .none, "first"⟩, .file ⟨3, "a.txt", none, .none, "second"⟩,
         .file ⟨4, "!!wb.txt", none, .none, "first"⟩,
         .file ⟨5, "!!wb.txt", none, .none, "second"⟩,
         .file ⟨6, "c.txt", none, .none, "first"⟩, .file ⟨7, "d.bin", some "image/png", .none, ""⟩,
         .file ⟨8, "{{interface.name}}.txt", none, .interface, "call {{interface.name}}"⟩,
         .file ⟨9, "!!w{{datatype.name}}!!enum.txt", none, .dataType,
            "enum {{datatype.name}}"⟩]]
    let named (name : String) : Json := .obj [("name", .str name)]
    let c : RenderContext := .ofMembers
      [("ds", .obj [("datatypes", .arr [named "User", named "Color"]),
          ("interfaces", .arr [named "getUser", named "Color"])]),
        ("datatypeEnums", .arr [named "Color"])]
    let before : FileTree :=
      { entries := [(["src".toList], .directory),
          (["src".toList, "b.txt".toList], .file "mine"),
          (["src".toList, "c.txt".toList], .file "mine")] }
    let after := (w.walk docs (.ofString "") c { files := before }).2.files
    let units := ofNodes render false true c (.ofString "") docs
    (after.find? ["src".toList, "a.txt".toList] = some (.file "first") ∧
      settledAt? before units ["src".toList, "a.txt".toList] = some "first") ∧
    (after.find? ["src".toList, "b.txt".toList] = some (.file "second") ∧
      settledAt? before units ["src".toList, "b.txt".toList] = some "second") ∧
    (after.find? ["src".toList, "c.txt".toList] = some (.file "mine") ∧
      settledAt? before units ["src".toList, "c.txt".toList] = some "mine") ∧
    (after.find? ["src".toList, "getUser.txt".toList] = some (.file "call getUser") ∧
      settledAt? before units ["src".toList, "getUser.txt".toList] = some "call getUser") ∧
    (after.find? ["src".toList, "Color.txt".toList] = some (.file "enum Color") ∧
      settledAt? before units ["src".toList, "Color.txt".toList] = some "enum Color") ∧
    (after.find? ["src".toList, "User.txt".toList] = none ∧
      settledAt? before units ["src".toList, "User.txt".toList] = none) := by
  intro render w docs named c before after units
  have hanswers : ((w.walk docs (.ofString "") c { files := before }).2.calls.all
      fun call => call.answer) = true := by
    decide +kernel
  rw [List.all_eq_true] at hanswers
  have hsettles := walk_settles_files (w := w) (Journal.host_follows_self {})
    (fun template data => Follows.pure (render template data)) rfl docs (.ofString "") c
    { files := before }
  simp only [id_eq] at hsettles
  have hplaces := hsettles hanswers
  have ha : after.find? ["src".toList, "a.txt".toList] = some (.file "first") := by
    decide +kernel
  have hb : after.find? ["src".toList, "b.txt".toList] = some (.file "second") := by
    decide +kernel
  have hc : after.find? ["src".toList, "c.txt".toList] = some (.file "mine") := by
    decide +kernel
  have hcall : after.find? ["src".toList, "getUser.txt".toList] = some (.file "call getUser") := by
    decide +kernel
  have henum : after.find? ["src".toList, "Color.txt".toList] = some (.file "enum Color") := by
    decide +kernel
  have hnone : after.find? ["src".toList, "User.txt".toList] = none := by
    decide +kernel
  exact ⟨⟨ha, (hplaces _).1 _ ha⟩, ⟨hb, (hplaces _).1 _ hb⟩, ⟨hc, (hplaces _).1 _ hc⟩,
    ⟨hcall, (hplaces _).1 _ hcall⟩, ⟨henum, (hplaces _).1 _ henum⟩,
    ⟨hnone, (hplaces _).2.2.1 hnone⟩⟩

end Scaffold.Walker

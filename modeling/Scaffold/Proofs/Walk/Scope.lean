import Mathlib
import Scaffold.Proofs.Host.Disk
import Scaffold.Proofs.Json.Member
import Scaffold.Proofs.Walk.Account
import Scaffold.Render.Registry

/-!
# What names and contents are rendered against

A walk shares one context among all nodes and binds entities in it. Still every node sees the
context that the walk was given: a directory, a document and an asset see just that, and a file
of an entity sees it with this entity bound on top, whatever other files have come to before.
-/

namespace Scaffold

variable {σ : Type}

/-- A template that was rendered, what it was rendered against, and the answer. -/
structure Rendered where
  template : String
  data : Json
  text : Option String

/-- Whether the answer can stand for a file name. -/
def Rendered.isName (r : Rendered) : Bool :=
  r.text.any fun text => !(Text.trim text.toList).isEmpty

/-- The operations of a host, where something else is kept beside its state. -/
def Host.beside (ρ : Type) (h : Host (StateM σ)) : Host (StateM (σ × ρ)) :=
  let lift {α : Type} (x : StateM σ α) : StateM (σ × ρ) α :=
    fun t => ((x t.1).1, (x t.1).2, t.2)
  { pathExists := fun p => lift (h.pathExists p)
    write := fun p content => lift (h.write p content)
    createDirAll := fun p => lift (h.createDirAll p)
    removeDirAll := fun p => lift (h.removeDirAll p)
    readText := fun p => lift (h.readText p)
    names := fun p => lift (h.names p)
    download := fun url p => lift (h.download url p)
    updateProject := fun manifest dirs => lift (h.updateProject manifest dirs)
    log := fun e => lift (h.log e) }

namespace Walker

variable {w : Walker (StateM σ)} {noted : σ → List Rendered}

/-- What is rendered is noted, and the host leaves these notes alone. -/
structure NotesRendering (noted : σ → List Rendered) (w : Walker (StateM σ)) : Prop where
  render : ∀ template data t, noted (w.render template data t).2 =
    noted t ++ [⟨template, data, (w.render template data t).1⟩]
  host : ∀ rs, w.host.Preserves (noted · = rs)
  removeDirAll : ∀ p rs, Preserves (noted · = rs) (w.host.removeDirAll p)

/-- A walker that notes what it renders. -/
def noting (w : Walker (StateM σ)) : Walker (StateM (σ × List Rendered)) where
  host := w.host.beside _
  render template data := fun t =>
    ((w.render template data t.1).1, (w.render template data t.1).2,
      t.2 ++ [⟨template, data, (w.render template data t.1).1⟩])
  overwrite := w.overwrite
  policy := w.policy

/-- Whatever a walker is like, it can note what it renders. -/
theorem noting_notesRendering (w : Walker (StateM σ)) : w.noting.NotesRendering Prod.snd where
  render _ _ _ := rfl
  host _ := by constructor <;> intros <;> exact fun _ h => h
  removeDirAll _ _ := fun _ h => h

/-- A file is rendered in a context: its name, and its content if there is a name. -/
def RendersFile (f : DocFile) (c : RenderContext) (rs : List Rendered) : Prop :=
  ∃ name : Rendered, name.template = f.nameTemplate ∧ name.data = c.data ∧
    if name.isName then ∃ text, rs = [name, ⟨f.content, c.data, text⟩] else rs = [name]

/-- What is rendered for a node that is met. A directory's and an asset's name is rendered against
the context `c` itself, any other file in each of its contexts in turn. -/
def RendersNode (w : Walker (StateM σ)) (c : RenderContext) (v : Visit σ)
    (rs : List Rendered) : Prop :=
  match v.node with
  | .directory _ name _ => ∃ text, rs = [⟨name, c.data, text⟩]
  | .file f =>
    if !f.isText && w.policy.normalDocs then ∃ text, rs = [⟨f.name, c.data, text⟩]
    else ∃ parts, List.Forall₂ (RendersFile f) (FileUnit.contexts w.policy.normalDocs c f) parts ∧
      rs = parts.flatten

namespace NotesRendering

variable (H : w.NotesRendering noted)
include H

theorem log (e : LogEvent) (t : σ) : noted (w.host.log e t).2 = noted t :=
  Preserves.eq_of_view (fun rs => (H.host rs).log e) t

theorem renderName (name : String) (s : WalkState) (t : σ) :
    ∃ r : Rendered, r.template = name ∧ r.data = s.context.data ∧
      (w.renderName name s t).1.isSome = r.isName ∧
      noted (w.renderName name s t).2 = noted t ++ [r] := by
  refine ⟨⟨name, s.context.data, (w.render name s.context.data t).1⟩, rfl, rfl, ?_⟩
  have hnoted := H.render name s.context.data t
  rw [Walker.renderName, stateM_bind]
  cases hrendered : (w.render name s.context.data t).1 with
  | none =>
    rw [hrendered] at hnoted
    exact ⟨rfl, (H.log _ _).trans hnoted⟩
  | some rendered =>
    rw [hrendered] at hnoted
    by_cases hblank : (Text.trim rendered.toList).isEmpty = true
    · refine ⟨by simp [hblank, Rendered.isName], ?_⟩
      simp only [hblank, if_true, stateM_bind, stateM_pure]
      exact (H.log _ _).trans hnoted
    · refine ⟨by simp [hblank, Rendered.isName], ?_⟩
      simp only [hblank, if_false, Bool.false_eq_true]
      exact hnoted

/-- The content is rendered only if there is a name. -/
theorem emit_noted (f : DocFile) (dir : Path) (s : WalkState) (t : σ) :
    ∃ name : Rendered, name.template = f.nameTemplate ∧ name.data = s.context.data ∧
      (w.renderName f.nameTemplate s t).1.isSome = name.isName ∧
      ∃ text, noted (w.emit f dir s t).2 = noted t ++
        if name.isName then [name, ⟨f.content, s.context.data, text⟩] else [name] := by
  obtain ⟨name, htemplate, hdata, hname, hnoted⟩ := H.renderName f.nameTemplate s t
  refine ⟨name, htemplate, hdata, hname, ?_⟩
  rw [Walker.emit, stateM_bind]
  cases hrendered : (w.renderName f.nameTemplate s t).1 with
  | none =>
    rw [hrendered, Option.isSome_none] at hname
    rw [← hname]
    exact ⟨none, hnoted⟩
  | some rendered =>
    rw [hrendered, Option.isSome_some] at hname
    rw [← hname]
    have hcontent := H.render f.content s.context.data (w.renderName f.nameTemplate s t).2
    rw [hnoted, List.append_assoc] at hcontent
    refine ⟨_, Eq.trans ?_ hcontent⟩
    simp only [stateM_bind]
    cases (w.render f.content s.context.data (w.renderName f.nameTemplate s t).2).1 with
    | none => rfl
    | some content =>
      exact Preserves.eq_of_view (fun rs => output_preserves (H.host rs) _ content s) _

theorem emit (f : DocFile) (dir : Path) (s : WalkState) (t : σ) :
    ∃ rs, RendersFile f s.context rs ∧ noted (w.emit f dir s t).2 = noted t ++ rs := by
  obtain ⟨name, htemplate, hdata, -, text, hnoted⟩ := H.emit_noted f dir s t
  refine ⟨_, ⟨name, htemplate, hdata, ?_⟩, hnoted⟩
  split
  · exact ⟨text, rfl⟩
  · rfl

theorem emitEach (f : DocFile) (dir : Path) (cs : List RenderContext) (s : WalkState) (t : σ) :
    ∃ parts, List.Forall₂ (RendersFile f) cs parts ∧
      noted (w.emitEach f dir cs s t).2 = noted t ++ parts.flatten := by
  induction cs generalizing s t with
  | nil => exact ⟨[], .nil, by simp [Walker.emitEach]⟩
  | cons c cs ih =>
    obtain ⟨rs, hrs, hnoted⟩ := H.emit f dir (inContext c s) t
    obtain ⟨parts, hparts, hrest⟩ := ih
      (inContext s.context (w.emit f dir (inContext c s) t).1) (w.emit f dir (inContext c s) t).2
    refine ⟨rs :: parts, .cons hrs hparts, ?_⟩
    rw [emitEach_cons_apply, hrest, hnoted, List.flatten_cons, List.append_assoc]

theorem fetchAsset (f : DocFile) (dir : Path) (s : WalkState) (t : σ) :
    ∃ text, noted (w.fetchAsset f dir s t).2 = noted t ++ [⟨f.name, s.context.data, text⟩] := by
  obtain ⟨⟨_, _, text⟩, rfl, rfl, -, hnoted⟩ := H.renderName f.name s t
  refine ⟨text, Eq.trans ?_ hnoted⟩
  rw [Walker.fetchAsset, stateM_bind]
  cases (w.renderName f.name s t).1 with
  | none => rfl
  | some rendered =>
    exact Preserves.eq_of_view (fun rs => fetchTo_preserves (H.host rs) _ _ s) _

theorem enter (name : String) (dir : Path) (s : WalkState) (t : σ) :
    ∃ text, noted (w.enter name dir s t).2 = noted t ++ [⟨name, s.context.data, text⟩] := by
  refine ⟨_, Eq.trans ?_ (H.render name s.context.data t)⟩
  rw [Walker.enter, stateM_bind]
  cases (w.render name s.context.data t).1 with
  | none => rfl
  | some rendered =>
    exact Preserves.eq_of_view (fun rs => (makeDir_preserves (H.host rs) _).bind fun _ =>
      .ite (.pure _) (.pure _)) _

theorem work (v : Visit σ) :
    ∃ rs, RendersNode w v.state.context v rs ∧ noted (v.work w).2 = noted v.world ++ rs := by
  cases hnode : v.node with
  | directory id name children =>
    obtain ⟨text, hnoted⟩ := H.enter name v.dir v.state v.world
    refine ⟨_, by simp only [RendersNode, hnode]; exact ⟨text, rfl⟩, ?_⟩
    rw [← hnoted, Visit.work, hnode]
    dsimp only
    cases (w.enter name v.dir v.state v.world).1 with
    | some path => rfl
    | none => rfl
  | file f =>
    simp only [RendersNode, Visit.work, hnode, walkFile_apply]
    split
    · obtain ⟨text, hnoted⟩ := H.fetchAsset f v.dir v.state v.world
      exact ⟨_, ⟨text, rfl⟩, hnoted⟩
    · have hready : noted (w.ready f v.dir v.state v.world).2 = noted v.world :=
        Preserves.eq_of_view (fun rs =>
          ready_preserves (H.host rs) (fun p => H.removeDirAll p rs) f v.dir v.state) v.world
      obtain ⟨parts, hparts, hnoted⟩ := H.emitEach f v.dir
        (FileUnit.contexts w.policy.normalDocs v.state.context f)
        (w.ready f v.dir v.state v.world).1 (w.ready f v.dir v.state v.world).2
      exact ⟨_, ⟨parts, hparts, rfl⟩, by rw [hnoted, hready]⟩

end NotesRendering

/-- A walk renders names and contents in scope, and leaves the context as it was. An entity is
bound under its key and hides nothing else. -/
theorem walk_renders_in_scope (H : w.NotesRendering noted) (docs : List DocNode) (dir : Path)
    (c : RenderContext) (t : σ) :
    (w.walk docs dir c t).1.context = c ∧
      (∀ key e, (c.insert key e).get? key = some e ∧
        ∀ other, other ≠ key → (c.insert key e).get? other = c.get? other) ∧
      ∃ parts, List.Forall₂ (RendersNode w c) (w.visits docs dir c t) parts ∧
        noted (w.walk docs dir c t).2 = noted t ++ parts.flatten := by
  obtain ⟨hcontext, hcontexts⟩ := context_of_leads (walk_leads (w := w) docs dir c t)
  refine ⟨hcontext, fun key e => ⟨?_, fun other hother => ?_⟩, ?_⟩
  · simp [RenderContext.get?, RenderContext.insert, Members.find?_insert]
  · simp [RenderContext.get?, RenderContext.insert, Members.find?_insert, hother.symm]
  · refine (walk_leads docs dir c t).collect_append (fun a => noted a.2) fun v hv => ?_
    have hwork := H.work v
    rwa [hcontexts v hv] at hwork

/-- Two interfaces are bound in turn; a document after them sees what was there before. -/
theorem walk_binds_interfaces_in_turn :
    let w : Walker (StateM (FileTree × List Rendered)) := noting
      { host := FileTree.host {}, overwrite := false, policy := { normalDocs := true }
        render := fun template data => pure ((default : HelperRegistry).render template data).1 }
    let docs : List DocNode :=
      [.file ⟨1, "{{interface.name}}", none, .interface, "x"⟩,
        .file ⟨2, "{{interface}}", none, .none, "{{interface}}"⟩]
    let interfaces : List Json :=
      [.obj [("name", .str "getA")], .obj [("name", .str "getB")]]
    let c : RenderContext := .ofMembers
      [("ds", .obj [("interfaces", .arr interfaces)]), ("interface", .str "mine")]
    let after := w.walk docs (.ofString "out") c ({}, [])
    w.NotesRendering Prod.snd ∧ after.1.context = c ∧
      after.2.2.map Rendered.text =
        [some "getA", some "x", some "getB", some "x", some "mine", some "mine"] := by
  intro w docs interfaces c after
  have hnotes : w.NotesRendering Prod.snd := noting_notesRendering _
  have hcontext := (walk_renders_in_scope hnotes docs (.ofString "out") c ({}, [])).1
  refine ⟨hnotes, ?_, by decide +kernel⟩
  rw [show after = w.walk docs (.ofString "out") c ({}, []) from rfl]
  exact hcontext

/-- The name of an asset is rendered against the context itself, also where the asset has a source:
of the interface that there is, the name tells nothing. -/
theorem walk_names_asset_without_interface :
    let w : Walker (StateM (FileTree × List Rendered)) := noting
      { host := FileTree.host {}, overwrite := false, policy := { normalDocs := true }
        render := fun template data => pure ((default : HelperRegistry).render template data).1 }
    let docs : List DocNode :=
      [.file ⟨1, "{{interface.name}}.png", some "image/png", .interface, "http://h/logo.png"⟩]
    let c : RenderContext := .ofMembers
      [("ds", .obj [("interfaces", .arr [.obj [("name", .str "getA")]])])]
    let after := w.walk docs (.ofString "out") c ({}, [])
    (c.entities .interface false).length = 1 ∧
      after.2.2.map (fun r => (r.template, r.text)) =
        [("{{interface.name}}.png", some ".png")] ∧
      ∀ r ∈ after.2.2, ∀ e ∈ c.entities .interface false,
        r.data ≠ (c.insert "interface" e).data := by
  intro w docs c after
  refine ⟨by decide +kernel, by decide +kernel, fun r hr e _ hbound => ?_⟩
  have hunbound : ∀ r ∈ after.2.2, (r.data.get? "interface").isNone = true := by decide +kernel
  have hr := hunbound r hr
  have hentity : (c.insert "interface" e).data.get? "interface" = some e := by
    simp [RenderContext.data, RenderContext.insert, Json.get?, Members.find?_insert]
  rw [hbound, hentity] at hr
  simp at hr

end Walker

end Scaffold

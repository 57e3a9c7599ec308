import Mathlib
import Scaffold.Proofs.Mock.File

/-!
# Mock files and their roots

Places of mock data come from addresses and from the places of templates, whatever these hold. A
rendered name cannot lead out of its root. But markers are cut out after that, and a stem without
any name leaves the root's own last name to be made longer, which leads beside the root.
-/

namespace Scaffold

open WriteDirective (first? withoutMarkers)

namespace Path

theorem not_strictlyBeneath_longer {front name more : List Char} (hfront : IsLead front)
    (hname : IsPlain name) (hlonger : IsPlain (name ++ more)) (hmore : more ≠ []) :
    ¬ (⟨front ++ name⟩ : Path).StrictlyBeneath ⟨front ++ (name ++ more)⟩ := by
  have hresolved : ∀ {n : List Char}, IsPlain n →
      (⟨front ++ n⟩ : Path).resolved = (⟨front⟩ : Path).resolved.below [n] := by
    intro n hn
    rw [resolved, components_lead_append hfront hn, Route.ofComponents, List.foldl_concat]
    rfl
  rintro ⟨names, hne, heq⟩
  rw [hresolved hname, hresolved hlonger, Route.below_below] at heq
  have hnames := List.append_cancel_left (congrArg Route.names heq)
  obtain ⟨hlast, -⟩ := List.cons_eq_cons.1 hnames
  exact hmore (List.append_right_eq_self.1 hlast)

end Path

namespace MockFile

variable {f : MockFile}

theorem withoutMarkers_append_ending (cs : List Char) (part : MockPart) :
    withoutMarkers (cs ++ part.ending.toList) = withoutMarkers cs ++ part.ending.toList := by
  obtain ⟨rest, hending, hnone⟩ := part.exists_dot
  rw [hending, WriteDirective.withoutMarkers_append_foreign (by decide),
    WriteDirective.withoutMarkers_of_first?_eq_none hnone]

theorem target_of_nameless (h : f.names = []) :
    f.target = ⟨withoutMarkers f.root.chars ++ f.part.ending.toList⟩ := by
  rw [target, path_eq_of_nameless f h, ← withoutMarkers_append_ending]
  rfl

/-- A file goes into its root if its trail leads back there. -/
theorem strictlyBeneath_iff (h : f.names ≠ []) :
    f.root.StrictlyBeneath f.target ↔
      ∃ names, names ≠ [] ∧
        f.output.start.append f.output.trail = f.root.resolved.below names := by
  rw [target_eq f h]
  exact f.output.strictlyBeneath_iff

theorem strictlyBeneath_of_unmarked (h : f.names ≠ []) (hpath : first? f.path.chars = none) :
    f.root.StrictlyBeneath f.target := by
  rw [target_eq f h]
  rw [path_eq f h] at hpath
  apply Plan.Output.strictlyBeneath_of_unmarked_path hpath
  exact (renderedNames_rendered f).trans_ne h

/-- In a root that ends with a name, a stem that leaves none leads out. -/
theorem not_strictlyBeneath_of_nameless (h : f.names = [])
    (hmarkers : first? f.root.chars = none) (hroot : f.root.chars ≠ [])
    (hfile : FileTree.meansDirectory f.root = false) : ¬ f.root.StrictlyBeneath f.target := by
  obtain ⟨front, name, heq, hfront, hname⟩ :=
    Path.exists_name_of_not_meansDirectory hroot hfile
  have hending : f.part.ending.toList ≠ [] := by cases f.part <;> decide
  rw [target_of_nameless h, WriteDirective.withoutMarkers_of_first?_eq_none hmarkers, heq,
    List.append_assoc]
  exact Path.not_strictlyBeneath_longer hfront hname (f.part.isPlain_append hname) hending

end MockFile

namespace Mock

variable {σ : Type} {view : σ → Journal} {r : Refusals} {w : Setup (StateM σ)}

theorem putAll_writes (r : Refusals) (overwrite : Bool) (files : List MockFile) (rep : Report)
    (j : Journal) :
    ∃ done : List MockFile, done.Sublist files ∧
      ((Journal.host r).putAll overwrite (files.map MockFile.entry) rep j).2.writes =
        j.writes ++ done.map fun f => (f.target, f.content) := by
  obtain ⟨entries, hsub, hwrites, -⟩ :=
    Writes.putAll r overwrite (files.map MockFile.entry) rep j
  obtain ⟨done, hdone, rfl⟩ := List.sublist_map_iff.1 hsub
  refine ⟨done, hdone, ?_⟩
  rw [hwrites, List.map_map]
  rfl

theorem root_of_mem_pairFiles {root : Path} {stem : String} {json : Json} {f : MockFile}
    (hf : f ∈ pairFiles root stem json) : f.root = root := by
  rcases List.mem_cons.1 hf with rfl | hf
  · rfl
  · rw [List.mem_singleton.1 hf]

/-- Interfaces and templates write some of their files. A file whose stem leaves a name goes into
its root just if its trail, from where it starts, comes out inside; so it does if its path holds
no marker. All stems of interfaces leave a name. Where the stem of a template leaves none, the
ending comes behind the root's own text, and the file goes beside a root that ends with a name. -/
theorem mock_files_inside_iff (hhost : w.host.Follows view (Journal.host r)) (s : Spec)
    (apiRoot viewRoot : Path) (rep : Report) (t : σ) :
    (∃ done : List MockFile,
      done.Sublist (interfaceFiles w.provider s apiRoot s.interfaces) ∧
      (view (writeInterfaces w s apiRoot s.interfaces rep t).2).writes =
        (view t).writes ++ done.map (fun f => (f.target, f.content)) ∧
      ∀ f ∈ done,
        (apiRoot.StrictlyBeneath f.target ↔
          ∃ names, names ≠ [] ∧
            f.output.start.append f.output.trail = apiRoot.resolved.below names) ∧
        (first? f.path.chars = none → apiRoot.StrictlyBeneath f.target)) ∧
    ∃ done : List MockFile,
      done.Sublist (templateFiles w.provider s viewRoot s.templates) ∧
      (view (writeTemplates w s viewRoot s.templates rep t).2).writes =
        (view t).writes ++ done.map (fun f => (f.target, f.content)) ∧
      ∀ f ∈ done,
        (f.names ≠ [] →
          (viewRoot.StrictlyBeneath f.target ↔
            ∃ names, names ≠ [] ∧
              f.output.start.append f.output.trail = viewRoot.resolved.below names) ∧
          (first? f.path.chars = none → viewRoot.StrictlyBeneath f.target)) ∧
        (f.names = [] →
          f.target = ⟨withoutMarkers viewRoot.chars ++ f.part.ending.toList⟩ ∧
          (first? viewRoot.chars = none → viewRoot.chars ≠ [] →
            FileTree.meansDirectory viewRoot = false → ¬ viewRoot.StrictlyBeneath f.target)) := by
  constructor
  · obtain ⟨done, hdone, hwrites⟩ := putAll_writes r w.overwrite
      (interfaceFiles w.provider s apiRoot s.interfaces) rep (view t)
    refine ⟨done, hdone, ?_, fun f hf => ?_⟩
    · rw [(writeInterfaces_follows hhost s apiRoot s.interfaces rep t).2, stateM_map,
        ← map_entry_interfaceFiles]
      exact hwrites
    · have hnames := names_ne_nil_of_mem_interfaceFiles (hdone.subset hf)
      obtain ⟨i, -, hfile⟩ := List.mem_flatMap.1 (hdone.subset hf)
      obtain rfl := root_of_mem_pairFiles hfile
      exact ⟨MockFile.strictlyBeneath_iff hnames, MockFile.strictlyBeneath_of_unmarked hnames⟩
  · obtain ⟨done, hdone, hwrites⟩ := putAll_writes r w.overwrite
      (templateFiles w.provider s viewRoot s.templates) rep (view t)
    refine ⟨done, hdone, ?_, fun f hf => ?_⟩
    · rw [(writeTemplates_follows hhost s viewRoot s.templates rep t).2,
        ← map_entry_templateFiles]
      exact hwrites
    · obtain ⟨u, -, hfile⟩ := List.mem_flatMap.1 (hdone.subset hf)
      obtain rfl := root_of_mem_pairFiles hfile
      refine ⟨fun hnames => ?_, fun hnames => ?_⟩
      · exact ⟨MockFile.strictlyBeneath_iff hnames, MockFile.strictlyBeneath_of_unmarked hnames⟩
      · exact ⟨MockFile.target_of_nameless hnames,
          MockFile.not_strictlyBeneath_of_nameless hnames⟩

theorem mock_files_inside_roots :
    let w : Setup (StateM Journal) :=
      { host := Journal.host {}, overwrite := false, provider := .ofTypes 3 }
    let i : Interface := { id := 1, name := "getUser", method := "GET", path := "/user" }
    let u : PageTemplate := { id := 5, name := "Home", path := "home.ftl" }
    let s : Spec :=
      { interfaces := [i], templates := [u]
        pages := [{ id := 1, name := "p", path := "/p", templates := [u] }] }
    let apiRoot := Path.ofString "mock"
    let viewRoot := Path.ofString "view"
    let interfaces := (writeInterfaces w s apiRoot s.interfaces {} ⟨{}, []⟩).2
    let templates := (writeTemplates w s viewRoot s.templates {} ⟨{}, []⟩).2
    interfaces.writes.map Prod.fst =
        [.ofString "mock/get/user/data.json", .ofString "mock/get/user/data.js"] ∧
      (∀ e ∈ interfaces.writes, apiRoot.StrictlyBeneath e.1) ∧
      templates.writes.map Prod.fst = [.ofString "view/home.json", .ofString "view/home.js"] ∧
      ∀ e ∈ templates.writes, viewRoot.StrictlyBeneath e.1 := by
  intro w i u s apiRoot viewRoot interfaces templates
  obtain ⟨⟨done, hdone, hwrites, hinside⟩, ⟨done', hdone', hwrites', hinside'⟩⟩ :=
    mock_files_inside_iff (w := w) (Journal.host_follows_self {}) s apiRoot viewRoot {} ⟨{}, []⟩
  refine ⟨by decide +kernel, ?_, by decide +kernel, ?_⟩
  · intro e he
    rw [show interfaces.writes = _ from hwrites] at he
    obtain ⟨f, hf, rfl⟩ := List.mem_map.1 he
    refine (hinside f hf).2 ?_
    have hunmarked : ∀ f ∈ interfaceFiles w.provider s apiRoot s.interfaces,
        first? f.path.chars = none := by decide +kernel
    exact hunmarked f (hdone.subset hf)
  · intro e he
    rw [show templates.writes = _ from hwrites'] at he
    obtain ⟨f, hf, rfl⟩ := List.mem_map.1 he
    have hunmarked : ∀ f ∈ templateFiles w.provider s viewRoot s.templates,
        first? f.path.chars = none ∧ f.names ≠ [] := by decide +kernel
    obtain ⟨hpath, hnames⟩ := hunmarked f (hdone'.subset hf)
    exact ((hinside' f hf).1 hnames).2 hpath

/-- Without a path, the files of a template are put beside their root. An address that gains `..`
when it loses its markers leads its files out of theirs. -/
theorem mock_files_leave_roots :
    let w : Setup (StateM Journal) :=
      { host := Journal.host {}, overwrite := false, provider := .ofTypes 3 }
    let u : PageTemplate := { id := 5, name := "home", path := "" }
    let i : Interface := { id := 1, name := "esc", method := "GET", path := "/.!!w./.!!w./x" }
    let s : Spec :=
      { interfaces := [i], templates := [u]
        pages := [{ id := 1, name := "p", path := "/p", templates := [u] }] }
    let templates := (writeTemplates w s (.ofString "view") s.templates {} ⟨{}, []⟩).2
    let interfaces := (writeInterfaces w s (.ofString "mock") s.interfaces {} ⟨{}, []⟩).2
    templates.writes.map Prod.fst = [.ofString "view.json", .ofString "view.js"] ∧
      (∀ e ∈ templates.writes, ¬ (Path.ofString "view").StrictlyBeneath e.1) ∧
      interfaces.writes.map Prod.fst =
        [.ofString "mock/get/../../x/data.json", .ofString "mock/get/../../x/data.js"] ∧
      ∀ e ∈ interfaces.writes, ¬ (Path.ofString "mock").StrictlyBeneath e.1 := by
  intro w u i s templates interfaces
  have houtside : ∀ (root : Path) (ws : List (Path × String)),
      (∀ p ∈ ws.map Prod.fst, ¬ root.resolved.names <+: p.resolved.names) →
        ∀ e ∈ ws, ¬ root.StrictlyBeneath e.1 := by
    rintro root ws hws e he ⟨names, -, hnames⟩
    refine hws e.1 (List.mem_map_of_mem he) ?_
    rw [hnames]
    exact List.prefix_append _ _
  have htemplates : templates.writes.map Prod.fst =
      [.ofString "view.json", .ofString "view.js"] := by decide +kernel
  have hinterfaces : interfaces.writes.map Prod.fst =
      [.ofString "mock/get/../../x/data.json", .ofString "mock/get/../../x/data.js"] := by
    decide +kernel
  refine ⟨htemplates, houtside _ _ ?_, hinterfaces, houtside _ _ ?_⟩
  · rw [htemplates]
    decide +kernel
  · rw [hinterfaces]
    decide +kernel

end Mock

end Scaffold

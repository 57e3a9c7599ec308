import Mathlib
import Scaffold.Proofs.Host.Disk
import Scaffold.Proofs.Plan.Effect
import Scaffold.Proofs.Plan.Unit
import Scaffold.Proofs.Walk.Visit
import Scaffold.Render.Registry

/-!
# Failures stay where they are

A node whose names or contents fail to render is counted, and nothing else comes of it. The walk
does to the host what it does without the node, and it reports the same files.
-/

namespace Scaffold

variable {σ τ : Type}

namespace DocNode

def mapChildren (f : List DocNode → List DocNode) : DocNode → DocNode
  | .directory id name children => .directory id name (f children)
  | .file f => .file f

/-- The tree without the node that stands at a place, and without all below it. -/
def removeAt : List DocNode → List Nat → List DocNode
  | ns, [] => ns
  | ns, i :: place =>
    if place = [] then ns.eraseIdx i else ns.modify i (mapChildren fun cs => removeAt cs place)

/-- Nothing comes of the node: it is a directory whose name does not render, or a file that is
rendered and fails for each entity, by its name or by its content. -/
def Fruitless (render : Rendering) (normalDocs : Bool) (c : RenderContext) : DocNode → Prop
  | .directory _ name _ => render name c.data = none
  | .file f => (!f.isText && normalDocs) = false ∧
      ∀ c' ∈ FileUnit.contexts normalDocs c f,
        Plan.fileName? render c'.data f.nameTemplate = none ∨ render f.content c'.data = none

end DocNode

namespace Plan

variable {render : Rendering} {normalDocs : Bool} {c : RenderContext}

theorem effects_ofTexts {data : Json} {name content : String}
    (h : fileName? render data name = none ∨ render content data = none) :
    effects (ofTexts render data name content) = [] := by
  unfold ofTexts
  cases hname : fileName? render data name with
  | none => rfl
  | some rendered =>
    have hcontent : render content data = none := by simpa [hname] using h
    rw [hcontent]
    rfl

theorem effectsAll_ofNode {n : DocNode} (h : n.Fruitless render normalDocs c) :
    effectsAll (ofNode render normalDocs c n) = [] := by
  cases n with
  | directory id name children =>
    have hname : render name c.data = none := h
    rw [ofNode, hname]
    rfl
  | file f =>
    obtain ⟨hrendered, hfails⟩ := h
    rw [ofNode, ofFile, if_neg (by simp [hrendered])]
    unfold FileUnit.contexts at hfails
    cases hkey : f.dataSource.bindingKey? with
    | some key =>
      simp only [hkey, List.forall_mem_map] at hfails
      have hentities : effectsAll (ofEntities render c f key
          (c.entities f.dataSource f.isEnumsOnly)) = [] := by
        rw [effectsAll_eq_nil_iff, ofEntities, List.forall_mem_map]
        exact fun e he => effects_ofTexts (hfails e he)
      rw [effectsAll_append, hentities, List.append_nil]
      split <;> rfl
    | none =>
      simp only [hkey] at hfails
      by_cases hplain : (f.dataSource == .none && normalDocs) = true
      · rw [if_pos hplain] at hfails
        simp only [hplain, if_true]
        rw [effectsAll_eq_nil_iff, List.forall_mem_singleton]
        exact effects_ofTexts (hfails c (List.mem_singleton_self c))
      · simp only [hplain]
        rfl

variable (render normalDocs c) in
/-- What has an effect in the plan of a tree. -/
def treeEffects (ns : List DocNode) : List Plan :=
  effectsAll (ofNodes render normalDocs c ns)

theorem treeEffects_cons (n : DocNode) (ns : List DocNode) :
    treeEffects render normalDocs c (n :: ns) =
      effectsAll (ofNode render normalDocs c n) ++ treeEffects render normalDocs c ns := by
  rw [treeEffects, ofNodes, effectsAll_append, treeEffects]

theorem treeEffects_append (ms ns : List DocNode) :
    treeEffects render normalDocs c (ms ++ ns) =
      treeEffects render normalDocs c ms ++ treeEffects render normalDocs c ns := by
  induction ms with
  | nil => rfl
  | cons m ms ih => rw [List.cons_append, treeEffects_cons, ih, treeEffects_cons,
      List.append_assoc]

theorem effectsAll_ofNode_mapChildren {f : List DocNode → List DocNode} {n : DocNode}
    (h : treeEffects render normalDocs c (f n.children) =
      treeEffects render normalDocs c n.children) :
    effectsAll (ofNode render normalDocs c (n.mapChildren f)) =
      effectsAll (ofNode render normalDocs c n) := by
  cases n with
  | file f => rfl
  | directory id name children =>
    rw [DocNode.mapChildren, ofNode, ofNode]
    cases render name c.data with
    | none => rfl
    | some rendered =>
      simp only [effectsAll, effects, List.append_nil]
      rw [show effectsAll (ofNodes render normalDocs c (f children)) = _ from h]
      rfl

theorem treeEffects_split {ns : List DocNode} {i : Nat} (h : i < ns.length) :
    treeEffects render normalDocs c ns =
      treeEffects render normalDocs c (ns.take i) ++
        (effectsAll (ofNode render normalDocs c ns[i]) ++
          treeEffects render normalDocs c (ns.drop (i + 1))) := by
  rw [← treeEffects_cons, ← List.drop_eq_getElem_cons h, ← treeEffects_append,
    List.take_append_drop]

/-- A node of which nothing comes can be left out anywhere. -/
theorem treeEffects_removeAt {n : DocNode} (hn : n.Fruitless render normalDocs c)
    (place : List Nat) {ns : List DocNode} (hat : DocNode.at? ns place = some n) :
    treeEffects render normalDocs c (DocNode.removeAt ns place) =
      treeEffects render normalDocs c ns := by
  induction place generalizing ns with
  | nil => rfl
  | cons i place ih =>
    rw [DocNode.at?, Option.bind_eq_some_iff] at hat
    obtain ⟨k, hk, hat⟩ := hat
    obtain ⟨hi, rfl⟩ := List.getElem?_eq_some_iff.1 hk
    rw [DocNode.removeAt]
    by_cases hplace : place = []
    · rw [if_pos hplace, Option.some.injEq] at hat
      rw [if_pos hplace, List.eraseIdx_eq_take_drop_succ, treeEffects_append, treeEffects_split hi,
        hat, effectsAll_ofNode hn, List.nil_append]
    · rw [if_neg hplace] at hat
      rw [if_neg hplace, List.modify_eq_take_cons_drop hi, treeEffects_append, treeEffects_cons,
        effectsAll_ofNode_mapChildren (ih hat), ← treeEffects_split hi]

end Plan

namespace Walker

variable {view : σ → τ} {d : Host (StateM τ)} {w : Walker (StateM σ)} {render : Rendering}
  {c : RenderContext}

/-- Trees whose plans have the same effects are walked with the same effects. -/
theorem walk_of_treeEffects (H : w.host.Follows view d) (hr : w.RendersBy view render)
    (hpurge : w.policy.purgeGenerated = false) {docs docs' : List DocNode}
    (h : Plan.treeEffects render w.policy.normalDocs c docs' =
      Plan.treeEffects render w.policy.normalDocs c docs) (dir : Path) (t : σ) :
    (w.walk docs' dir c t).1.effects = (w.walk docs dir c t).1.effects ∧
      view (w.walk docs' dir c t).2 = view (w.walk docs dir c t).2 := by
  obtain ⟨hresult, hview⟩ := walk_follows H hr docs dir c t
  obtain ⟨hresult', hview'⟩ := walk_follows H hr docs' dir c t
  have hagree : ∀ ns : List DocNode, _ := fun ns =>
    carryOutAll_agrees (w := w.onHost d render) H.silent hpurge dir
      (Plan.ofNodes render w.policy.normalDocs c ns) { context := c } { context := c } rfl
  have hsame := (hagree docs').trans ((congrArg (fun ps => WalkState.effects <$>
    (w.onHost d render).carryOutAll dir ps { context := c }) h).trans (hagree docs).symm)
  have hat := congrFun hsame (view t)
  simp only [stateM_map] at hat
  rw [hresult, hresult', hview, hview']
  exact Prod.ext_iff.1 hat

/-- A node of which nothing comes leaves no trace but in the counts of what was suppressed and what
failed, and in the directories that are tracked. -/
theorem walk_contains_failure (H : w.host.Follows view d) (hr : w.RendersBy view render)
    (hpurge : w.policy.purgeGenerated = false) {docs : List DocNode} {place : List Nat}
    {n : DocNode} (hat : DocNode.at? docs place = some n)
    (hn : n.Fruitless render w.policy.normalDocs c) (dir : Path) (t : σ) :
    let full := w.walk docs dir c t
    let pruned := w.walk (DocNode.removeAt docs place) dir c t
    view pruned.2 = view full.2 ∧ pruned.1.context = full.1.context ∧
      pruned.1.report.written = full.1.report.written ∧
      pruned.1.report.kept = full.1.report.kept ∧
      pruned.1.report.downloads = full.1.report.downloads ∧
      pruned.1.report.purged = full.1.report.purged := by
  intro full pruned
  have heffects := Plan.treeEffects_removeAt hn place hat
  obtain ⟨hstate, hview⟩ := walk_of_treeEffects H hr hpurge heffects dir t
  have hcontext := congrArg WalkState.context hstate
  have hreport := congrArg WalkState.report hstate
  exact ⟨hview, hcontext, Report.effects_eq_iff.1 hreport⟩

theorem walk_contains_broken_content :
    let render : Rendering := fun template data =>
      ((default : HelperRegistry).render template data).1
    let w : Walker (StateM Journal) :=
      { host := Journal.host {}, overwrite := false, policy := { normalDocs := true }
        render := fun template data => pure (render template data) }
    let docs : List DocNode :=
      [.directory 1 "gen"
        [.file ⟨2, "bad.txt", none, .none, "\x7b\x7bunclosed"⟩,
          .file ⟨3, "good.txt", none, .none, "ok"⟩]]
    let c : RenderContext := .ofMembers []
    let full := w.walk docs (.ofString "out") c { files := {} }
    let pruned := w.walk (DocNode.removeAt docs [0, 0]) (.ofString "out") c { files := {} }
    full.1.report.written = [.ofString "out/gen/good.txt"] ∧ full.1.report.failed = 1 ∧
      pruned.1.report.failed = 0 ∧ pruned.1.report.written = full.1.report.written ∧
      pruned.2 = full.2 := by
  intro render w docs c full pruned
  have hbad : DocNode.Fruitless render w.policy.normalDocs c
      (.file ⟨2, "bad.txt", none, .none, "\x7b\x7bunclosed"⟩) := by
    refine ⟨rfl, fun c' hc' => .inr ?_⟩
    obtain rfl : c' = c := List.mem_singleton.1 hc'
    decide +kernel
  have hat : DocNode.at? docs [0, 0] =
      some (.file ⟨2, "bad.txt", none, .none, "\x7b\x7bunclosed"⟩) := rfl
  obtain ⟨hview, -, hwritten, -⟩ := walk_contains_failure (w := w) (Journal.host_follows_self {})
    (fun _ _ _ => ⟨rfl, rfl⟩) rfl hat hbad (.ofString "out") { files := {} }
  rw [id_eq, id_eq] at hview
  refine ⟨by decide +kernel, by decide +kernel, by decide +kernel, ?_, ?_⟩
  · simp only [full, pruned]
    exact hwritten
  · simp only [full, pruned]
    exact hview

end Walker

end Scaffold

import Mathlib
import Scaffold.Proofs.Host.Simulation
import Scaffold.Proofs.Plan.Basic
import Scaffold.Proofs.Render.Binding

/-!
# A walk carries out its plan

Rendering does not look at the files, and bindings of entities are undone before anybody else
renders. So what a walk does to the host is what its plan says, and the plan is made of the
document tree and the context alone. The context is after the walk what it was before.
-/

namespace Scaffold

namespace Walker

variable {σ τ : Type} {view : σ → τ} {h : Host (StateM σ)} {d : Host (StateM τ)}
  {w : Walker (StateM σ)} {render : Rendering}

/-- The walker renders as `render` does, and nothing of it is seen through `view`. -/
def RendersBy (view : σ → τ) (w : Walker (StateM σ)) (render : Rendering) : Prop :=
  ∀ template data, Follows view (w.render template data) (pure (render template data))

/-- The walker on another host. -/
def onHost {m n : Type → Type} [Monad n] (w : Walker m) (d : Host n) (render : Rendering) :
    Walker n where
  host := d
  render template data := pure (render template data)
  overwrite := w.overwrite
  policy := w.policy

/-! ## Single steps -/

theorem output_follows (H : w.host.Follows view d) (path : Path) (content : String)
    (s : WalkState) :
    Follows view (w.output path content s) ((w.onHost d render).output path content s) := by
  unfold output
  refine (H.ensureParent path).bind fun _ => .ite ?_ ?_
  · exact (H.writeOutput _ _ _).bind fun _ => (H.recordWrite _ _ _).bind fun _ => .pure _
  · exact (H.log_eq _).bind fun _ => .pure _

theorem fetchTo_follows (H : w.host.Follows view d) (path : Path) (url : String)
    (s : WalkState) :
    Follows view (w.fetchTo path url s) ((w.onHost d render).fetchTo path url s) := by
  unfold fetchTo
  refine (H.pathExists path).bind fun _ => .ite ?_ ?_
  · exact (H.log_eq _).bind fun _ => .pure _
  · refine (H.ensureParent path).bind fun _ => .ite ?_ ?_
    · exact (H.log_eq _).bind fun _ => (H.download _ _).bind fun _ => .pure _
    · exact (H.download _ _).bind fun _ => .pure _

theorem purge_follows (H : w.host.Follows view d) (dir : Path) (s : WalkState) :
    Follows view (w.purge dir s) ((w.onHost d render).purge dir s) := by
  unfold purge
  have htell : ∀ emptied : Bool, ∀ s : WalkState, ∀ e e' : LogEvent, ∀ a b : WalkState,
      Follows view
        (if emptied = true then do w.host.log e; pure a else do w.host.log e'; pure b)
        (if emptied = true then do d.log e; pure a else do d.log e'; pure b) := by
    intro emptied s e e' a b
    exact .ite ((H.log_eq e).bind fun _ => .pure a) ((H.log_eq e').bind fun _ => .pure b)
  refine (H.removeDirAll dir).bind fun _ => .ite ?_ ?_
  · exact (H.createDirAll dir).bind fun _ => htell _ s _ _ _ _
  · exact (Follows.pure false).bind fun _ => htell _ s _ _ _ _

theorem prepare_follows (H : w.host.Follows view d) (dir : Path) (s : WalkState) :
    Follows view (w.prepare dir s) ((w.onHost d render).prepare dir s) := by
  unfold prepare
  refine .ite ?_ ?_
  · exact (purge_follows H dir s).bind fun _ => .pure _
  · exact (Follows.pure s).bind fun _ => .pure _

theorem makeDir_follows (H : w.host.Follows view d) (path : Path) :
    Follows view (w.makeDir path) ((w.onHost d render).makeDir path) := by
  unfold makeDir
  refine (H.createDirAll path).bind fun _ => .ite (.pure _) ?_
  exact (H.log_eq _).bind fun _ => .pure _

theorem renderName_follows_of_log (hlog : ∀ e, Follows view (w.host.log e) (pure ()))
    (hr : w.RendersBy view render) (name : String) (s : WalkState) :
    Follows view (w.renderName name s) (pure (Plan.fileName? render s.context.data name)) := by
  unfold renderName Plan.fileName?
  refine (hr name s.context.data).step ?_
  cases render name s.context.data with
  | none => exact (hlog _).step (.pure none)
  | some rendered =>
    by_cases hblank : (Text.trim rendered.toList).isEmpty = true
    · simp only [hblank, if_true]
      exact (hlog _).step (by simpa [Option.filter, hblank] using Follows.pure none)
    · simpa [Option.filter, hblank] using Follows.pure (some rendered)

theorem renderName_follows (H : w.host.Follows view d) (hr : w.RendersBy view render)
    (name : String) (s : WalkState) :
    Follows view (w.renderName name s) (pure (Plan.fileName? render s.context.data name)) :=
  renderName_follows_of_log H.log hr name s

/-! ## Files -/

theorem emit_follows (H : w.host.Follows view d) (hr : w.RendersBy view render) (f : DocFile)
    (dir : Path) (s : WalkState) :
    Follows view (w.emit f dir s)
      ((w.onHost d render).carryOut dir
        (Plan.ofTexts render s.context.data f.nameTemplate f.content) s) := by
  unfold emit Plan.ofTexts
  refine (renderName_follows H hr _ s).step ?_
  cases Plan.fileName? render s.context.data f.nameTemplate with
  | none => simpa [carryOut] using Follows.pure _
  | some rendered =>
    refine (hr _ _).step ?_
    cases render f.content s.context.data with
    | none => simpa [carryOut] using Follows.pure _
    | some content => simpa [carryOut] using output_follows H _ content s

theorem fetchAsset_follows (H : w.host.Follows view d) (hr : w.RendersBy view render)
    (f : DocFile) (dir : Path) (s : WalkState) :
    Follows view (w.fetchAsset f dir s)
      ((w.onHost d render).carryOut dir (Plan.ofAsset render s.context.data f) s) := by
  unfold fetchAsset Plan.ofAsset
  refine (renderName_follows H hr _ s).step ?_
  cases Plan.fileName? render s.context.data f.name with
  | none => simpa [carryOut] using Follows.pure _
  | some rendered => simpa [carryOut] using fetchTo_follows H _ _ s

/-- A plan leaves the context alone, so that what follows it may count on that. -/
theorem carryOutAll_bind_context {m : Type → Type} [Monad m] [LawfulMonad m] {α : Type}
    (w : Walker m) (dir : Path) (ps : List Plan) (s : WalkState)
    (k : RenderContext → WalkState → m α) :
    (w.carryOutAll dir ps s >>= fun a => k a.context a) =
      w.carryOutAll dir ps s >>= k s.context := by
  have hcontext := carryOutAll_inContext w s.context dir ps s
  rw [show inContext s.context s = s from rfl] at hcontext
  rw [hcontext]
  simp only [bind_map_left]
  rfl

/-- Each entity is bound on top of the context that the expansion started with. -/
theorem expandOver_follows (H : w.host.Follows view d) (hr : w.RendersBy view render)
    (f : DocFile) (key : String) (dir : Path) (entities : List Json) (s : WalkState) :
    Follows view (w.expandOver f key dir entities s)
      ((w.onHost d render).carryOutAll dir
        (Plan.ofEntities render s.context f key entities) s) := by
  induction entities generalizing s with
  | nil => simpa [expandOver, Plan.ofEntities] using Follows.pure s
  | cons e rest ih =>
    set plan := Plan.ofTexts render (s.context.insert key e).data f.nameTemplate f.content
      with hplan
    have hbound := emit_follows H hr f dir (inContext (s.context.insert key e) s)
    rw [show (inContext (s.context.insert key e) s).context = s.context.insert key e from rfl,
      ← hplan, carryOut_inContext] at hbound
    have hall := hbound.bind fun a =>
      ih { a with context := a.context.unbind key (s.context.get? key) }
    simp only [bind_map_left] at hall
    have hcontext : ∀ a : WalkState,
        (inContext (s.context.insert key e) a).context.unbind key (s.context.get? key) =
          s.context := by
      intro a
      simp [inContext, RenderContext.unbind_insert]
    have hrest : ∀ a : WalkState,
        { inContext (s.context.insert key e) a with context := s.context } =
          inContext s.context a := fun _ => rfl
    simp only [hcontext, hrest] at hall
    have hsame := carryOut_inContext (w.onHost d render) s.context dir plan s
    rw [show inContext s.context s = s from rfl] at hsame
    rw [Plan.ofEntities, List.map_cons, ← hplan, carryOutAll_cons, hsame, bind_map_left]
    exact hall

/-- The part of a plan that expands a node over the entities of its source. -/
theorem expand_follows (H : w.host.Follows view d) (hr : w.RendersBy view render)
    (f : DocFile) (dir : Path) (s : WalkState) (key : String)
    (hkey : f.dataSource.bindingKey? = some key) :
    Follows view (w.expand f dir s)
      ((w.onHost d render).carryOutAll dir (Plan.ofEntities render s.context f key
        (s.context.entities f.dataSource f.isEnumsOnly)) s) := by
  unfold expand
  simp only [hkey]
  exact expandOver_follows H hr f key dir _ s

theorem prepare_expand_follows (H : w.host.Follows view d) (hr : w.RendersBy view render)
    (f : DocFile) (dir : Path) (s : WalkState) (key : String)
    (hkey : f.dataSource.bindingKey? = some key) :
    Follows view (w.prepare dir s >>= fun s => w.expand f dir s)
      ((w.onHost d render).carryOutAll dir (Plan.prepare :: Plan.ofEntities render s.context f key
        (s.context.entities f.dataSource f.isEnumsOnly)) s) := by
  rw [← List.singleton_append, carryOutAll_append,
    ← carryOutAll_bind_context (w.onHost d render) dir [.prepare] s fun c =>
      (w.onHost d render).carryOutAll dir
        (Plan.ofEntities render c f key (c.entities f.dataSource f.isEnumsOnly)),
    carryOutAll_singleton, carryOut]
  exact (prepare_follows H dir s).bind fun a => expand_follows H hr f dir a key hkey

theorem walkFile_follows (H : w.host.Follows view d) (hr : w.RendersBy view render)
    (f : DocFile) (dir : Path) (s : WalkState) :
    Follows view (w.walkFile f dir s)
      ((w.onHost d render).carryOutAll dir
        (Plan.ofFile render w.policy.normalDocs s.context f) s) := by
  unfold walkFile Plan.ofFile
  split
  · simpa only [carryOutAll_singleton] using fetchAsset_follows H hr f dir s
  · have hexpand := expand_follows H hr f dir s
    have hprepare := prepare_expand_follows H hr f dir s
    cases hsource : f.dataSource with
    | handlebarHelper => simpa [DataSource.bindingKey?] using Follows.pure s
    | none =>
      cases w.policy.normalDocs with
      | false => simpa [DataSource.bindingKey?] using Follows.pure s
      | true => simpa [DataSource.bindingKey?] using emit_follows H hr f dir s
    | interface | dataType =>
      rw [hsource] at hprepare
      simpa [DataSource.bindingKey?, DataSource.isTracked] using hprepare _ rfl
    | template | webView =>
      rw [hsource] at hexpand
      simpa [DataSource.bindingKey?, DataSource.isTracked] using hexpand _ rfl

mutual

theorem walkNode_follows (H : w.host.Follows view d) (hr : w.RendersBy view render)
    (dir : Path) : ∀ (n : DocNode) (s : WalkState),
    Follows view (w.walkNode dir n s)
      ((w.onHost d render).carryOutAll dir
        (Plan.ofNode render w.policy.normalDocs s.context n) s)
  | .file f, s => by
    simpa only [walkNode, Plan.ofNode] using walkFile_follows H hr f dir s
  | .directory _ name children, s => by
    rw [walkNode, enter, Plan.ofNode, bind_assoc]
    refine (hr name _).step ?_
    cases render name s.context.data with
    | none => simpa [carryOut] using Follows.pure (onReport s Report.fail)
    | some rendered =>
      simp only [carryOutAll_singleton, carryOut, bind_assoc]
      refine (makeDir_follows H _).bind fun made => ?_
      cases made with
      | false => simpa using Follows.pure (onReport s Report.fail)
      | true => simpa using walkNodes_follows H hr _ children s

/-- Walking nodes in turn carries out their plans in turn. -/
theorem walkNodes_follows (H : w.host.Follows view d) (hr : w.RendersBy view render)
    (dir : Path) : ∀ (ns : List DocNode) (s : WalkState),
    Follows view (w.walkNodes dir ns s)
      ((w.onHost d render).carryOutAll dir
        (Plan.ofNodes render w.policy.normalDocs s.context ns) s)
  | [], s => by simpa [walkNodes, Plan.ofNodes] using Follows.pure s
  | n :: ns, s => by
    rw [walkNodes, Plan.ofNodes, carryOutAll_append,
      ← carryOutAll_bind_context (w.onHost d render) dir _ s fun c =>
        (w.onHost d render).carryOutAll dir (Plan.ofNodes render w.policy.normalDocs c ns)]
    exact (walkNode_follows H hr dir n s).bind fun a => walkNodes_follows H hr dir ns a

end

theorem walk_follows (H : w.host.Follows view d) (hr : w.RendersBy view render)
    (docs : List DocNode) (dir : Path) (c : RenderContext) :
    Follows view (w.walk docs dir c)
      ((w.onHost d render).carryOutAll dir
        (Plan.ofNodes render w.policy.normalDocs c docs) { context := c }) :=
  walkNodes_follows H hr dir docs { context := c }

end Walker

end Scaffold

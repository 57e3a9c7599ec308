import Mathlib
import Scaffold.Proofs.Plan.Walk
import Scaffold.Proofs.Walk.Scope

/-!
# Files that are not text

Of a file that is not text the content is an address. As long as assets are fetched, it is asked
for and nothing more. Where assets are left alone, though, the source of such a file decides, and
it is treated like text: its address is rendered and written.
-/

namespace Scaffold

variable {σ : Type}

def Request.isDownload : Request → Bool
  | .download _ _ => true
  | _ => false

/-- Directories are created, and at most one asset is asked for, at `url`. -/
def Fetches (url : String) (qs : List Request) : Prop :=
  (∀ q ∈ qs, (∃ p, q = .createDirAll p) ∨ ∃ p, q = .download url p) ∧
    qs.countP Request.isDownload ≤ 1

theorem fetches_nil (url : String) : Fetches url [] :=
  ⟨by simp, by simp⟩

/-- A host that tells, through `asked`, what it was asked to change or to fetch. -/
structure Host.NotesRequests (asked : σ → List Request) (h : Host (StateM σ)) : Prop where
  write : ∀ p content t, asked (h.write p content t).2 = asked t ++ [.write p content]
  createDirAll : ∀ p t, asked (h.createDirAll p t).2 = asked t ++ [.createDirAll p]
  removeDirAll : ∀ p t, asked (h.removeDirAll p t).2 = asked t ++ [.removeDirAll p]
  download : ∀ url p t, asked (h.download url p t).2 = asked t ++ [.download url p]
  pathExists : ∀ p t, asked (h.pathExists p t).2 = asked t
  readText : ∀ p t, asked (h.readText p t).2 = asked t
  names : ∀ p t, asked (h.names p t).2 = asked t
  updateProject : ∀ manifest dirs t, asked (h.updateProject manifest dirs t).2 = asked t
  log : ∀ e t, asked (h.log e t).2 = asked t

namespace Journal

/-- What was asked for, first request first. -/
def asked (j : Journal) : List Request :=
  (j.calls.map Call.request).reverse

theorem host_notesRequests (r : Refusals) : (host r).NotesRequests asked where
  write _ _ _ := by simp [host, perform, asked]
  createDirAll _ _ := by simp [host, perform, asked]
  removeDirAll _ _ := by simp [host, perform, asked]
  download _ _ _ := by simp [host, perform, asked]
  pathExists _ _ := rfl
  readText _ _ := rfl
  names _ _ := rfl
  updateProject _ _ _ := rfl
  log _ _ := rfl

end Journal

namespace Host.NotesRequests

variable {asked : σ → List Request} {h : Host (StateM σ)} (H : h.NotesRequests asked)
include H

/-- What is kept beside a host's state takes no request away. -/
theorem beside (ρ : Type) : (h.beside ρ).NotesRequests fun t => asked t.1 where
  write p content t := H.write p content t.1
  createDirAll p t := H.createDirAll p t.1
  removeDirAll p t := H.removeDirAll p t.1
  download url p t := H.download url p t.1
  pathExists p t := H.pathExists p t.1
  readText p t := H.readText p t.1
  names p t := H.names p t.1
  updateProject manifest dirs t := H.updateProject manifest dirs t.1
  log e t := H.log e t.1

/-- No request is forgotten. -/
theorem grows (old : List Request) : h.Preserves (old <+: asked ·) where
  write p content t ht := ht.trans (by simp [H.write])
  createDirAll p t ht := ht.trans (by simp [H.createDirAll])
  download url p t ht := ht.trans (by simp [H.download])
  pathExists p t ht := ht.trans (by simp [H.pathExists])
  readText p t ht := ht.trans (by simp [H.readText])
  names p t ht := ht.trans (by simp [H.names])
  updateProject manifest dirs t ht := ht.trans (by simp [H.updateProject])
  log e t ht := ht.trans (by simp [H.log])

theorem removeDirAll_grows (old : List Request) (p : Path) :
    Scaffold.Preserves (old <+: asked ·) (h.removeDirAll p) :=
  fun t ht => ht.trans (by simp [H.removeDirAll])

theorem ensureParent (path : Path) (t : σ) :
    ∃ qs, (qs = [] ∨ ∃ dir, qs = [.createDirAll dir]) ∧
      asked (h.ensureParent path t).2 = asked t ++ qs := by
  rcases h.ensureParent_cases path with heq | ⟨dir, -, -, heq⟩
  · exact ⟨[], .inl rfl, by simp [heq]⟩
  · exact ⟨[.createDirAll dir], .inr ⟨dir, rfl⟩, by rw [heq, H.createDirAll]⟩

end Host.NotesRequests

/-- A template with what it was rendered against. -/
def Rendered.subject (r : Rendered) : String × Json :=
  (r.template, r.data)

namespace DocFile

/-- The names of a file that is not text. -/
def nameSubjects (normalDocs : Bool) (c : RenderContext) (f : DocFile) : List (String × Json) :=
  if normalDocs then [(f.name, c.data)]
  else (FileUnit.contexts normalDocs c f).map fun c' => (f.nameTemplate, c'.data)

/-- What is rendered for a file in a context: the content only if there is a name. -/
def subjects (render : Rendering) (f : DocFile) (c : RenderContext) : List (String × Json) :=
  (f.nameTemplate, c.data) ::
    if (Plan.fileName? render c.data f.nameTemplate).isSome then [(f.content, c.data)] else []

variable {render : Rendering} {f : DocFile}

theorem length_le_flatMap_subjects (cs : List RenderContext) :
    cs.length ≤ (cs.flatMap (f.subjects render)).length := by
  induction cs with
  | nil => exact Nat.le_refl _
  | cons c cs ih =>
    simp only [List.flatMap_cons, subjects, List.length_append, List.length_cons]
    omega

/-- Only names are rendered if and only if none of them comes to anything. -/
theorem flatMap_subjects_eq_iff (cs : List RenderContext) :
    cs.flatMap (f.subjects render) = cs.map (fun c => (f.nameTemplate, c.data)) ↔
      ∀ c ∈ cs, Plan.fileName? render c.data f.nameTemplate = none := by
  induction cs with
  | nil => simp
  | cons c cs ih =>
    rw [List.flatMap_cons, List.map_cons, List.forall_mem_cons, ← ih, subjects]
    cases Plan.fileName? render c.data f.nameTemplate with
    | none => simp
    | some rendered =>
      have hlonger : cs.length ≤ (cs.flatMap (f.subjects render)).length :=
        length_le_flatMap_subjects cs
      constructor
      · intro heq
        have hlength := congrArg List.length heq
        simp only [Option.isSome_some, if_true, List.cons_append, List.nil_append,
          List.length_cons, List.length_map] at hlength
        omega
      · rintro ⟨hnone, -⟩
        cases hnone

end DocFile

namespace Walker

variable {w : Walker (StateM σ)} {render : Rendering} {noted : σ → List Rendered}
  {asked : σ → List Request}

/-- Whether the directory of a file is purged when the file is met. -/
def purgesFor {m : Type → Type} (w : Walker m) (f : DocFile) (dir : Path) (s : WalkState) :
    Bool :=
  f.dataSource.isTracked && (w.policy.purgeGenerated && !s.purged.any (Path.same dir))

theorem ready_snd {f : DocFile} {dir : Path} {s : WalkState}
    (h : w.purgesFor f dir s = false) (t : σ) : (w.ready f dir s t).2 = t := by
  unfold ready
  split
  · rename_i htracked
    have hkept : (w.policy.purgeGenerated && !s.purged.any (Path.same dir)) = false := by
      simpa [purgesFor, htracked] using h
    unfold prepare
    rw [hkept]
    rfl
  · rfl

/-! ## What is asked for -/

section Requests

variable (hhost : w.host.NotesRequests asked)
include hhost

theorem fetchTo_fetches (path : Path) (url : String) (s : WalkState) (t : σ) :
    ∃ qs, asked (w.fetchTo path url s t).2 = asked t ++ qs ∧ Fetches url qs := by
  rw [fetchTo, stateM_bind]
  cases (w.host.pathExists path t).1 with
  | true =>
    refine ⟨[], ?_, fetches_nil url⟩
    simp [hhost.log, hhost.pathExists]
  | false =>
    obtain ⟨qs, hqs, hasked⟩ := hhost.ensureParent path (w.host.pathExists path t).2
    rw [hhost.pathExists] at hasked
    refine ⟨qs ++ [.download url path], ?_, ?_⟩
    · simp only [Bool.false_eq_true, if_false, stateM_bind]
      split <;> simp [hhost.log, hhost.download, hasked]
    · rcases hqs with rfl | ⟨dir, rfl⟩
      · exact ⟨by simp, by simp [Request.isDownload]⟩
      · exact ⟨by simp, by simp [Request.isDownload]⟩

variable (hr : w.RendersBy asked render)
include hr

omit hhost in
theorem render_grows (old : List Request) (template : String) (data : Json) :
    Preserves (old <+: asked ·) (w.render template data) := by
  intro t ht
  rw [(hr template data t).2]
  exact ht

/-- The requests for a file are added to those before. -/
theorem walkFile_grows (f : DocFile) (dir : Path) (s : WalkState) (t : σ) :
    asked t <+: asked (w.walkFile f dir s t).2 :=
  walkFile_preserves (hhost.grows (asked t)) (render_grows hr (asked t))
    (hhost.removeDirAll_grows (asked t)) f dir s t (List.prefix_refl _)

/-- A purge begins with a removal. -/
theorem walkFile_removes {f : DocFile} {dir : Path} {s : WalkState}
    (htext : (!f.isText && w.policy.normalDocs) = false) (h : w.purgesFor f dir s = true) (t : σ) :
    asked t ++ [.removeDirAll dir] <+: asked (w.walkFile f dir s t).2 := by
  rw [purgesFor, Bool.and_eq_true] at h
  have hremoved : asked t ++ [.removeDirAll dir] <+: asked (w.host.removeDirAll dir t).2 := by
    rw [hhost.removeDirAll]
  have hgrows := hhost.grows (asked t ++ [.removeDirAll dir])
  have hready : asked t ++ [.removeDirAll dir] <+: asked (w.ready f dir s t).2 := by
    unfold ready prepare
    rw [if_pos h.1, if_pos h.2]
    exact purge_of_removed hgrows hremoved s
  rw [walkFile_apply, if_neg (by simp [htext])]
  exact emitEach_preserves hgrows (render_grows hr _) f dir _ _ _ hready

theorem renderName_answer (name : String) (s : WalkState) (t : σ) :
    (w.renderName name s t).1 = Plan.fileName? render s.context.data name ∧
      asked (w.renderName name s t).2 = asked t := by
  have hlog : ∀ e, Follows asked (w.host.log e) (pure ()) := fun e t => ⟨rfl, hhost.log e t⟩
  exact renderName_follows_of_log hlog hr name s t

theorem emitEach_asked {f : DocFile} (dir : Path) {cs : List RenderContext}
    (h : ∀ c ∈ cs, Plan.fileName? render c.data f.nameTemplate = none) (s : WalkState) (t : σ) :
    asked (w.emitEach f dir cs s t).2 = asked t := by
  induction cs generalizing s t with
  | nil => rfl
  | cons c cs ih =>
    obtain ⟨hnone, hrest⟩ := List.forall_mem_cons.1 h
    obtain ⟨hname, hasked⟩ := renderName_answer hhost hr f.nameTemplate (inContext c s) t
    have hemit : asked (w.emit f dir (inContext c s) t).2 = asked t := by
      rw [emit, stateM_bind, hname]
      simp only [inContext, hnone]
      exact hasked
    rw [emitEach_cons_apply, ih hrest, hemit]

/-- Nothing is asked for where no purge is due and there are no names. -/
theorem walkFile_idle {f : DocFile} {dir : Path} {s : WalkState}
    (htext : (!f.isText && w.policy.normalDocs) = false) (hkept : w.purgesFor f dir s = false)
    (hnameless : ∀ c ∈ FileUnit.contexts w.policy.normalDocs s.context f,
      Plan.fileName? render c.data f.nameTemplate = none) (t : σ) :
    asked (w.walkFile f dir s t).2 = asked t := by
  rw [walkFile_apply, if_neg (by simp [htext]), emitEach_asked hhost hr dir hnameless,
    ready_snd hkept]

theorem fetchAsset_fetches (f : DocFile) (dir : Path) (s : WalkState) (t : σ) :
    ∃ qs, asked (w.fetchAsset f dir s t).2 = asked t ++ qs ∧ Fetches f.content qs := by
  obtain ⟨-, hasked⟩ := renderName_answer hhost hr f.name s t
  rw [fetchAsset, stateM_bind]
  cases (w.renderName f.name s t).1 with
  | none => exact ⟨[], by simpa using hasked, fetches_nil _⟩
  | some rendered =>
    obtain ⟨qs, hqs, hfetches⟩ := fetchTo_fetches hhost (dir.joinRendered rendered) f.content s
      (w.renderName f.name s t).2
    refine ⟨qs, ?_, hfetches⟩
    rw [hqs, hasked]

end Requests

/-! ## What is rendered -/

section Rendering

variable (H : w.NotesRendering noted) (hhost : w.host.NotesRequests asked)
  (hr : w.RendersBy asked render)
include H hhost hr

theorem emit_subjects (f : DocFile) (dir : Path) (s : WalkState) (t : σ) :
    ∃ rs, noted (w.emit f dir s t).2 = noted t ++ rs ∧
      rs.map Rendered.subject = f.subjects render s.context := by
  obtain ⟨name, htemplate, hdata, hname, text, hnoted⟩ := H.emit_noted f dir s t
  obtain ⟨hrendered, -⟩ := renderName_answer hhost hr f.nameTemplate s t
  refine ⟨_, hnoted, ?_⟩
  rw [hrendered] at hname
  rw [DocFile.subjects, ← hname]
  cases Plan.fileName? render s.context.data f.nameTemplate with
  | none => simp [Rendered.subject, htemplate, hdata]
  | some rendered => simp [Rendered.subject, htemplate, hdata]

theorem emitEach_subjects (f : DocFile) (dir : Path) (cs : List RenderContext) (s : WalkState)
    (t : σ) :
    ∃ rs, noted (w.emitEach f dir cs s t).2 = noted t ++ rs ∧
      rs.map Rendered.subject = cs.flatMap (f.subjects render) := by
  induction cs generalizing s t with
  | nil => exact ⟨[], by simp [emitEach], rfl⟩
  | cons c cs ih =>
    obtain ⟨rs, hnoted, hrs⟩ := emit_subjects H hhost hr f dir (inContext c s) t
    obtain ⟨rest, hlater, hrest⟩ := ih
      (inContext s.context (w.emit f dir (inContext c s) t).1) (w.emit f dir (inContext c s) t).2
    refine ⟨rs ++ rest, ?_, ?_⟩
    · rw [emitEach_cons_apply, hlater, hnoted, List.append_assoc]
    · rw [List.map_append, hrs, hrest, List.flatMap_cons]
      rfl

theorem walkFile_subjects {f : DocFile} (htext : (!f.isText && w.policy.normalDocs) = false)
    (dir : Path) (s : WalkState) (t : σ) :
    ∃ rs, noted (w.walkFile f dir s t).2 = noted t ++ rs ∧
      rs.map Rendered.subject =
        (FileUnit.contexts w.policy.normalDocs s.context f).flatMap (f.subjects render) := by
  have hready : noted (w.ready f dir s t).2 = noted t :=
    Preserves.eq_of_view (fun rs =>
      ready_preserves (H.host rs) (fun p => H.removeDirAll p rs) f dir s) t
  obtain ⟨rs, hnoted, hrs⟩ := emitEach_subjects H hhost hr f dir
    (FileUnit.contexts w.policy.normalDocs s.context f) (w.ready f dir s t).1 (w.ready f dir s t).2
  refine ⟨rs, ?_, hrs⟩
  rw [walkFile_apply, if_neg (by simp [htext]), hnoted, hready]

/-! ## What is done for a file that is not text -/

theorem walkFile_only_fetches_iff {f : DocFile} (hbinary : f.isText = false) (dir : Path)
    (s : WalkState) (t : σ) :
    ∃ rs qs, noted (w.walkFile f dir s t).2 = noted t ++ rs ∧
      asked (w.walkFile f dir s t).2 = asked t ++ qs ∧
      ((rs.map Rendered.subject = f.nameSubjects w.policy.normalDocs s.context ∧
          Fetches f.content qs) ↔
        w.policy.normalDocs = true ∨
          w.purgesFor f dir s = false ∧
            ∀ c ∈ FileUnit.contexts w.policy.normalDocs s.context f,
              Plan.fileName? render c.data f.nameTemplate = none) := by
  cases hdocs : w.policy.normalDocs with
  | true =>
    obtain ⟨text, hnoted⟩ := H.fetchAsset f dir s t
    obtain ⟨qs, hasked, hfetches⟩ := fetchAsset_fetches hhost hr f dir s t
    have hwalk : w.walkFile f dir s t = w.fetchAsset f dir s t := by
      rw [walkFile_apply, if_pos (by simp [hbinary, hdocs])]
    rw [hwalk]
    exact ⟨_, qs, hnoted, hasked, fun _ => .inl rfl, fun _ => ⟨rfl, hfetches⟩⟩
  | false =>
    have htext : (!f.isText && w.policy.normalDocs) = false := by simp [hdocs]
    obtain ⟨rs, hnoted, hrs⟩ := walkFile_subjects H hhost hr htext dir s t
    obtain ⟨qs, hasked⟩ := walkFile_grows hhost hr f dir s t
    refine ⟨rs, qs, hnoted, hasked.symm, ?_⟩
    rw [hdocs] at hrs
    rw [hrs, DocFile.nameSubjects, if_neg Bool.false_ne_true, DocFile.flatMap_subjects_eq_iff]
    constructor
    · rintro ⟨hnameless, hfetches, -⟩
      refine .inr ⟨?_, hnameless⟩
      by_contra hpurges
      rw [Bool.not_eq_false] at hpurges
      have hremoves := walkFile_removes hhost hr htext hpurges t
      rw [← hasked, List.prefix_append_right_inj] at hremoves
      have hmem : Request.removeDirAll dir ∈ qs := hremoves.subset (List.mem_singleton_self _)
      simpa using hfetches _ hmem
    · rintro (hdocs | ⟨hkept, hnameless⟩)
      · cases hdocs
      · have hidle := walkFile_idle hhost hr htext hkept (hdocs ▸ hnameless) t
        rw [← hasked] at hidle
        obtain rfl : qs = [] := by simpa using hidle
        exact ⟨hnameless, fetches_nil _⟩

/-- A walk is the work of its visits, and at a file that is not text this is to render names and to
fetch an asset, exactly if assets are fetched or the file comes to nothing. -/
theorem walk_only_fetches_iff (docs : List DocNode) (dir : Path) (c : RenderContext) (t : σ) :
    Leads w ({ context := c }, t) (w.visits docs dir c t) (w.walk docs dir c t) ∧
      ∀ v ∈ w.visits docs dir c t, ∀ f, v.node = .file f → f.isText = false →
        ∃ rs qs, noted (v.work w).2 = noted v.world ++ rs ∧
          asked (v.work w).2 = asked v.world ++ qs ∧
          ((rs.map Rendered.subject = f.nameSubjects w.policy.normalDocs c ∧
              Fetches f.content qs) ↔
            w.policy.normalDocs = true ∨
              w.purgesFor f v.dir v.state = false ∧
                ∀ c' ∈ FileUnit.contexts w.policy.normalDocs c f,
                  Plan.fileName? render c'.data f.nameTemplate = none) := by
  have hleads := walk_leads (w := w) docs dir c t
  obtain ⟨-, hcontexts⟩ := context_of_leads hleads
  refine ⟨hleads, ?_⟩
  intro v hv f hnode hbinary
  have hcontext : v.state.context = c := hcontexts v hv
  have hwork := walkFile_only_fetches_iff H hhost hr hbinary v.dir v.state v.world
  rw [hcontext] at hwork
  rw [Visit.work, hnode]
  exact hwork

end Rendering

/-- A picture is asked for, with its address unrendered. -/
theorem walk_fetches_picture :
    let render : Rendering := fun template data =>
      ((default : HelperRegistry).render template data).1
    let w : Walker (StateM (Journal × List Rendered)) := noting
      { host := Journal.host {}, overwrite := false, policy := { normalDocs := true }
        render := fun template data => pure (render template data) }
    let f : DocFile := ⟨1, "logo.png", some "image/png", .interface, "http://h/logo.png"⟩
    let c : RenderContext := .ofMembers
      [("ds", .obj [("interfaces", .arr [.obj [("name", .str "getA")]])])]
    let v : Visit (Journal × List Rendered) :=
      ⟨[0], .file f, .ofString "out", { context := c }, ({ files := {} }, [])⟩
    w.NotesRendering Prod.snd ∧ w.host.NotesRequests (fun t => t.1.asked) ∧
      w.RendersBy (fun t => t.1.asked) render ∧
      v ∈ w.visits [.file f] (.ofString "out") c ({ files := {} }, []) ∧ f.isText = false ∧
      (v.work w).2.2.map Rendered.subject = [("logo.png", c.data)] ∧
      Fetches "http://h/logo.png" (v.work w).2.1.asked ∧
      (v.work w).2.1.asked = [.createDirAll (.ofString "out"),
        .download "http://h/logo.png" (.ofString "out/logo.png")] := by
  intro render w f c v
  have hnotes : w.NotesRendering Prod.snd := noting_notesRendering _
  have hhost : w.host.NotesRequests fun t => t.1.asked := (Journal.host_notesRequests {}).beside _
  have hr : w.RendersBy (fun t => t.1.asked) render := fun _ _ _ => ⟨rfl, rfl⟩
  have hvisit : v ∈ w.visits [.file f] (.ofString "out") c ({ files := {} }, []) := by
    simp [visits, visitsIn, visitsAt, v]
  have hbinary : f.isText = false := by decide +kernel
  obtain ⟨-, hvisits⟩ :=
    walk_only_fetches_iff hnotes hhost hr [.file f] (.ofString "out") c ({ files := {} }, [])
  obtain ⟨rs, qs, hnoted, hasked, honly⟩ := hvisits v hvisit f rfl hbinary
  obtain ⟨hnames, hfetches⟩ := honly.2 (.inl rfl)
  -- nothing was rendered or asked for before
  obtain rfl : (v.work w).2.2 = rs := hnoted
  obtain rfl : (v.work w).2.1.asked = qs := hasked
  exact ⟨hnotes, hhost, hr, hvisit, hbinary, hnames, hfetches, by decide +kernel⟩

/-- Where assets are left alone, the address of a picture is written to a file for each interface:
it is rendered, and nothing is asked for. -/
theorem walk_writes_address :
    let w : Walker (StateM (Journal × List Rendered)) := noting
      { host := Journal.host {}, overwrite := false, policy := { normalDocs := false }
        render := fun template data => pure ((default : HelperRegistry).render template data).1 }
    let f : DocFile :=
      ⟨1, "\x7b\x7binterface.name\x7d\x7d.png", some "image/png", .interface, "http://h/logo.png"⟩
    let c : RenderContext := .ofMembers
      [("ds", .obj [("interfaces", .arr [.obj [("name", .str "getA")]])])]
    let after := w.walk [.file f] (.ofString "out") c ({ files := {} }, [])
    f.isText = false ∧ f.content ∈ after.2.2.map Rendered.template ∧
      after.2.1.asked =
        [.createDirAll (.ofString "out"),
          .write (.ofString "out/getA.png") "http://h/logo.png"] ∧
      ¬Fetches f.content after.2.1.asked ∧
      after.1.report.written = [.ofString "out/getA.png"] := by
  intro w f c after
  have hasked : after.2.1.asked =
      [.createDirAll (.ofString "out"),
        .write (.ofString "out/getA.png") "http://h/logo.png"] := by decide +kernel
  refine ⟨by decide +kernel, by decide +kernel, hasked, fun hfetches => ?_, by decide +kernel⟩
  rw [hasked] at hfetches
  simpa using hfetches.1 (.write (.ofString "out/getA.png") "http://h/logo.png") (by simp)

end Walker

end Scaffold

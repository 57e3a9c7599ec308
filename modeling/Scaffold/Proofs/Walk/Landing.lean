import Mathlib
import Scaffold.Proofs.FileTree.Ensured
import Scaffold.Proofs.Walk.Download

/-!
# Where assets are to land

An asset is to go to the path as it is joined. What is seen to before is the directory of the path
that is meant, without the markers. So the directory of an asset is there when the asset is asked
for if it was there before, or if it is the one that is seen to; where a new part of the way holds
a marker, it is missing. The directories that a walk enters are there as long as it is in them.
-/

namespace Scaffold

open WriteDirective (target)

variable {σ : Type}

namespace Journal

variable {j : Journal} {d q : Path} {r : Refusals}

/-- Every directory that was asked for could be created. -/
def Made (j : Journal) : Prop :=
  ∀ call ∈ j.calls, ∀ p, call.request = .createDirAll p → call.answer = true

/-- Where assets were to go, with the journal at the moment of the request, last one first. -/
def handed : List Call → List (Path × Journal)
  | [] => []
  | call :: older =>
    match call.request with
    | .download _ p => (p, ⟨call.before, older⟩) :: handed older
    | _ => handed older

theorem host_notesHanded (r : Refusals) :
    (host r).NotesEach (fun _ p j => (p, j)) fun j => (handed j.calls).reverse where
  download _ _ _ := List.reverse_cons
  removeDirAll _ _ _ h := h
  others _ :=
    { pathExists := fun _ _ h => h
      write := fun _ _ _ h => h
      createDirAll := fun _ _ h => h
      readText := fun _ _ h => h
      names := fun _ _ h => h
      download := fun _ _ _ h => h
      updateProject := fun _ _ _ h => h
      log := fun _ _ h => h }

theorem Made.of_perform {request : Request} {op : StateM FileTree Bool}
    (h : Made (perform request op j).2) :
    Made j ∧ ∀ p, request = .createDirAll p → (op j.files).1 = true :=
  ⟨fun call hcall => h call (List.mem_cons_of_mem _ hcall), h _ List.mem_cons_self⟩

/-- A directory that was seen to could be created. -/
theorem ensureParent_of_made {p : Path} (h : Made ((host r).ensureParent p j).2) :
    ((host r).ensureParent p j).1 = true := by
  rcases (host r).ensureParent_cases p with heq | ⟨dir, -, -, heq⟩
  · rw [heq]
    rfl
  · rw [heq] at h ⊢
    exact h.of_perform.2 dir rfl

theorem Made.of_ensureParent {p : Path} (h : Made ((host r).ensureParent p j).2) : Made j := by
  rcases (host r).ensureParent_cases p with heq | ⟨dir, -, -, heq⟩
  · rwa [heq] at h
  · rw [heq] at h
    exact h.of_perform.1

theorem files_ensureParent (r : Refusals) (p : Path) (j : Journal) :
    ((host r).ensureParent p j).2.files = ((FileTree.host r).ensureParent p j.files).2 :=
  ((host_follows r).ensureParent p j).2

/-- A directory is there when another one has been seen to, if it was before or if it is that
one. -/
theorem leadsToDirectory_of_seen {p : Path} (hrooted : j.files.Rooted)
    (hmade : Made ((host r).ensureParent p j).2)
    (hstart : ((host r).ensureParent p j).2.files.HasStart d)
    (h : j.files.LeadsToDirectory d ∨ (target p).parent? = some d) :
    ((host r).ensureParent p j).2.files.LeadsToDirectory d := by
  have hanswer := ((host_follows r).ensureParent p j).1.symm.trans (ensureParent_of_made hmade)
  rw [files_ensureParent] at hstart ⊢
  rcases h with hbefore | hparent
  · exact hbefore.of_grown (FileTree.ensureParent_built r p j.files).grown
  · exact FileTree.leadsToDirectory_of_ensured hrooted r hanswer hparent hstart

/-! ## Directories that last -/

/-- As long as all directories could be created, `d` is one of them. The empty path is none to
create. -/
structure Lasting (d : Path) (j : Journal) : Prop where
  rooted : j.files.Rooted
  there : Made j → d = ⟨[]⟩ ∨ j.files.LeadsToDirectory d

namespace Lasting

theorem perform (h : Lasting d j) {request : Request} {op : StateM FileTree Bool}
    (hrooted : (op j.files).2.Rooted)
    (hstays : j.files.LeadsToDirectory d → (op j.files).2.LeadsToDirectory d) :
    Lasting d (Journal.perform request op j).2 :=
  ⟨hrooted, fun hmade => (h.there hmade.of_perform.1).imp_right hstays⟩

theorem host_preserves (d : Path) (r : Refusals) : (host r).Preserves (Lasting d) where
  pathExists _ := .of_reads fun _ => rfl
  write p content _ h := h.perform (h.rooted.host_write r p content) fun hd =>
    hd.of_grown (FileTree.write_grown r p content _)
  createDirAll p _ h := h.perform (h.rooted.host_createDirAll r p) fun hd =>
    hd.of_grown (FileTree.createDirAll_cases r p _).grown
  readText _ := .of_reads fun _ => rfl
  names _ := .of_reads fun _ => rfl
  download _ _ _ h := h.perform h.rooted id
  updateProject _ _ := .pure _
  log _ := .pure _

/-- A purge of what lies at or below a directory leaves it there. -/
theorem purge (h : Lasting d j) (hbelow : d.Extends q) (hup : .up ∉ d.components) :
    Lasting d (if ((host r).removeDirAll q j).1 then
      ((host r).createDirAll q ((host r).removeDirAll q j).2).2 else
        ((host r).removeDirAll q j).2) := by
  have hrooted := h.rooted.host_removeDirAll r q
  cases hremoved : ((host r).removeDirAll q j).1 with
  | false =>
    refine ⟨hrooted, fun hmade => (h.there hmade.of_perform.1).imp_right fun hd => ?_⟩
    exact h.rooted.leadsToDirectory_of_not_removed hbelow hup hd hremoved
  | true =>
    refine ⟨hrooted.host_createDirAll r q, fun hmade => ?_⟩
    obtain ⟨hbefore, hcreated⟩ := hmade.of_perform
    by_cases hempty : d = ⟨[]⟩
    · exact .inl hempty
    · have hd := (h.there hbefore.of_perform.1).resolve_left hempty
      have husable := (FileTree.leadsToDirectory_iff.1 hd).1.resolve_left hempty
      exact .inr (hrooted.leadsToDirectory_of_renewed hbelow hempty hup husable (hcreated q rfl))

/-- A directory that has just been created is there. -/
theorem of_created (hrooted : j.files.Rooted) (hup : .up ∉ d.components)
    (hcreated : ((host r).createDirAll d j).1 = true) :
    Lasting d ((host r).createDirAll d j).2 := by
  refine ⟨hrooted.host_createDirAll r d, fun _ => ?_⟩
  by_cases hempty : d = ⟨[]⟩
  · exact .inl hempty
  · exact .inr (FileTree.leadsToDirectory_of_created hrooted r hcreated
      (FileTree.hasStart_of_created hempty hup hcreated))

end Lasting

end Journal

open Journal (Lasting Made)

namespace Walker

variable {w : Walker (StateM σ)} {view : σ → Journal} {r : Refusals}
  (H : w.host.Follows view (Journal.host r))
  (hquiet : ∀ template data, Quiet view (w.render template data))
include H hquiet

/-! ## At a visit -/

theorem view_of_findsFree {v : Visit σ} {p : Path} {t : σ} (h : v.FindsFree w p t) :
    view t = view v.world := by
  obtain ⟨url, t', hasset, hlooked⟩ := h
  obtain ⟨name, rendered, -, rfl⟩ := Visit.exists_name_of_asset? hasset
  have hview := (H.pathExists p (w.renderName name v.state v.world).2).2
  rw [hlooked] at hview
  exact hview.trans (renderName_quiet H hquiet name v.state v.world)

theorem view_enter {name : String} {dir path : Path} {s : WalkState} {t : σ}
    (h : (w.enter name dir s t).1 = some path) :
    ((Journal.host r).createDirAll path (view t)).1 = true ∧
      view (w.enter name dir s t).2 = ((Journal.host r).createDirAll path (view t)).2 := by
  obtain ⟨rendered, hrendered, rfl, hmade⟩ := enter_eq_some_iff.1 h
  obtain ⟨hanswer, hview⟩ := H.createDirAll (dir.joinRendered rendered)
    (w.render name s.context.data t).2
  rw [hquiet] at hanswer hview
  refine ⟨hanswer.symm.trans hmade, ?_⟩
  rw [← hview, enter, stateM_bind, hrendered]
  simp [makeDir, hmade]

theorem work_lasting {d : Path} (hup : .up ∉ d.components) {v : Visit σ}
    (hbelow : d.Extends v.dir) (h : Lasting d (view v.world)) :
    Lasting d (view (v.work w).2) := by
  have hhost := Host.Preserves.of_follows H (Lasting.host_preserves d r)
  have hrender : ∀ template data,
      Preserves (fun t => Lasting d (view t)) (w.render template data) := by
    intro template data t ht
    rwa [hquiet]
  refine Visit.work_of_purge hhost hrender (fun s t ht => ?_) h
  apply purge_of_emptied hhost.log
  obtain ⟨hanswer, hremoved⟩ := H.removeDirAll v.dir t
  have hpurged := ht.purge (r := r) hbelow hup
  rw [← hanswer, ← hremoved] at hpurged
  split
  · rename_i htrue
    rw [if_pos htrue] at hpurged
    rwa [(H.createDirAll v.dir _).2]
  · rename_i hfalse
    rwa [if_neg hfalse] at hpurged

mutual

theorem lasting_of_mem_visitsAt {place : List Nat} {dir : Path} (hup : .up ∉ dir.components)
    {v : Visit σ} : ∀ {n : DocNode} {s : WalkState} {t : σ},
      Lasting dir (view t) → v ∈ w.visitsAt place dir n s t → Lasting v.dir (view v.world)
  | .file f, s, t, h, hv => by
    rw [visitsAt, List.mem_singleton] at hv
    rwa [hv]
  | .directory id name children, s, t, h, hv => by
    rw [visitsAt, List.mem_cons] at hv
    rcases hv with rfl | hv
    · exact h
    · cases hentered : (w.enter name dir s t).1 with
      | none => simp [hentered] at hv
      | some path =>
        simp only [hentered] at hv
        -- The directory has just been created, so the invariant begins anew with it.
        obtain ⟨hcreated, hview⟩ := view_enter H hquiet hentered
        have hup' := (extends_of_enter (.refl dir) hentered).up_notMem hup
        refine lasting_of_mem_visitsIn hup' ?_ hv
        rw [hview]
        exact .of_created h.rooted hup' hcreated

/-- The directory that a node is met in is there, if the one that the walk starts in is. -/
theorem lasting_of_mem_visitsIn {place : List Nat} {i : Nat} {dir : Path}
    (hup : .up ∉ dir.components) {v : Visit σ} : ∀ {ns : List DocNode} {s : WalkState} {t : σ},
      Lasting dir (view t) → v ∈ w.visitsIn place i dir ns s t → Lasting v.dir (view v.world)
  | [], s, t, h, hv => by simp [visitsIn] at hv
  | n :: ns, s, t, h, hv => by
    rw [visitsIn, List.mem_append] at hv
    rcases hv with hv | hv
    · exact lasting_of_mem_visitsAt hup h hv
    · -- The work on the node in front purges only what lies at `dir` or below.
      have hdone := (walkNode_leads (w := w) (place ++ [i]) dir n s t).invariant
        (P := fun a => Lasting dir (view a.2)) (fun u hu hstart =>
          work_lasting H hquiet hup (extends_of_mem_visitsAt (.refl dir) hu) hstart) h
      exact lasting_of_mem_visitsIn hup hdone.1 hv

end

/-! ## When an asset is asked for -/

/-- What a walk hands over is met at one of its visits, after its directory has been seen to. -/
theorem exists_visit_of_handed {docs : List DocNode} {dir : Path} {c : RenderContext} {t : σ}
    (hstart : (view t).calls = []) {x : Path × Journal}
    (hx : x ∈ Journal.handed (view (w.walk docs dir c t).2).calls) :
    ∃ v ∈ w.visits docs dir c t, ∃ t', v.FindsFree w x.1 t' ∧
      x.2 = ((Journal.host r).ensureParent x.1 (view v.world)).2 := by
  have hnotes := (Journal.host_notesHanded r).of_follows H
  have hrender : ∀ template data xs,
      Preserves (fun t => (Journal.handed (view t).calls).reverse = xs)
        (w.render template data) := by
    intro template data xs t ht
    rwa [hquiet]
  have hall := leads_told hnotes hrender (walk_leads docs dir c t)
  rw [hstart, Journal.handed, List.reverse_nil, List.nil_append] at hall
  rw [← List.mem_reverse, hall] at hx
  obtain ⟨v, hv, htold⟩ := List.mem_filterMap.1 hx
  obtain ⟨url, p, t', hfree, rfl⟩ := Visit.findsFree_of_told? htold
  refine ⟨v, hv, t', hfree, ?_⟩
  rw [view_seeTo H, view_of_findsFree H hquiet hfree]

theorem rooted_of_mem {docs : List DocNode} {dir : Path} {c : RenderContext} {t : σ}
    (hrooted : (view t).files.Rooted) {v : Visit σ} (hv : v ∈ w.visits docs dir c t) :
    (view v.world).files.Rooted := by
  have hfiles : w.host.Follows (fun t => (view t).files) (FileTree.host r) :=
    H.trans (Journal.host_follows r)
  have hsame : ∀ template data, Quiet (fun t => (view t).files) (w.render template data) :=
    fun template data t => congrArg Journal.files (hquiet template data t)
  exact rooted_of_mem_visits hfiles hsame hrooted hv

/-- An asset that is handed over was met at a visit. As long as all directories could be created,
its directory is there then if it was there when the asset was met, or if the path without its
markers lies in it; on a way that does not go up it is there in no other case. So it is there for
an asset that lies right in the directory of its node, if the walk starts in one that is there. -/
theorem walk_prepares_downloads_iff (docs : List DocNode) (dir : Path) (c : RenderContext) (t : σ)
    (hstart : (view t).calls = []) (hrooted : (view t).files.Rooted) :
    ∀ x ∈ Journal.handed (view (w.walk docs dir c t).2).calls,
      ∃ v ∈ w.visits docs dir c t, ∃ t', v.FindsFree w x.1 t' ∧
        let met := (view v.world).files
        let asked := x.2.files
        ∀ parent, x.1.parent? = some parent → x.2.Made →
          (asked.HasStart parent →
            met.LeadsToDirectory parent ∨ (target x.1).parent? = some parent →
              asked.LeadsToDirectory parent) ∧
          (.up ∉ dir.components → FileTree.meansDirectory x.1 = false →
            (asked.LeadsToDirectory parent ↔ asked.HasStart parent ∧
              (met.LeadsToDirectory parent ∨ (target x.1).parent? = some parent))) ∧
          (.up ∉ dir.components → (view t).files.LeadsToDirectory dir → parent = v.dir.trimmed →
            asked.HasStart parent → asked.LeadsToDirectory parent) := by
  rintro ⟨p, j⟩ hx
  obtain ⟨v, hv, t', hfree, hj⟩ := exists_visit_of_handed H hquiet hstart hx
  dsimp only at hfree hj
  refine ⟨v, hv, t', hfree, ?_⟩
  intro met asked parent hparent hmade
  have hmet : met.Rooted := rooted_of_mem H hquiet hrooted hv
  have hasked : asked = ((FileTree.host r).ensureParent p met).2 := by
    rw [← Journal.files_ensureParent, ← hj]
  have hready (hbegin : asked.HasStart parent)
      (h : met.LeadsToDirectory parent ∨ (target p).parent? = some parent) :
      asked.LeadsToDirectory parent := by
    subst hj
    exact Journal.leadsToDirectory_of_seen hmet hmade hbegin h
  refine ⟨hready, fun hup hmeans => ⟨fun hthere => ⟨hthere.hasStart, ?_⟩,
    fun h => hready h.1 h.2⟩, fun hup hdir heq hbegin => ?_⟩
  · obtain ⟨url, t'', hasset, -⟩ := hfree
    obtain ⟨name, rendered, rfl, -⟩ := Visit.exists_name_of_asset? hasset
    have hup' := ((extends_of_mem_visits hv).joinRendered rendered).up_notMem hup
    rw [hasked] at hthere
    exact hmet.leadsToDirectory_of_ensured hmeans hup' hparent hthere
  · have hlasts : Lasting v.dir (view v.world) :=
      lasting_of_mem_visitsIn H hquiet hup ⟨hrooted, fun _ => .inr hdir⟩ hv
    have hbefore : (view v.world).Made := by
      subst hj
      exact hmade.of_ensureParent
    subst heq
    -- The empty path is no directory that was created; it stands for the working directory.
    rcases hlasts.there hbefore with hempty | hthere
    · rw [hempty] at hbegin ⊢
      have hcwd : asked.find? asked.cwd = some .directory := by
        simpa [FileTree.HasStart, Path.isAbsolute, Path.trimmed, Path.trimReversed] using hbegin
      exact FileTree.leadsToDirectory_iff.2 ⟨.inl rfl, asked.cwd, rfl, hcwd⟩
    · exact hready hbegin
        (.inl (hthere.of_isPrefix (Path.trimmed_isPrefix _) (Path.components_trimmed _)))

omit H hquiet

/-- A picture in a directory of the tree is to go to a directory that is there. -/
theorem walk_prepares_picture :
    let w : Walker (StateM Journal) :=
      { host := Journal.host {}, overwrite := false, policy := { normalDocs := true }
        render := fun template _ => pure (some template) }
    let docs : List DocNode :=
      [.directory 1 "img" [.file ⟨2, "logo.png", some "image/png", .none, "http://h/logo.png"⟩]]
    let dir : Path := .ofString "out"
    let start : Journal := { files := {} }
    let handed := Journal.handed (w.walk docs dir (.ofMembers []) start).2.calls
    w.host.Follows (fun j => j) (Journal.host {}) ∧
      (∀ template data, Quiet (fun j => j) (w.render template data)) ∧ start.calls = [] ∧
      start.files.Rooted ∧ handed.map Prod.fst = [.ofString "out/img/logo.png"] ∧
      ∀ x ∈ handed, x.2.Made ∧ x.2.files.LeadsToDirectory (.ofString "out/img") := by
  intro w docs dir start handed
  have H : w.host.Follows (fun j => j) (Journal.host {}) := Journal.host_follows_self {}
  have hquiet : ∀ template data, Quiet (fun j => j) (w.render template data) := fun _ _ _ => rfl
  have hrooted : start.files.Rooted := .of_entries (by simp [start])
  have hplaces : handed.map Prod.fst = [.ofString "out/img/logo.png"] := by decide +kernel
  have hmade : ∀ x ∈ handed, ∀ call ∈ x.2.calls, call.answer = true := by decide +kernel
  have hcwd : ∀ x ∈ handed, x.2.files.find? x.2.files.cwd = some .directory := by decide +kernel
  refine ⟨H, hquiet, rfl, hrooted, hplaces, fun x hx => ?_⟩
  have hall : x.2.Made := fun call hcall _ _ => hmade x hx call hcall
  have hplace : x.1 = .ofString "out/img/logo.png" := by
    have hmem := List.mem_map_of_mem (f := Prod.fst) hx
    rw [hplaces] at hmem
    exact List.mem_singleton.1 hmem
  have hparent : x.1.parent? = some (.ofString "out/img") := by rw [hplace]; decide +kernel
  have htarget : (target x.1).parent? = some (.ofString "out/img") := by rw [hplace]; decide +kernel
  obtain ⟨v, -, t', -, hready⟩ :=
    walk_prepares_downloads_iff H hquiet docs dir (.ofMembers []) start rfl hrooted x hx
  exact ⟨hall, (hready _ hparent hall).1 (.inr (hcwd x hx)) (.inr htarget)⟩

/-- A marker in a new part of the way is cut out of the directory that is created, but not of the
path that the picture is to go to. -/
theorem walk_misses_marked_directory :
    let w : Walker (StateM Journal) :=
      { host := Journal.host {}, overwrite := false, policy := { normalDocs := true }
        render := fun template data => pure ((default : HelperRegistry).render template data).1 }
    let docs : List DocNode :=
      [.file ⟨1, "gen!!w/logo.png", some "image/png", .none, "http://h/logo.png"⟩]
    let after := (w.walk docs (.ofString "out") (.ofMembers []) { files := {} }).2
    let handed := Journal.handed after.calls
    ∃ x ∈ handed, x.1 = .ofString "out/gen!!w/logo.png" ∧ x.2.Made ∧
      x.1.parent? = some (.ofString "out/gen!!w") ∧
      ¬ x.2.files.LeadsToDirectory (.ofString "out/gen!!w") := by
  intro w docs after handed
  have hplaces : handed.map Prod.fst = [.ofString "out/gen!!w/logo.png"] := by decide +kernel
  have hmade : ∀ x ∈ handed, ∀ call ∈ x.2.calls, call.answer = true := by decide +kernel
  have hmissing : ∀ x ∈ handed, x.2.files.get? (.ofString "out/gen!!w") = none := by
    decide +kernel
  have hmem : .ofString "out/gen!!w/logo.png" ∈ handed.map Prod.fst := by simp [hplaces]
  obtain ⟨x, hx, hplace⟩ := List.mem_map.1 hmem
  refine ⟨x, hx, hplace, fun call hcall _ _ => hmade x hx call hcall, ?_, ?_⟩
  · rw [hplace]
    decide +kernel
  · rintro ⟨loc, -, -, hget⟩
    have hnone := hmissing x hx
    rw [hget (by decide)] at hnone
    cases hnone

end Walker

end Scaffold

import Mathlib
import Scaffold.Proofs.FileTree.Fresh
import Scaffold.Proofs.Host.Disk
import Scaffold.Proofs.Walk.Removal
import Scaffold.Render.Registry

/-!
# What assets are asked for

An asset is asked for where its place is free when it is met. The transfer that is asked for puts
something there only later, so the next node of the same place may find it free once more, and the
asset is asked for again.
-/

namespace Scaffold

variable {σ τ : Type}

/-- A request for an asset. -/
structure Asked where
  url : String
  path : Path
  /-- Whether something was at the path when the request was made. -/
  there : Bool
deriving DecidableEq

/-- No path is asked for twice, and none at which something is. -/
def Once (qs : List Asked) : Prop :=
  qs.Pairwise (fun q r => q.path.Apart r.path) ∧ ∀ q ∈ qs, q.there = false

/-- The host without its downloads. -/
def Host.offline {m : Type → Type} [Monad m] (h : Host m) : Host m :=
  { h with download := fun _ _ => pure () }

/-- A host that notes each request for an asset, with what is told of it, and nothing else. -/
structure Host.NotesEach {α : Type} (told : String → Path → σ → α) (noted : σ → List α)
    (h : Host (StateM σ)) : Prop where
  download : ∀ url p t, noted (h.download url p t).2 = noted t ++ [told url p t]
  removeDirAll : ∀ xs p, Scaffold.Preserves (noted · = xs) (h.removeDirAll p)
  others : ∀ xs, h.offline.Preserves (noted · = xs)

/-- A host that tells, through `noted`, which assets it was asked for. -/
structure Host.NotesDownloads (noted : σ → List Asked) (h : Host (StateM σ)) : Prop where
  download : ∀ url p t,
    noted (h.download url p t).2 = noted t ++ [⟨url, p, (h.pathExists p t).1⟩]
  removeDirAll : ∀ qs p, Scaffold.Preserves (noted · = qs) (h.removeDirAll p)
  others : ∀ qs, h.offline.Preserves (noted · = qs)

/-- What is told of a request by a host that is asked for assets. -/
def Host.asks (h : Host (StateM σ)) (url : String) (p : Path) (t : σ) : Asked :=
  ⟨url, p, (h.pathExists p t).1⟩

theorem Host.Follows.offline {view : σ → τ} {h : Host (StateM σ)} {d : Host (StateM τ)}
    (H : h.Follows view d) : h.offline.Follows view d.offline :=
  { H with download := fun _ _ => .pure () }

/-- What a plainer host notes can be read off through the view. -/
theorem Host.NotesEach.of_follows {α : Type} {view : σ → τ} {h : Host (StateM σ)}
    {d : Host (StateM τ)} {told : String → Path → τ → α} {noted : τ → List α}
    (H : h.Follows view d) (hd : d.NotesEach told noted) :
    h.NotesEach (fun url p t => told url p (view t)) (fun t => noted (view t)) where
  download url p t := by rw [(H.download url p t).2, hd.download]
  removeDirAll xs p := .of_follows (H.removeDirAll p) (hd.removeDirAll xs p)
  others xs := .of_follows H.offline (hd.others xs)

theorem Host.NotesDownloads.each {noted : σ → List Asked} {h : Host (StateM σ)}
    (H : h.NotesDownloads noted) : h.NotesEach h.asks noted :=
  ⟨H.download, H.removeDirAll, H.others⟩

namespace Journal

def asked? (call : Call) : Option Asked :=
  match call.request with
  | .download url p => some ⟨url, p, call.before.pathExists p⟩
  | _ => none

/-- The assets that were asked for, first one first. -/
def downloads (j : Journal) : List Asked :=
  j.calls.reverse.filterMap asked?

theorem preserves_perform {op : StateM FileTree Bool} {qs : List Asked} (request : Request)
    (h : ∀ before after answer, asked? ⟨request, before, after, answer⟩ = none) :
    Preserves (downloads · = qs) (perform request op) := by
  intro j hj
  rw [downloads, filterMap_perform, h]
  exact (List.append_nil _).trans hj

theorem host_notesDownloads (r : Refusals) : (host r).NotesDownloads downloads where
  download url p j := filterMap_perform asked? (.download url p) (pure true) j
  removeDirAll _ p := preserves_perform (.removeDirAll p) fun _ _ _ => rfl
  others _ :=
    { pathExists := fun _ _ h => h
      write := fun p content => preserves_perform (.write p content) fun _ _ _ => rfl
      createDirAll := fun p => preserves_perform (.createDirAll p) fun _ _ _ => rfl
      readText := fun _ _ h => h
      names := fun _ _ h => h
      download := fun _ _ _ h => h
      updateProject := fun _ _ _ h => h
      log := fun _ _ h => h }

end Journal

namespace Walker

def offline {m : Type → Type} [Monad m] (w : Walker m) : Walker m :=
  { w with host := w.host.offline }

/-- See to the directory that an asset is to lie in. -/
def seeTo {m : Type → Type} [Monad m] (w : Walker m) (path : Path) : m Unit := do
  if !(← w.host.ensureParent path) then
    w.host.log (.error "Failed to create directory for download" [("path", .str path.shown)])

end Walker

namespace Visit

variable {w : Walker (StateM σ)}

/-- The address of the asset that is met, if one is, and where it is to go; with it what the host
keeps then. -/
def asset? (w : Walker (StateM σ)) (v : Visit σ) : Option (String × Path × σ) :=
  match v.node with
  | .directory _ _ _ => none
  | .file f =>
    if !f.isText && w.policy.normalDocs then
      (w.renderName f.name v.state v.world).1.map fun rendered =>
        (f.content, v.dir.joinRendered rendered, (w.renderName f.name v.state v.world).2)
    else none

/-- An asset is met that is to go to `path`, where nothing is; `t` is what the host keeps after it
has looked there. -/
def FindsFree (w : Walker (StateM σ)) (v : Visit σ) (path : Path) (t : σ) : Prop :=
  ∃ url t', v.asset? w = some (url, path, t') ∧ w.host.pathExists path t' = (false, t)

/-- What is told of the request that is made at a visit. -/
def told? {α : Type} (w : Walker (StateM σ)) (told : String → Path → σ → α) (v : Visit σ) :
    Option α :=
  (v.asset? w).bind fun (url, path, t) =>
    match w.host.pathExists path t with
    | (true, _) => none
    | (false, t) => some (told url path (w.seeTo path t).2)

/-- The request that is made at a visit. -/
def request? (w : Walker (StateM σ)) (v : Visit σ) : Option Asked :=
  (v.asset? w).bind fun (url, path, t) =>
    match w.host.pathExists path t with
    | (true, _) => none
    | (false, t) => some ⟨url, path, (w.host.pathExists path (w.seeTo path t).2).1⟩

theorem request?_eq_told? : request? w = told? w w.host.asks := rfl

theorem exists_name_of_asset? {v : Visit σ} {url : String} {path : Path} {t : σ}
    (h : v.asset? w = some (url, path, t)) : ∃ name rendered,
      path = v.dir.joinRendered rendered ∧ t = (w.renderName name v.state v.world).2 := by
  unfold asset? at h
  split at h
  · cases h
  · rename_i f _
    split at h
    · obtain ⟨rendered, -, heq⟩ := Option.map_eq_some_iff.1 h
      simp only [Prod.mk.injEq] at heq
      exact ⟨f.name, rendered, heq.2.1.symm, heq.2.2.symm⟩
    · cases h

theorem findsFree_of_told? {α : Type} {told : String → Path → σ → α} {v : Visit σ} {x : α}
    (h : v.told? w told = some x) :
    ∃ url p t, v.FindsFree w p t ∧ x = told url p (w.seeTo p t).2 := by
  obtain ⟨⟨url, path, t'⟩, hasset, htold⟩ := Option.bind_eq_some_iff.1 h
  dsimp only at htold
  split at htold
  · cases htold
  · rename_i t hfree
    exact ⟨url, path, t, ⟨url, t', hasset, hfree⟩, (Option.some.inj htold).symm⟩

theorem findsFree_of_request? {v : Visit σ} {q : Asked} (h : v.request? w = some q) :
    ∃ t, v.FindsFree w q.path t ∧
      q.there = (w.host.pathExists q.path (w.seeTo q.path t).2).1 := by
  rw [request?_eq_told?] at h
  obtain ⟨url, path, t, hfree, rfl⟩ := findsFree_of_told? h
  exact ⟨t, hfree, rfl⟩

theorem FindsFree.exists_request {v : Visit σ} {path : Path} {t : σ} (h : v.FindsFree w path t) :
    ∃ q, v.request? w = some q ∧ q.path = path ∧
      q.there = (w.host.pathExists path (w.seeTo path t).2).1 := by
  obtain ⟨url, t', hasset, hfree⟩ := h
  refine ⟨⟨url, path, _⟩, ?_, rfl, rfl⟩
  rw [request?, hasset, Option.bind_some]
  dsimp only
  rw [hfree]

/-- What the host and the purge of a directory preserve, the work of a visit there preserves. -/
theorem work_of_purge {I : σ → Prop} (H : w.host.Preserves I)
    (hrender : ∀ template data, Preserves I (w.render template data)) {v : Visit σ}
    (hpurge : ∀ s, Preserves I (w.purge v.dir s)) (h : I v.world) : I (v.work w).2 := by
  unfold work
  split
  · exact Walker.walkFile_of_purge H hrender hpurge _ _ _ h
  · have hentered := Walker.enter_preserves H hrender
    split <;> exact hentered _ _ _ _ h

theorem work_preserves {I : σ → Prop} (H : w.host.Preserves I)
    (hremove : ∀ p, Preserves I (w.host.removeDirAll p))
    (hrender : ∀ template data, Preserves I (w.render template data)) (v : Visit σ)
    (h : I v.world) : I (v.work w).2 :=
  work_of_purge H hrender (fun s t ht => Walker.purge_of_removed H (hremove v.dir t ht) s) h

end Visit

namespace Walker

variable {w : Walker (StateM σ)}

/-! ## What is asked for at a visit -/

theorem renderName_offline : w.offline.renderName = w.renderName := rfl

theorem output_offline : w.offline.output = w.output := rfl

theorem emit_offline : w.offline.emit = w.emit := by
  funext f dir s
  rw [emit, renderName_offline, output_offline]
  rfl

theorem enter_offline : w.offline.enter = w.enter := rfl

theorem ready_offline : w.offline.ready = w.ready := rfl

section Notes

variable {α : Type} {told : String → Path → σ → α} {noted : σ → List α}
  (H : w.host.NotesEach told noted)
  (hrender : ∀ template data xs, Preserves (noted · = xs) (w.render template data))
include H

theorem pathExists_noted (p : Path) (t : σ) : noted (w.host.pathExists p t).2 = noted t :=
  Preserves.eq_of_view (fun xs => (H.others xs).pathExists p) t

theorem seeTo_noted (p : Path) (t : σ) : noted (w.seeTo p t).2 = noted t := by
  refine Preserves.eq_of_view (fun xs => ?_) t
  exact ((H.others xs).ensureParent p).bind fun _ => .ite ((H.others xs).log _) (.pure _)

theorem ready_noted (f : DocFile) (dir : Path) (s : WalkState) (t : σ) :
    noted (w.ready f dir s t).2 = noted t := by
  rw [← ready_offline]
  exact Preserves.eq_of_view (fun xs => ready_preserves (w := w.offline) (H.others xs)
    (H.removeDirAll xs) f dir s) t

omit H in
theorem fetchTo_of_free (path : Path) (url : String) (s : WalkState) {t t' : σ}
    (h : w.host.pathExists path t = (false, t')) :
    (w.fetchTo path url s t).2 = (w.host.download url path (w.seeTo path t').2).2 := by
  rw [fetchTo, stateM_bind, h]
  simp only [Bool.false_eq_true, if_false, stateM_bind, seeTo]
  split <;> rfl

theorem fetchTo_noted_of_free (path : Path) (url : String) (s : WalkState) {t t' : σ}
    (h : w.host.pathExists path t = (false, t')) :
    noted (w.fetchTo path url s t).2 =
      noted t ++ [told url path (w.seeTo path t').2] := by
  have ht' := pathExists_noted H path t
  rw [h] at ht'
  rw [fetchTo_of_free path url s h, H.download, seeTo_noted H, ht']

theorem fetchTo_noted_of_taken (path : Path) (url : String) (s : WalkState) {t t' : σ}
    (h : w.host.pathExists path t = (true, t')) :
    noted (w.fetchTo path url s t).2 = noted t := by
  have ht' := pathExists_noted H path t
  rw [h] at ht'
  have hlog := fun e => Preserves.eq_of_view (fun xs => (H.others xs).log e) t'
  rw [← ht', fetchTo, stateM_bind, h]
  exact hlog _

include hrender

theorem renderName_noted (name : String) (s : WalkState) (t : σ) :
    noted (w.renderName name s t).2 = noted t := by
  rw [← renderName_offline]
  exact Preserves.eq_of_view (fun xs => renderName_preserves (w := w.offline) (H.others xs)
    (fun template data => hrender template data xs) name s) t

theorem emit_noted (f : DocFile) (dir : Path) (s : WalkState) (t : σ) :
    noted (w.emit f dir s t).2 = noted t := by
  rw [← emit_offline]
  exact Preserves.eq_of_view (fun xs => emit_preserves (w := w.offline) (H.others xs)
    (fun template data => hrender template data xs) f dir s) t

theorem emitEach_noted (f : DocFile) (dir : Path) (cs : List RenderContext) (s : WalkState)
    (t : σ) : noted (w.emitEach f dir cs s t).2 = noted t := by
  induction cs generalizing s t with
  | nil => rfl
  | cons c cs ih =>
    rw [emitEach_cons_apply, ih]
    exact emit_noted H hrender f dir (inContext c s) t

theorem enter_noted (name : String) (dir : Path) (s : WalkState) (t : σ) :
    noted (w.enter name dir s t).2 = noted t := by
  rw [← enter_offline]
  exact Preserves.eq_of_view (fun xs => enter_preserves (w := w.offline) (H.others xs)
    (fun template data => hrender template data xs) name dir s) t

theorem fetchAsset_noted (f : DocFile) (v : Visit σ) (hnode : v.node = .file f)
    (hasset : (!f.isText && w.policy.normalDocs) = true) :
    noted (w.fetchAsset f v.dir v.state v.world).2 = noted v.world ++ (v.told? w told).toList := by
  have hnamed := renderName_noted H hrender f.name v.state v.world
  have hmet : v.asset? w = (w.renderName f.name v.state v.world).1.map fun rendered =>
      (f.content, v.dir.joinRendered rendered, (w.renderName f.name v.state v.world).2) := by
    simp only [Visit.asset?, hnode, hasset, if_true]
  rw [fetchAsset, stateM_bind, Visit.told?, hmet]
  generalize w.renderName f.name v.state v.world = named at hnamed ⊢
  obtain ⟨rendered, t⟩ := named
  cases rendered with
  | none => exact hnamed.trans (List.append_nil _).symm
  | some rendered =>
    simp only [Option.map_some, Option.bind_some] at hnamed ⊢
    rw [← hnamed]
    rcases hlooked : w.host.pathExists (v.dir.joinRendered rendered) t with ⟨taken, t'⟩
    cases taken with
    | true =>
      rw [fetchTo_noted_of_taken H _ _ _ hlooked]
      exact (List.append_nil _).symm
    | false => exact fetchTo_noted_of_free H _ _ _ hlooked

/-- At a visit no other asset is asked for than the one that is met. -/
theorem work_noted (v : Visit σ) :
    noted (v.work w).2 = noted v.world ++ (v.told? w told).toList := by
  cases hnode : v.node with
  | file f =>
    -- whatever is not fetched goes the same way without downloads
    have hwork : v.work w = w.walkFile f v.dir v.state v.world := by
      simp only [Visit.work, hnode]
    rw [hwork, walkFile_apply]
    by_cases hasset : (!f.isText && w.policy.normalDocs) = true
    · rw [if_pos hasset]
      exact fetchAsset_noted H hrender f v hnode hasset
    · have hnone : v.told? w told = none := by
        simp only [Visit.told?, Visit.asset?, hnode, hasset]
        rfl
      rw [if_neg hasset, emitEach_noted H hrender, ready_noted H, hnone]
      exact (List.append_nil _).symm
  | directory id name children =>
    have hnone : v.told? w told = none := by
      simp only [Visit.told?, Visit.asset?, hnode]
      rfl
    have hentered := enter_noted H hrender name v.dir v.state v.world
    have hwork : (v.work w).2 = (w.enter name v.dir v.state v.world).2 := by
      simp only [Visit.work, hnode]
      split <;> rfl
    rw [hwork, hentered, hnone]
    exact (List.append_nil _).symm

/-- The requests of a walk are those of its visits, in order. -/
theorem leads_told {a b : WalkState × σ} {vs : List (Visit σ)} (h : Leads w a vs b) :
    noted b.2 = noted a.2 ++ vs.filterMap (Visit.told? w told) := by
  induction vs generalizing a with
  | nil =>
    obtain rfl : b = a := h
    exact (List.append_nil _).symm
  | cons v vs ih =>
    obtain ⟨rfl, hrest⟩ := h
    rw [ih hrest, work_noted H hrender, List.append_assoc]
    cases htold : v.told? w told with
    | none => rw [List.filterMap_cons_none htold]; rfl
    | some x => rw [List.filterMap_cons_some htold]; rfl

end Notes

variable {noted : σ → List Asked}

theorem leads_noted (H : w.host.NotesDownloads noted)
    (hrender : ∀ template data qs, Preserves (noted · = qs) (w.render template data))
    {a b : WalkState × σ} {vs : List (Visit σ)} (h : Leads w a vs b) :
    noted b.2 = noted a.2 ++ vs.filterMap (Visit.request? w) := by
  rw [Visit.request?_eq_told?]
  exact leads_told H.each hrender h

/-- The requests of visits are for one thing each just if of two visits with one place only one
finds it free, and a place that was free stays so while its directory is seen to. -/
theorem once_requests_iff (vs : List (Visit σ)) :
    Once (vs.filterMap (Visit.request? w)) ↔
      vs.Pairwise (fun u v => ∀ p t p' t',
        u.FindsFree w p t → v.FindsFree w p' t' → p.Apart p') ∧
      ∀ v ∈ vs, ∀ p t, v.FindsFree w p t →
        (w.host.pathExists p (w.seeTo p t).2).1 = false := by
  rw [Once, List.pairwise_filterMap]
  apply and_congr
  · apply List.Pairwise.iff
    intro u v
    constructor
    · intro h p t p' t' hu hv
      obtain ⟨q, hq, rfl, -⟩ := hu.exists_request
      obtain ⟨r, hr, rfl, -⟩ := hv.exists_request
      exact h q hq r hr
    · intro h q hq r hr
      obtain ⟨t, hu, -⟩ := Visit.findsFree_of_request? hq
      obtain ⟨t', hv, -⟩ := Visit.findsFree_of_request? hr
      exact h q.path t r.path t' hu hv
  · constructor
    · intro h v hv p t hfree
      obtain ⟨q, hq, rfl, hthere⟩ := hfree.exists_request
      rw [← hthere]
      exact h q (List.mem_filterMap.2 ⟨v, hv, hq⟩)
    · intro h q hq
      obtain ⟨v, hv, hrequest⟩ := List.mem_filterMap.1 hq
      obtain ⟨t, hfree, hthere⟩ := Visit.findsFree_of_request? hrequest
      rw [hthere]
      exact h v hv q.path t hfree

/-! ## On file trees -/

theorem view_seeTo {view : σ → τ} {d : Host (StateM τ)} (hview : w.host.Follows view d) (p : Path)
    (t : σ) : view (w.seeTo p t).2 = (d.ensureParent p (view t)).2 := by
  have hensured := (hview.ensureParent p t).2
  rw [seeTo, stateM_bind]
  cases (w.host.ensureParent p t).1 with
  | true => exact hensured
  | false => exact ((hview.log _ _).2).trans hensured

theorem renderName_quiet {view : σ → τ} {d : Host (StateM τ)} (hview : w.host.Follows view d)
    (hquiet : ∀ template data, Quiet view (w.render template data)) (name : String)
    (s : WalkState) : Quiet view (w.renderName name s) :=
  fun t => Preserves.eq_of_view (fun _ => renderName_preserves_of_log
    (fun e t ht => (hview.log e t).2.trans ht)
    (fun template data t ht => (hquiet template data t).trans ht) name s) t

section FileTree

variable {r : Refusals} {view : σ → FileTree} (hview : w.host.Follows view (FileTree.host r))
  (hquiet : ∀ template data, Quiet view (w.render template data))
include hview
include hquiet

/-- In a tree, a free place to which the way does not go up stays free. -/
theorem stays_free {v : Visit σ} {p : Path} {t : σ} (hrooted : (view v.world).Rooted)
    (hup : .up ∉ v.dir.components) (h : v.FindsFree w p t) :
    (w.host.pathExists p (w.seeTo p t).2).1 = false := by
  obtain ⟨url, t', hasset, hlooked⟩ := h
  obtain ⟨name, rendered, rfl, rfl⟩ := Visit.exists_name_of_asset? hasset
  set path := v.dir.joinRendered rendered
  have hup' : .up ∉ path.components :=
    ((Path.Extends.refl v.dir).joinRendered rendered).up_notMem hup
  have hbefore := hview.pathExists path (w.renderName name v.state v.world).2
  rw [hlooked, renderName_quiet hview hquiet, FileTree.host_pathExists] at hbefore
  obtain ⟨hanswer, hkept⟩ := hbefore
  obtain ⟨hagain, -⟩ := hview.pathExists path (w.seeTo path t).2
  rw [hagain, view_seeTo hview, hkept, FileTree.host_pathExists,
    hrooted.pathExists_ensureParent r hup']
  exact hanswer.symm

theorem rooted_of_mem_visits {docs : List DocNode} {dir : Path} {c : RenderContext} {t : σ}
    (hrooted : (view t).Rooted) {v : Visit σ} (hv : v ∈ w.visits docs dir c t) :
    (view v.world).Rooted := by
  have hhost : (FileTree.host r).Preserves FileTree.Rooted :=
    { pathExists := fun _ _ h => h
      write := fun p content _ h => h.host_write r p content
      createDirAll := fun p _ h => h.host_createDirAll r p
      readText := fun _ _ h => h
      names := fun _ _ h => h
      download := fun _ _ _ h => h
      updateProject := fun _ _ _ h => h
      log := fun _ _ h => h }
  have hremove : ∀ p, Preserves (fun t => (view t).Rooted) (w.host.removeDirAll p) := fun p =>
    .of_follows (hview.removeDirAll p) fun _ h => h.host_removeDirAll r p
  have hrender : ∀ template data,
      Preserves (fun t => (view t).Rooted) (w.render template data) := by
    intro template data t h
    rwa [hquiet]
  have hall := (walk_leads (w := w) docs dir c t).invariant (P := fun a => (view a.2).Rooted)
    (fun v _ h => v.work_preserves (.of_follows hview hhost) hremove hrender h) hrooted
  exact hall.2 v hv

end FileTree

/-- A walk asks for the assets of its visits that find their places free, in order. So it asks for
each of them once just if of two visits with one place only one finds it free, and a free place
stays so while its directory is seen to. The latter is always so in a file system, as long as the
walk starts in a directory whose path does not go up. -/
theorem walk_asks_once_iff (H : w.host.NotesDownloads noted)
    (hrender : ∀ template data qs, Preserves (noted · = qs) (w.render template data))
    (docs : List DocNode) (dir : Path) (c : RenderContext) (t : σ) :
    let vs := w.visits docs dir c t
    ∃ qs, noted (w.walk docs dir c t).2 = noted t ++ qs ∧
      qs = vs.filterMap (Visit.request? w) ∧
      (Once qs ↔
        vs.Pairwise (fun u v => ∀ p t p' t',
          u.FindsFree w p t → v.FindsFree w p' t' → p.Apart p') ∧
        ∀ v ∈ vs, ∀ p t, v.FindsFree w p t →
          (w.host.pathExists p (w.seeTo p t).2).1 = false) ∧
      ∀ (r : Refusals) (view : σ → FileTree), w.host.Follows view (FileTree.host r) →
        (∀ template data, Quiet view (w.render template data)) → (view t).Rooted →
          .up ∉ dir.components → ∀ v ∈ vs, ∀ p t, v.FindsFree w p t →
            (w.host.pathExists p (w.seeTo p t).2).1 = false := by
  intro vs
  refine ⟨_, leads_noted H hrender (walk_leads docs dir c t), rfl, once_requests_iff vs, ?_⟩
  intro r view hview hquiet hrooted hup v hv p t' hfree
  exact stays_free hview hquiet (rooted_of_mem_visits hview hquiet hrooted hv)
    ((extends_of_mem_visits hv).up_notMem hup) hfree

/-- One picture on an empty disk is asked for once. -/
theorem walk_asks_once_for_picture :
    let w : Walker (StateM Journal) :=
      { host := Journal.host {}, overwrite := false, policy := { normalDocs := true }
        render := fun template data => pure ((default : HelperRegistry).render template data).1 }
    let docs : List DocNode :=
      [.file ⟨1, "logo.png", some "image/png", .none, "http://h/logo.png"⟩]
    let dir : Path := .ofString "out"
    let c : RenderContext := .ofMembers []
    let start : Journal := { files := {} }
    let vs := w.visits docs dir c start
    let after := (w.walk docs dir c start).2
    w.host.NotesDownloads Journal.downloads ∧
      (∀ template data qs, Preserves (Journal.downloads · = qs) (w.render template data)) ∧
      w.host.Follows Journal.files (FileTree.host {}) ∧
      (∀ template data, Quiet Journal.files (w.render template data)) ∧ start.files.Rooted ∧
      .up ∉ dir.components ∧
      (∀ v ∈ vs, ∀ p t, v.FindsFree w p t → (w.host.pathExists p (w.seeTo p t).2).1 = false) ∧
      after.downloads = [⟨"http://h/logo.png", .ofString "out/logo.png", false⟩] ∧
      Once after.downloads := by
  intro w docs dir c start vs after
  have H : w.host.NotesDownloads Journal.downloads := Journal.host_notesDownloads {}
  have hrender : ∀ template data qs,
      Preserves (Journal.downloads · = qs) (w.render template data) := fun _ _ _ => .pure _
  have hview : w.host.Follows Journal.files (FileTree.host {}) := Journal.host_follows {}
  have hquiet : ∀ template data, Quiet Journal.files (w.render template data) := fun _ _ _ => rfl
  have hrooted : start.files.Rooted := .of_entries (by simp [start])
  have hup : .up ∉ dir.components := by decide +kernel
  obtain ⟨qs, hnoted, -, honce, hfree⟩ := walk_asks_once_iff H hrender docs dir c start
  have hstays := hfree {} Journal.files hview hquiet hrooted hup
  obtain rfl : after.downloads = qs := hnoted
  have hsingle : vs.Pairwise fun u v => ∀ p t p' t',
      u.FindsFree w p t → v.FindsFree w p' t' → p.Apart p' := by
    simp [vs, docs, visits, visitsIn, visitsAt]
  exact ⟨H, hrender, hview, hquiet, hrooted, hup, hstays, by decide +kernel,
    honce.2 ⟨hsingle, hstays⟩⟩

/-- Two nodes of one name are asked for both. -/
theorem walk_asks_twice :
    let w : Walker (StateM Journal) :=
      { host := Journal.host {}, overwrite := false, policy := { normalDocs := true }
        render := fun template data => pure ((default : HelperRegistry).render template data).1 }
    let docs : List DocNode :=
      [.file ⟨1, "logo.png", some "image/png", .none, "http://h/logo.png"⟩,
        .file ⟨2, "logo.png", some "image/png", .none, "http://h/logo.png"⟩]
    let after := (w.walk docs (.ofString "out") (.ofMembers []) { files := {} }).2
    after.downloads =
        [⟨"http://h/logo.png", .ofString "out/logo.png", false⟩,
          ⟨"http://h/logo.png", .ofString "out/logo.png", false⟩] ∧
      ¬ Once after.downloads := by
  intro w docs after
  have hasked : after.downloads =
      [⟨"http://h/logo.png", .ofString "out/logo.png", false⟩,
        ⟨"http://h/logo.png", .ofString "out/logo.png", false⟩] := by decide +kernel
  refine ⟨hasked, fun honce => ?_⟩
  rw [hasked] at honce
  have hapart := List.rel_of_pairwise_cons honce.1 List.mem_cons_self
  have hsame : (Path.ofString "out/logo.png").same (.ofString "out/logo.png") = true :=
    Path.same_iff.2 rfl
  exact absurd hapart (by simp [Path.Apart, hsame])

end Walker

end Scaffold

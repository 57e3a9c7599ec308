import Mathlib
import Scaffold.Proofs.Host.Onward
import Scaffold.Proofs.Walk.Account
import Scaffold.Proofs.Walk.Scan

/-!
# The walk creates what the scan has found

The scan for structural roots and the walk go through the same tree on their own. Where names
render alike, the walk asks for each directory that the scan has met, unless it could not create
one above it. So if nothing fails and nothing is purged, all roots are there after the walk.
-/

namespace Scaffold

variable {σ τ : Type}

namespace Walker

section Reach

variable {view : σ → τ} {d : Host (StateM τ)} {w : Walker (StateM σ)} {render : Rendering}
  {c : RenderContext} {us vs : List (Visit σ)} {e : Scanned}

/-- Entering a directory asks the host for it, if its name renders. -/
theorem enter_follows (H : w.host.Follows view d) (hr : w.RendersBy view render) (name : String)
    (dir : Path) (s : WalkState) :
    Follows view (w.enter name dir s)
      (match render name s.context.data with
        | none => pure none
        | some rendered =>
          (fun made => if made then some (dir.joinRendered rendered) else none) <$>
            d.createDirAll (dir.joinRendered rendered)) := by
  unfold enter
  refine (hr name _).step ?_
  cases render name s.context.data with
  | none => exact .pure none
  | some rendered =>
    have hmade : Follows view (w.makeDir (dir.joinRendered rendered))
        ((w.onHost d render).makeDir (dir.joinRendered rendered)) := makeDir_follows H _
    rw [makeDir_eq (w := w.onHost d render) H.silent] at hmade
    change Follows view _ (d.createDirAll (dir.joinRendered rendered) >>= fun made =>
      pure (if made then some (dir.joinRendered rendered) else none))
    refine hmade.bind fun made => ?_
    cases made <;> exact .pure _

/-- All that a visit does to the host is to ask for the directory `p`; `made` is the answer. -/
def Creates (view : σ → τ) (d : Host (StateM τ)) (w : Walker (StateM σ)) (v : Visit σ) (p : Path)
    (made : Bool) : Prop :=
  view (v.work w).2 = (d.createDirAll p (view v.world)).2 ∧
    (d.createDirAll p (view v.world)).1 = made

/-- A scanned directory is met, and asked for. -/
def Reaches (view : σ → τ) (d : Host (StateM τ)) (w : Walker (StateM σ)) (vs : List (Visit σ))
    (e : Scanned) : Prop :=
  ∃ v ∈ vs, v.place = e.place ∧ v.node = e.node ∧ ∃ made, Creates view d w v e.path made

/-- A scanned directory is not met, as one above it could not be created. -/
def Misses (view : σ → τ) (d : Host (StateM τ)) (w : Walker (StateM σ)) (vs : List (Visit σ))
    (e : Scanned) : Prop :=
  (∃ v ∈ vs, v.place <+: e.place ∧ v.place ≠ e.place ∧ ∃ p, Creates view d w v p false) ∧
    ∀ v ∈ vs, v.place ≠ e.place

/-- Either of the two is found out in a part of the visits, if the others are elsewhere. -/
theorem reaches_or_misses_of_subset (hsub : us ⊆ vs)
    (hothers : ∀ v ∈ vs, v ∈ us ∨ v.place ≠ e.place)
    (h : Reaches view d w us e ∨ Misses view d w us e) :
    Reaches view d w vs e ∨ Misses view d w vs e := by
  rcases h with ⟨v, hv, hmet⟩ | ⟨⟨v, hv, habove⟩, hnone⟩
  · exact .inl ⟨v, hsub hv, hmet⟩
  · refine .inr ⟨⟨v, hsub hv, habove⟩, fun u hu => ?_⟩
    rcases hothers u hu with hu | hu
    · exact hnone u hu
    · exact hu

theorem ne_of_prefix {place p q : List Nat} {i j : Nat} (hp : place ++ [i] <+: p)
    (hq : place ++ [j] <+: q) (hij : i ≠ j) : p ≠ q := by
  rintro rfl
  have hsame := (List.prefix_of_prefix_length_le hp hq (by simp)).eq_of_length (by simp)
  exact hij (by simpa using hsame)

theorem prefix_of_mem_visitsAt {place : List Nat} {dir : Path} {v : Visit σ} {n : DocNode}
    {s : WalkState} {t : σ} (hv : v ∈ w.visitsAt place dir n s t) : place <+: v.place := by
  obtain ⟨rest, hplace, -⟩ := place_of_mem_visitsAt hv
  exact ⟨rest, hplace.symm⟩

theorem prefix_of_mem_visitsIn {place : List Nat} {i : Nat} {dir : Path} {v : Visit σ}
    {ns : List DocNode} {s : WalkState} {t : σ} (hv : v ∈ w.visitsIn place i dir ns s t) :
    ∃ j, i ≤ j ∧ place ++ [j] <+: v.place := by
  obtain ⟨j, rest, hplace, -⟩ := place_of_mem_visitsIn hv
  exact ⟨i + j, Nat.le_add_right i j, rest, by simp [hplace]⟩

mutual

theorem reaches_or_misses_at (H : w.host.Follows view d) (hr : w.RendersBy view render)
    (place : List Nat) (dir : Path) : ∀ (n : DocNode) (s : WalkState) (t : σ),
    e ∈ Scanned.atNode (fun name => render name s.context.data) place dir n →
      Reaches view d w (w.visitsAt place dir n s t) e ∨
        Misses view d w (w.visitsAt place dir n s t) e
  | .file _, s, t, he => by simp [Scanned.atNode] at he
  | .directory id name children, s, t, he => by
    obtain ⟨hresult, hview⟩ := enter_follows H hr name dir s t
    rw [Scanned.atNode] at he
    cases hrendered : render name s.context.data with
    | none => simp [hrendered] at he
    | some rendered =>
      simp only [hrendered, List.mem_cons, stateM_map] at he hresult hview
      rw [visitsAt, hresult]
      have hcreates : Creates view d w ⟨place, .directory id name children, dir, s, t⟩
          (dir.joinRendered rendered) (d.createDirAll (dir.joinRendered rendered) (view t)).1 := by
        refine ⟨?_, rfl⟩
        rw [← hview, Visit.work]
        dsimp only
        cases (w.enter name dir s t).1 <;> rfl
      rcases he with rfl | he
      · exact .inl ⟨_, List.mem_cons_self, rfl, rfl, _, hcreates⟩
      · obtain ⟨j, -, hbelow⟩ := Scanned.place_of_mem_inside he
        have habove : place ≠ e.place := by
          rintro heq
          have hlength := hbelow.length_le
          rw [heq] at hlength
          simp at hlength
        cases hmade : (d.createDirAll (dir.joinRendered rendered) (view t)).1 with
        | true =>
          refine reaches_or_misses_of_subset (List.subset_cons_self _ _) (fun v hv => ?_)
            (reaches_or_misses_in H hr place 0 _ children s (w.enter name dir s t).2 he)
          rcases List.mem_cons.1 hv with rfl | hv
          · exact .inr habove
          · exact .inl hv
        | false =>
          rw [hmade] at hcreates
          refine .inr ⟨⟨_, List.mem_cons_self, (List.prefix_append _ _).trans hbelow, habove, _,
            hcreates⟩, fun v hv => ?_⟩
          rw [List.mem_singleton.1 hv]
          exact habove

theorem reaches_or_misses_in (H : w.host.Follows view d) (hr : w.RendersBy view render)
    (place : List Nat) (i : Nat) (dir : Path) : ∀ (ns : List DocNode) (s : WalkState) (t : σ),
    e ∈ Scanned.inside (fun name => render name s.context.data) place i dir ns →
      Reaches view d w (w.visitsIn place i dir ns s t) e ∨
        Misses view d w (w.visitsIn place i dir ns s t) e
  | [], s, t, he => by simp [Scanned.inside] at he
  | n :: ns, s, t, he => by
    rw [Scanned.inside, List.mem_append] at he
    rw [visitsIn]
    rcases he with he | he
    · refine reaches_or_misses_of_subset (List.subset_append_left _ _) (fun v hv => ?_)
        (reaches_or_misses_at H hr (place ++ [i]) dir n s t he)
      refine (List.mem_append.1 hv).imp_right fun hv => ?_
      obtain ⟨j, hj, hplace⟩ := prefix_of_mem_visitsIn hv
      exact ne_of_prefix hplace (Scanned.place_of_mem_atNode he) (by omega)
    · have hcontext := (context_of_leads (walkNode_leads (w := w) (place ++ [i]) dir n s t)).1
      refine reaches_or_misses_of_subset (List.subset_append_right _ _) (fun v hv => ?_)
        (reaches_or_misses_in H hr place (i + 1) dir ns _ _ (by rwa [hcontext]))
      refine (List.mem_append.1 hv).symm.imp_right fun hv => ?_
      obtain ⟨j, hj, hplace⟩ := Scanned.place_of_mem_inside he
      exact ne_of_prefix (prefix_of_mem_visitsAt hv) hplace (by omega)

end

end Reach

/-! ## Asking is creating, if nothing fails -/

section Roots

variable {view : σ → Journal} {r : Refusals} {w : Walker (StateM σ)} {render : Rendering}

theorem work_onward (H : w.host.Follows view (Journal.host r)) (hr : w.RendersBy view render)
    (v : Visit σ) : (view v.world).Onward (view (v.work w).2) := by
  have hhost := Host.Preserves.of_follows H (Journal.Onward.host_preserves (j := view v.world) r)
  have hrender : ∀ template data,
      Preserves (fun t => (view v.world).Onward (view t)) (w.render template data) :=
    fun template data => .of_follows (hr template data) (.pure _)
  have hstart := Journal.Onward.refl (view v.world)
  unfold Visit.work
  cases v.node with
  | file f =>
    exact walkFile_preserves hhost hrender
      (fun p => .of_follows (H.removeDirAll p) (Journal.Onward.preserves_removeDirAll r p)) f _ _ _
      hstart
  | directory id name children =>
    have hentered := enter_preserves hhost hrender name v.dir v.state v.world hstart
    dsimp only
    cases (w.enter name v.dir v.state v.world).1 with
    | some path => exact hentered
    | none => exact hentered

theorem leads_onward (H : w.host.Follows view (Journal.host r)) (hr : w.RendersBy view render)
    {a b : WalkState × σ} {vs : List (Visit σ)} (h : Leads w a vs b) :
    (view a.2).Onward (view b.2) ∧ ∀ v ∈ vs, (view a.2).Onward (view v.world) :=
  h.invariant (P := fun x => (view a.2).Onward (view x.2))
    (fun v _ hv => hv.trans (work_onward H hr v)) (.refl _)

/-- A visit lies between the beginning and the end. -/
theorem onward_of_mem (H : w.host.Follows view (Journal.host r)) (hr : w.RendersBy view render)
    {a b : WalkState × σ} {vs : List (Visit σ)} (h : Leads w a vs b) {v : Visit σ} (hv : v ∈ vs) :
    (view a.2).Onward (view v.world) ∧ (view (v.work w).2).Onward (view b.2) := by
  obtain ⟨us, vs', rfl⟩ := List.append_of_mem hv
  exact ⟨(leads_onward H hr h).2 v hv, (leads_onward H hr h.after).1⟩

/-- The call by which a visit asks for a directory is among those of the walk. -/
theorem calls_of_creates (H : w.host.Follows view (Journal.host r)) (hr : w.RendersBy view render)
    {a b : WalkState × σ} {vs : List (Visit σ)} (h : Leads w a vs b) {v : Visit σ} (hv : v ∈ vs)
    {p : Path} {made : Bool} (hcreates : Creates view (Journal.host r) w v p made)
    {new : List Call} (hnew : (view b.2).calls = new ++ (view a.2).calls) :
    ∃ later call earlier, new = later ++ call :: earlier ∧ call.request = .createDirAll p ∧
      call.answer = made ∧
      (Journal.Removeless earlier → FileTree.Grown (view a.2).files (view v.world).files) ∧
      (Journal.Removeless later →
        FileTree.Grown (view (v.work w).2).files (view b.2).files) := by
  obtain ⟨hbefore, hafter⟩ := onward_of_mem H hr h hv
  obtain ⟨earlier, hearlier, hgrown⟩ := hbefore.calls
  obtain ⟨later, hlater, hgrown'⟩ := hafter.calls
  obtain ⟨hwork, hmade⟩ := hcreates
  have hasked : (view (v.work w).2).calls =
      ⟨.createDirAll p, (view v.world).files, (view (v.work w).2).files, made⟩ ::
        (view v.world).calls := by
    rw [hwork, ← hmade]
    rfl
  rw [hasked, hearlier, hnew, ← List.cons_append, ← List.append_assoc] at hlater
  exact ⟨later, _, earlier, List.append_cancel_right hlater, rfl, rfl, hgrown, hgrown'⟩

/-- A directory that was created is there in the end, if nothing is removed. -/
theorem leadsToDirectory_of_creates (H : w.host.Follows view (Journal.host r))
    (hr : w.RendersBy view render) {a b : WalkState × σ} {vs : List (Visit σ)}
    (h : Leads w a vs b) {v : Visit σ} (hv : v ∈ vs) {p : Path}
    (hcreates : Creates view (Journal.host r) w v p true) {new : List Call}
    (hnew : (view b.2).calls = new ++ (view a.2).calls) (hnone : Journal.Removeless new)
    (hrooted : (view a.2).files.Rooted)
    (hcwd : (view a.2).files.find? (view a.2).files.cwd = some .directory) :
    (view b.2).files.LeadsToDirectory p := by
  obtain ⟨later, call, earlier, rfl, -, -, hgrown, hgrown'⟩ :=
    calls_of_creates H hr h hv hcreates hnew
  replace hgrown := hgrown fun c hc => hnone c (by simp [hc])
  replace hgrown' := hgrown' fun c hc => hnone c (by simp [hc])
  refine FileTree.LeadsToDirectory.of_grown ?_ hgrown'
  obtain ⟨hwork, hmade⟩ := hcreates
  rw [hwork]
  have hstart : (view v.world).files.HasStart p := .inr (hgrown.cwd ▸ hgrown.directory _ hcwd)
  exact FileTree.leadsToDirectory_of_created ((onward_of_mem H hr h hv).1.rooted hrooted) r hmade
    (hstart.of_grown (FileTree.createDirAll_cases r p _).grown)

/-- Every root that the scan finds is the place of a directory in the tree that has the role. The
walk asks for each scanned directory when it meets it, or one above could not be created. So where
all directories can be created and none is removed, all roots are directories in the end. -/
theorem walk_creates_roots (H : w.host.Follows view (Journal.host r))
    (hr : w.RendersBy view render) (docs : List DocNode) (attributes : Option SpecAttributes)
    (output : Path) (c : RenderContext) (t₀ t : σ) :
    let roots := (StructuralRoots.discover docs attributes output
      (fun name => w.render name c.data) w.host.log t₀).1
    let scanned := Scanned.inside (fun name => render name c.data) [] 0 output docs
    let visits := w.visits docs output c t
    let after := view (w.walk docs output c t).2
    (∀ role p, roots.root role = some p → ∃ a, attributes = some a ∧
      ∃ e ∈ scanned, StructuralRoots.roleOf? a e.id = some role ∧ e.path = p) ∧
    (∀ e ∈ scanned, Reaches view (Journal.host r) w visits e ∨
      Misses view (Journal.host r) w visits e) ∧
    ((view t).files.Rooted → (view t).files.find? (view t).files.cwd = some .directory →
      ∀ new, after.calls = new ++ (view t).calls → Journal.Removeless new →
        (∀ call ∈ new, ∀ p, call.request = .createDirAll p → call.answer = true) →
          ∀ role p, roots.root role = some p → after.files.LeadsToDirectory p) := by
  intro roots scanned visits after
  have hroots : roots = StructuralRoots.found docs attributes output
      (fun name => render name c.data) :=
    (StructuralRoots.discover_follows (fun name => hr name c.data) H.log docs attributes output
      t₀).1
  have hleads := walk_leads (w := w) docs output c t
  have hfound : ∀ role p, roots.root role = some p → ∃ a, attributes = some a ∧
      ∃ e ∈ scanned, StructuralRoots.roleOf? a e.id = some role ∧ e.path = p :=
    fun role p hp => Scanned.of_root_found (hroots ▸ hp)
  have hmet : ∀ e ∈ scanned, Reaches view (Journal.host r) w visits e ∨
      Misses view (Journal.host r) w visits e :=
    fun e he => reaches_or_misses_in H hr [] 0 output docs { context := c } t he
  refine ⟨hfound, hmet, fun hrooted hcwd new hnew hnone hmade role p hp => ?_⟩
  obtain ⟨-, -, e, he, -, rfl⟩ := hfound role p hp
  rcases hmet e he with ⟨v, hv, -, -, made, hcreates⟩ | ⟨⟨v, hv, -, -, q, hcreates⟩, -⟩
  · obtain ⟨later, call, earlier, rfl, hrequest, hanswer, -⟩ :=
      calls_of_creates H hr hleads hv hcreates hnew
    obtain rfl : made = true := hanswer.symm.trans (hmade call (by simp) _ hrequest)
    exact leadsToDirectory_of_creates H hr hleads hv hcreates hnew hnone hrooted hcwd
  · obtain ⟨later, call, earlier, rfl, hrequest, hanswer, -⟩ :=
      calls_of_creates H hr hleads hv hcreates hnew
    have hfailed := hmade call (by simp) _ hrequest
    rw [hanswer] at hfailed
    simp at hfailed

/-- On an empty disk, a root below another directory is there after the walk. -/
theorem walk_creates_nested_root :
    let w : Walker (StateM Journal) :=
      { host := Journal.host {}, render := fun template _ => pure (some template)
        overwrite := false, policy := {} }
    let docs : List DocNode := [.directory 1 "src" [.directory 2 "mock" []]]
    let attributes : SpecAttributes := { mockApiRoot := some 2 }
    let c : RenderContext := .ofMembers []
    let roots := (StructuralRoots.discover docs (some attributes) (.ofString "out")
      (fun name => w.render name c.data) w.host.log { files := {} }).1
    let after := (w.walk docs (.ofString "out") c { files := {} }).2
    roots.mockApiRoot = some (.ofString "out/src/mock") ∧
      after.files.LeadsToDirectory (.ofString "out/src/mock") := by
  intro w docs attributes c roots after
  have hfound : roots.mockApiRoot = some (.ofString "out/src/mock") := by decide +kernel
  have hrequests : after.calls.map Call.request =
      [.createDirAll (.ofString "out/src/mock"), .createDirAll (.ofString "out/src")] := by
    decide +kernel
  have hanswers : ∀ call ∈ after.calls, call.answer = true := by decide +kernel
  have hnone : Journal.Removeless after.calls := by
    intro call hcall p hremoved
    have hrequest := List.mem_map_of_mem (f := Call.request) hcall
    rw [hrequests, hremoved] at hrequest
    simp at hrequest
  have hcreates := walk_creates_roots (w := w) (Journal.host_follows_self {})
    (fun template _ => Follows.pure (some template)) docs (some attributes) (.ofString "out") c
    { files := {} } { files := {} }
  have hrooted : FileTree.Rooted {} := .of_entries (by decide)
  exact ⟨hfound, hcreates.2.2 hrooted (by decide) after.calls (List.append_nil _).symm hnone
    (fun call hcall _ _ => hanswers call hcall) .mockApi _ hfound⟩

end Roots

end Walker

end Scaffold

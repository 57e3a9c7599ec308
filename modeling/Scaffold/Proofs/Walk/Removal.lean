import Mathlib
import Scaffold.Proofs.Output.Merge
import Scaffold.Proofs.Walk.File
import Scaffold.Proofs.Walk.Visit

/-!
# What a walk removes

Directories are only removed to be purged: the directory of a node that expands over interfaces
or data types, before its first expansion there. A walk remembers for which directories it has
tried this, so that none is removed twice, even if the removal failed or if the directory is met
under several nodes.
-/

namespace Scaffold

variable {σ : Type}

/-- A host that tells, through `noted`, which paths it was asked to remove. -/
structure Host.NotesRemovals (noted : σ → List Path) (h : Host (StateM σ)) : Prop where
  removeDirAll : ∀ p t, noted (h.removeDirAll p t).2 = noted t ++ [p]
  others : ∀ ps, h.Preserves (noted · = ps)

/-- What is known of purges: for which directories one was tried, which of them are reported, which
directories are tracked, and what the host was asked to remove. -/
structure Marks where
  tried : List Path
  reported : List Path
  tracked : List Path
  removed : List Path

namespace Marks

/-- A directory is prepared for generated files; `emptied` tells whether its purge succeeds. -/
def prepare (purges emptied : Bool) (dir : Path) (m : Marks) : Marks :=
  let tracked := Report.addTracked m.tracked dir
  if purges && !m.tried.any (Path.same dir) then
    { tried := m.tried ++ [dir]
      reported := m.reported ++ if emptied then [dir] else []
      tracked := tracked
      removed := m.removed ++ [dir] }
  else { m with tracked := tracked }

/-- No directory is removed, tried or tracked twice, and none is removed without need. -/
structure Orderly (purges : Bool) (m : Marks) : Prop where
  removed : m.removed = m.tried
  once : m.tried.Pairwise Path.Apart
  tracked_once : m.tracked.Pairwise Path.Apart
  reported : m.reported ⊆ m.tracked
  idle : purges = false → m.tried = []
  /-- A directory is tracked only after its purge. -/
  purged : purges = true → ∀ dir ∈ m.tracked, m.tried.any (Path.same dir) = true

@[simp] theorem tracked_prepare (purges emptied : Bool) (dir : Path) (m : Marks) :
    (m.prepare purges emptied dir).tracked = Report.addTracked m.tracked dir := by
  unfold prepare
  split <;> rfl

theorem Orderly.prepare {purges : Bool} {m : Marks} (h : m.Orderly purges) (emptied : Bool)
    (dir : Path) : (m.prepare purges emptied dir).Orderly purges := by
  have htracked := Report.pairwise_addTracked h.tracked_once dir
  have hsubset := Report.subset_addTracked m.tracked dir
  unfold Marks.prepare
  split
  · rename_i hfirst
    rw [Bool.and_eq_true, Bool.not_eq_true'] at hfirst
    obtain ⟨hpurges, hnew⟩ := hfirst
    have hapart := Path.any_same_eq_false.1 hnew
    -- what is tracked has been tried before, so this directory is not tracked yet
    have hadded : Report.addTracked m.tracked dir = m.tracked ++ [dir] := by
      refine if_neg fun hany => ?_
      obtain ⟨q, hq, hsame⟩ := List.any_eq_true.1 hany
      obtain ⟨r, hr, hsame'⟩ := List.any_eq_true.1 (h.purged hpurges q hq)
      have heq : dir.same r = true :=
        Path.same_iff.2 ((Path.same_iff.1 hsame).trans (Path.same_iff.1 hsame'))
      rw [hapart r hr] at heq
      simp at heq
    refine ⟨by simp [h.removed], Path.pairwise_concat h.once hapart, htracked, ?_,
      by simp [hpurges], fun _ q hq => ?_⟩
    · refine List.append_subset.2 ⟨List.Subset.trans h.reported hsubset, ?_⟩
      rw [hadded]
      cases emptied <;> simp
    · rw [List.any_append, Bool.or_eq_true]
      rcases Report.mem_addTracked hq with hq | rfl
      · exact .inl (h.purged hpurges q hq)
      · exact .inr (by simp [Path.same])
  · rename_i hlater
    refine ⟨h.removed, h.once, htracked, List.Subset.trans h.reported hsubset, h.idle,
      fun hpurges q hq => ?_⟩
    rcases Report.mem_addTracked hq with hq | rfl
    · exact h.purged hpurges q hq
    · simpa [hpurges] using hlater

/-- Once a directory is tracked, no later removal is of this directory. -/
theorem Orderly.apart_of_later {purges : Bool} {m m' : Marks} {dir : Path} {later : List Path}
    (h : m.Orderly purges) (h' : m'.Orderly purges) (hlater : m'.removed = m.removed ++ later)
    (htracked : ∃ q ∈ m.tracked, dir.same q = true) : ∀ p ∈ later, Path.Apart dir p := by
  intro p hp
  cases purges with
  | false =>
    have hnone : m'.removed = [] := h'.removed.trans (h'.idle rfl)
    rw [hlater, List.append_eq_nil_iff] at hnone
    simp [hnone.2] at hp
  | true =>
    -- a purge of what is tracked was tried, and none is tried twice
    obtain ⟨q, hq, hsame⟩ := htracked
    obtain ⟨r, hr, hsame'⟩ := List.any_eq_true.1 (h.purged rfl q hq)
    rw [← h.removed] at hr
    have honce := h'.once
    rw [← h'.removed, hlater, List.pairwise_append] at honce
    have hapart := honce.2.2 r hr p hp
    rw [Path.Apart, ← Bool.not_eq_true, Path.same_iff] at hapart ⊢
    rwa [Path.same_iff.1 hsame, Path.same_iff.1 hsame']

theorem Orderly.initial (purges : Bool) : Orderly purges ⟨[], [], [], []⟩ :=
  ⟨rfl, .nil, .nil, List.Subset.refl _, fun _ => rfl, by simp⟩

end Marks

/-- Whether a file expands over interfaces or data types. -/
def DocFile.isGenerated (normalDocs : Bool) (f : DocFile) : Bool :=
  f.dataSource.isTracked && !(!f.isText && normalDocs)

def Visit.isGenerated (normalDocs : Bool) (v : Visit σ) : Bool :=
  match v.node with
  | .file f => f.isGenerated normalDocs
  | .directory _ _ _ => false

namespace Walker

variable {w : Walker (StateM σ)} {noted : σ → List Path}

def marks (noted : σ → List Path) (a : WalkState × σ) : Marks :=
  ⟨a.1.purged, a.1.report.purged, a.1.report.tracked, noted a.2⟩

theorem CountsOne.marks {a b : WalkState × σ} (h : CountsOne a.1 b.1)
    (hnoted : noted b.2 = noted a.2) : marks noted b = marks noted a := by
  obtain ⟨o, ho⟩ := h
  simp [Walker.marks, ho, hnoted, onReport]

section Notes

variable (H : w.host.NotesRemovals noted)
include H

theorem prepare_marks (dir : Path) (s : WalkState) (t : σ) :
    ∃ emptied, marks noted (w.prepare dir s t) =
      (marks noted (s, t)).prepare w.policy.purgeGenerated emptied dir := by
  have hnoted : noted (w.purge dir s t).2 = noted t ++ [dir] :=
    purge_of_removed (H.others _) (H.removeDirAll dir t) s
  obtain ⟨emptied, hpurged⟩ := purge_fst (w := w) dir s t
  refine ⟨emptied, ?_⟩
  unfold Walker.prepare Marks.prepare
  by_cases hfirst : (w.policy.purgeGenerated && !s.purged.any (Path.same dir)) = true
  · simp [hfirst, marks, hpurged, hnoted, onReport, Report.track]
  · simp [hfirst, marks, onReport, Report.track]

variable (hrender : ∀ template data ps, Preserves (noted · = ps) (w.render template data))
include hrender

theorem emitEach_marks (f : DocFile) (dir : Path) (cs : List RenderContext) (s : WalkState)
    (t : σ) : marks noted (w.emitEach f dir cs s t) = marks noted (s, t) := by
  induction cs generalizing s t with
  | nil => rfl
  | cons c cs ih =>
    have hnoted := Preserves.eq_of_view (fun ps => emit_preserves (H.others ps)
      (fun template data => hrender template data ps) f dir (inContext c s)) t
    have hone := CountsOne.marks (a := (inContext c s, t)) (b := w.emit f dir (inContext c s) t)
      (emit_countsOne f dir (inContext c s) t) hnoted
    rw [emitEach_cons_apply, ih]
    exact hone

/-- Only files of generated sources leave marks, and these are from the preparation of their
directory. -/
theorem walkFile_marks (f : DocFile) (dir : Path) (s : WalkState) (t : σ) :
    marks noted (w.walkFile f dir s t) =
      if f.isGenerated w.policy.normalDocs then marks noted (w.prepare dir s t)
      else marks noted (s, t) := by
  rw [walkFile_apply]
  unfold DocFile.isGenerated
  by_cases hasset : (!f.isText && w.policy.normalDocs) = true
  · have hnoted := Preserves.eq_of_view (fun ps => fetchAsset_preserves (H.others ps)
      (fun template data => hrender template data ps) f dir s) t
    have hone := CountsOne.marks (a := (s, t)) (b := w.fetchAsset f dir s t)
      (fetchAsset_countsOne f dir s t) hnoted
    simpa [hasset] using hone
  · rw [Bool.not_eq_true] at hasset
    simp only [hasset, Bool.false_eq_true, if_false, emitEach_marks H hrender]
    unfold ready
    cases f.dataSource.isTracked <;> rfl

theorem work_marks (v : Visit σ) :
    marks noted (v.work w) =
      if v.isGenerated w.policy.normalDocs then marks noted (w.prepare v.dir v.state v.world)
      else marks noted v.start := by
  unfold Visit.work Visit.isGenerated
  cases hnode : v.node with
  | file f => exact walkFile_marks H hrender f v.dir v.state v.world
  | directory id name children =>
    have hnoted := Preserves.eq_of_view (fun ps => enter_preserves (H.others ps)
      (fun template data => hrender template data ps) name v.dir v.state) v.world
    dsimp only
    cases (w.enter name v.dir v.state v.world).1 with
    | some path => simp [marks, hnoted, Visit.start]
    | none => simp [marks, hnoted, Visit.start, onReport, Report.fail]

/-! ## What a walk notes -/

variable {a b : WalkState × σ} {us vs : List (Visit σ)}

theorem work_orderly {v : Visit σ}
    (h : (marks noted v.start).Orderly w.policy.purgeGenerated) :
    (marks noted (v.work w)).Orderly w.policy.purgeGenerated := by
  rw [work_marks H hrender]
  split
  · obtain ⟨emptied, hprepared⟩ := prepare_marks H v.dir v.state v.world
    rw [hprepared]
    exact h.prepare emptied v.dir
  · exact h

theorem leads_orderly (h : Leads w a vs b)
    (ha : (marks noted a).Orderly w.policy.purgeGenerated) :
    (marks noted b).Orderly w.policy.purgeGenerated ∧
      ∀ v ∈ vs, (marks noted v.start).Orderly w.policy.purgeGenerated :=
  h.invariant (P := fun c => (marks noted c).Orderly w.policy.purgeGenerated)
    (fun _ _ hv => work_orderly H hrender hv) ha

/-- A visit removes at most the directory of its node, if that is of a generated source. -/
theorem work_removes (v : Visit σ) :
    ∃ ps, noted (v.work w).2 = noted v.world ++ ps ∧
      ∀ p ∈ ps, v.isGenerated w.policy.normalDocs = true ∧ p = v.dir := by
  have hmarks := congrArg Marks.removed (work_marks H hrender v)
  change noted (v.work w).2 = _ at hmarks
  rw [hmarks]
  split
  · rename_i hgenerated
    obtain ⟨emptied, hprepared⟩ := prepare_marks H v.dir v.state v.world
    rw [hprepared, Marks.prepare]
    split
    · exact ⟨[v.dir], rfl, by simp [hgenerated]⟩
    · exact ⟨[], (List.append_nil _).symm, by simp⟩
  · exact ⟨[], (List.append_nil _).symm, by simp⟩

theorem leads_removes (h : Leads w a vs b) :
    ∃ ps, noted b.2 = noted a.2 ++ ps ∧
      ∀ p ∈ ps, ∃ v ∈ vs, v.isGenerated w.policy.normalDocs = true ∧ p = v.dir := by
  refine (h.invariant (P := fun c => ∃ ps, noted c.2 = noted a.2 ++ ps ∧
    ∀ p ∈ ps, ∃ v ∈ vs, v.isGenerated w.policy.normalDocs = true ∧ p = v.dir)
    (fun v hv hstart => ?_) ⟨[], (List.append_nil _).symm, by simp⟩).1
  obtain ⟨ps, hps, hold⟩ := hstart
  obtain ⟨qs, hqs, hnew⟩ := work_removes H hrender v
  refine ⟨ps ++ qs, by rw [hqs, ← List.append_assoc, ← hps]; rfl, fun p hp => ?_⟩
  rcases List.mem_append.1 hp with hp | hp
  · exact hold p hp
  · exact ⟨v, hv, hnew p hp⟩

/-- Once a directory is prepared for generated files it is not removed any more. -/
theorem leads_removes_before {v : Visit σ} (h : Leads w a (us ++ v :: vs) b)
    (ha : (marks noted a).Orderly w.policy.purgeGenerated)
    (hv : v.isGenerated w.policy.normalDocs = true) :
    ∃ later, noted b.2 = noted (w.prepare v.dir v.state v.world).2 ++ later ∧
      ∀ p ∈ later, Path.Apart v.dir p := by
  obtain ⟨hb, hstarts⟩ := leads_orderly H hrender h ha
  obtain ⟨later, hlater, -⟩ := leads_removes H hrender h.after
  have hwork := work_marks H hrender v
  rw [if_pos hv] at hwork
  have hnoted : noted (v.work w).2 = noted (w.prepare v.dir v.state v.world).2 :=
    congrArg Marks.removed hwork
  rw [hnoted] at hlater
  obtain ⟨emptied, hprepared⟩ := prepare_marks H v.dir v.state v.world
  have hready := (hstarts v (by simp)).prepare emptied v.dir
  rw [Visit.start, ← hprepared] at hready
  refine ⟨later, hlater, hready.apart_of_later hb hlater ?_⟩
  rw [hprepared, Marks.tracked_prepare]
  exact Report.exists_mem_addTracked _ _

/-- A walk that starts without removals removes directories of generated sources below its own,
and no generated file expands before the last removal of its directory. -/
theorem walk_orderly (docs : List DocNode) (dir : Path) (c : RenderContext) (t : σ)
    (ht : noted t = []) :
    (marks noted (w.walk docs dir c t)).Orderly w.policy.purgeGenerated ∧
      (∀ p ∈ noted (w.walk docs dir c t).2, dir.components <+: p.components ∧
        ∃ v ∈ w.visits docs dir c t, v.isGenerated w.policy.normalDocs = true ∧ v.dir = p) ∧
      ∀ v ∈ w.visits docs dir c t, v.isGenerated w.policy.normalDocs = true →
        ∃ later, noted (w.walk docs dir c t).2 =
            noted (w.prepare v.dir v.state v.world).2 ++ later ∧
          ∀ p ∈ later, Path.Apart v.dir p := by
  have hleads := walk_leads (w := w) docs dir c t
  have hinitial : (marks noted ({ context := c }, t)).Orderly w.policy.purgeGenerated := by
    rw [marks, ht]
    exact .initial _
  refine ⟨(leads_orderly H hrender hleads hinitial).1, fun p hp => ?_, fun v hv hgenerated => ?_⟩
  · obtain ⟨ps, hps, hfrom⟩ := leads_removes H hrender hleads
    dsimp only at hps
    rw [hps, ht, List.nil_append] at hp
    obtain ⟨v, hv, hgenerated, rfl⟩ := hfrom p hp
    exact ⟨(extends_of_mem_visits hv).isPrefix, v, hv, hgenerated, rfl⟩
  · obtain ⟨us, vs, hsplit⟩ := List.append_of_mem hv
    rw [hsplit] at hleads
    exact leads_removes_before H hrender hleads hinitial hgenerated

end Notes

end Walker

end Scaffold

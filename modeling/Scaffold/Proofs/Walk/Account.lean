import Mathlib
import Scaffold.Proofs.Walk.File
import Scaffold.Proofs.Walk.Visit

/-!
# Every unit is accounted for

Each file that a tree asks for is written, kept, suppressed, failed or asked for elsewhere, and
it is counted as just one of these. Beside them only directories are counted that could not be
entered. So the counts of a report add up to what the walk has met.
-/

namespace Scaffold

variable {σ : Type}

namespace Report

/-- How many outcomes a report tells of. -/
def accounted (r : Report) : Nat :=
  r.written.length + r.kept.length + r.suppressed + r.failed + r.downloads.length

/-- What a report tells of outcomes; purged and tracked directories are none. -/
def outcomes (r : Report) : Report :=
  { r with purged := [], tracked := [] }

@[simp] theorem accounted_outcomes (r : Report) : r.outcomes.accounted = r.accounted := rfl

/-- An outcome adds to one of the counts, and to no other. -/
theorem accounted_count (r : Report) (o : Outcome) : (r.count o).accounted = r.accounted + 1 := by
  cases o <;> simp only [count, accounted, List.length_append, List.length_singleton] <;> omega

theorem accounted_foldl_count (r : Report) (os : List Outcome) :
    (os.foldl count r).accounted = r.accounted + os.length := by
  induction os generalizing r with
  | nil => rfl
  | cons o os ih =>
    rw [List.foldl_cons, ih, accounted_count, List.length_cons]
    omega

theorem outcomes_count (r : Report) (o : Outcome) : (r.count o).outcomes = r.outcomes.count o := by
  cases o <;> rfl

end Report

/-- How many units a file node is: one as an asset or a document, otherwise one for each entity
of its source. -/
def DocFile.unitCount (normalDocs : Bool) (c : RenderContext) (f : DocFile) : Nat :=
  if !f.isText && normalDocs then 1
  else
    match f.dataSource with
    | .handlebarHelper => 0
    | .none => if normalDocs then 1 else 0
    | source => (c.entities source f.isEnumsOnly).length

theorem DocFile.length_contexts (normalDocs : Bool) (c : RenderContext) (f : DocFile)
    (h : (!f.isText && normalDocs) = false) :
    (FileUnit.contexts normalDocs c f).length = f.unitCount normalDocs c := by
  unfold FileUnit.contexts unitCount
  rw [h]
  cases hsource : f.dataSource with
  | handlebarHelper => rfl
  | none => cases normalDocs <;> rfl
  | interface | dataType | template | webView => simp [DataSource.bindingKey?]

namespace Visit

/-- The units that are met with a node. -/
def units (normalDocs : Bool) (c : RenderContext) (v : Visit σ) : Nat :=
  match v.node with
  | .file f => f.unitCount normalDocs c
  | .directory _ _ _ => 0

/-- Whether the node is a directory whose name fails to render, or that cannot be created. -/
def turnedBack (w : Walker (StateM σ)) (v : Visit σ) : Bool :=
  match v.node with
  | .file _ => false
  | .directory _ name _ =>
    match (w.render name v.state.context.data v.world).1 with
    | none => true
    | some rendered =>
      !(w.host.createDirAll (v.dir.joinRendered rendered)
        (w.render name v.state.context.data v.world).2).1

end Visit

namespace Walker

variable {w : Walker (StateM σ)}

/-- What `s'` has beyond `s` are the outcomes `os`, and directories purged or tracked. -/
def Adds (os : List Outcome) (s s' : WalkState) : Prop :=
  s'.context = s.context ∧ s'.report.outcomes = os.foldl Report.count s.report.outcomes

namespace Adds

variable {s s' s'' : WalkState} {os os' : List Outcome}

theorem refl (s : WalkState) : Adds [] s s :=
  ⟨rfl, rfl⟩

theorem append (h : Adds os s s') (h' : Adds os' s' s'') : Adds (os ++ os') s s'' :=
  ⟨h'.1.trans h.1, by rw [h'.2, h.2, List.foldl_append]⟩

theorem one (o : Outcome) (s : WalkState) : Adds [o] s (onReport s (·.count o)) :=
  ⟨rfl, Report.outcomes_count s.report o⟩

end Adds

theorem emitEach_adds (f : DocFile) (dir : Path) (cs : List RenderContext) (s : WalkState)
    (t : σ) :
    ∃ os : List Outcome, os.length = cs.length ∧ Adds os s (w.emitEach f dir cs s t).1 := by
  induction cs generalizing s t with
  | nil => exact ⟨[], rfl, .refl s⟩
  | cons c cs ih =>
    obtain ⟨o, ho⟩ := emit_countsOne (w := w) f dir (inContext c s) t
    rw [emitEach_cons_apply, ho]
    obtain ⟨os, hlength, hadds⟩ :=
      ih (inContext s.context (onReport (inContext c s) (·.count o)))
        (w.emit f dir (inContext c s) t).2
    exact ⟨o :: os, by simp [hlength], (Adds.one o s).append hadds⟩

theorem prepare_adds (dir : Path) (s : WalkState) (t : σ) : Adds [] s (w.prepare dir s t).1 := by
  refine ⟨prepare_context dir s t, ?_⟩
  unfold prepare
  split
  · obtain ⟨emptied, hpurged⟩ := purge_fst (w := w) dir s t
    rw [stateM_bind, hpurged]
    rfl
  · rfl

theorem ready_adds (f : DocFile) (dir : Path) (s : WalkState) (t : σ) :
    Adds [] s (w.ready f dir s t).1 := by
  unfold ready
  split
  · exact prepare_adds dir s t
  · exact .refl s

/-- A file node comes to an outcome for each of its units. -/
theorem walkFile_adds (f : DocFile) (dir : Path) (s : WalkState) (t : σ) :
    ∃ os : List Outcome, os.length = f.unitCount w.policy.normalDocs s.context ∧
      Adds os s (w.walkFile f dir s t).1 := by
  rw [walkFile_apply]
  cases hasset : !f.isText && w.policy.normalDocs with
  | true =>
    obtain ⟨o, ho⟩ := fetchAsset_countsOne (w := w) f dir s t
    refine ⟨[o], by simp [DocFile.unitCount, hasset], ?_⟩
    rw [if_pos rfl, ho]
    exact .one o s
  | false =>
    obtain ⟨os, hlength, hadds⟩ := emitEach_adds (w := w) f dir
      (FileUnit.contexts w.policy.normalDocs s.context f) (w.ready f dir s t).1
      (w.ready f dir s t).2
    rw [DocFile.length_contexts _ _ _ hasset] at hlength
    refine ⟨os, hlength, ?_⟩
    rw [if_neg Bool.false_ne_true]
    exact (ready_adds f dir s t).append hadds

/-! ## What a walk comes to -/

theorem turnedBack_directory (v : Visit σ) {id : Int} {name : String} {children : List DocNode}
    (hnode : v.node = .directory id name children) :
    v.turnedBack w = (w.enter name v.dir v.state v.world).1.isNone := by
  unfold Visit.turnedBack
  rw [hnode]
  cases hentered : (w.enter name v.dir v.state v.world).1 with
  | some path =>
    obtain ⟨rendered, hrendered, rfl, hmade⟩ := enter_eq_some_iff.1 hentered
    simp [hrendered, hmade]
  | none =>
    cases hrendered : (w.render name v.state.context.data v.world).1 with
    | none => simp [hrendered]
    | some rendered =>
      have hfailed : (w.host.createDirAll (v.dir.joinRendered rendered)
          (w.render name v.state.context.data v.world).2).1 ≠ true := by
        intro hmade
        rw [enter_eq_some_iff.2 ⟨rendered, hrendered, rfl, hmade⟩] at hentered
        simp at hentered
      simp [hrendered, hfailed]

/-- The work of a visit adds the outcomes `os`: one for each unit, or a failure if the walk is
turned back. -/
def ComesTo (w : Walker (StateM σ)) (c : RenderContext) (v : Visit σ) (os : List Outcome) : Prop :=
  Adds os v.state (v.work w).1 ∧
    if v.turnedBack w then os = [.failed] else os.length = v.units w.policy.normalDocs c

theorem length_of_comesTo {c : RenderContext} {v : Visit σ} {os : List Outcome}
    (h : ComesTo w c v os) :
    os.length = v.units w.policy.normalDocs c + if v.turnedBack w then 1 else 0 := by
  replace h := h.2
  split at h
  · rename_i hback
    have hunits : v.units w.policy.normalDocs c = 0 := by
      unfold Visit.turnedBack at hback
      unfold Visit.units
      cases hnode : v.node with
      | file f => simp [hnode] at hback
      | directory id name children => rfl
    simp [h, hback, hunits]
  · rename_i hback
    simp [h, hback]

theorem work_comesTo (v : Visit σ) : ∃ os, ComesTo w v.state.context v os := by
  cases hnode : v.node with
  | file f =>
    obtain ⟨os, hlength, hadds⟩ := walkFile_adds (w := w) f v.dir v.state v.world
    refine ⟨os, by simpa only [Visit.work, hnode] using hadds, ?_⟩
    simpa [Visit.turnedBack, Visit.units, hnode] using hlength
  | directory id name children =>
    have hback := turnedBack_directory (w := w) v hnode
    cases hentered : (w.enter name v.dir v.state v.world).1 with
    | some path =>
      refine ⟨[], ?_, ?_⟩
      · simpa only [Visit.work, hnode, hentered] using Adds.refl v.state
      · simp [hback, hentered, Visit.units, hnode]
    | none =>
      refine ⟨[.failed], ?_, by simp [hback, hentered]⟩
      simp only [Visit.work, hnode, hentered]
      exact Adds.one .failed v.state

theorem length_flatten_of_comesTo {c : RenderContext} {vs : List (Visit σ)}
    {parts : List (List Outcome)} (h : List.Forall₂ (ComesTo w c) vs parts) :
    parts.flatten.length =
      (vs.map (Visit.units w.policy.normalDocs c)).sum + vs.countP (Visit.turnedBack w) := by
  induction h with
  | nil => rfl
  | cons hone _ ih =>
    rw [List.flatten_cons, List.length_append, ih, length_of_comesTo hone, List.map_cons,
      List.sum_cons, List.countP_cons]
    omega

/-- At every visit, and in the end, the context is the one from the beginning. -/
theorem context_of_leads {a b : WalkState × σ} {vs : List (Visit σ)} (h : Leads w a vs b) :
    b.1.context = a.1.context ∧ ∀ v ∈ vs, v.state.context = a.1.context :=
  h.invariant (P := fun x => x.1.context = a.1.context)
    (fun v _ hv => by
      obtain ⟨os, hcomes⟩ := work_comesTo (w := w) v
      exact hcomes.1.1.trans hv) rfl

/-- The counts of a walk's report add up to the units it has met and the directories it could not
enter. Each of these contributes one outcome, and the report tells of them in order. -/
theorem walk_accounts (w : Walker (StateM σ)) (docs : List DocNode) (dir : Path)
    (c : RenderContext) (t : σ) :
    (w.walk docs dir c t).1.report.accounted =
        ((w.visits docs dir c t).map (Visit.units w.policy.normalDocs c)).sum +
          (w.visits docs dir c t).countP (Visit.turnedBack w) ∧
      ∃ parts, List.Forall₂ (ComesTo w c) (w.visits docs dir c t) parts ∧
        (w.walk docs dir c t).1.report.outcomes = parts.flatten.foldl Report.count {} := by
  obtain ⟨-, hcontexts⟩ := context_of_leads (walk_leads (w := w) docs dir c t)
  obtain ⟨parts, hparts, hreport⟩ := (walk_leads (w := w) docs dir c t).collect
    (R := ComesTo w c) (fun a => a.1.report.outcomes) Report.count fun v hv => by
      obtain ⟨os, hcomes⟩ := work_comesTo (w := w) v
      rw [hcontexts v hv] at hcomes
      exact ⟨os, hcomes, hcomes.1.2⟩
  refine ⟨?_, parts, hparts, hreport⟩
  rw [← Report.accounted_outcomes, hreport, Report.accounted_foldl_count,
    length_flatten_of_comesTo hparts]
  exact Nat.zero_add _

end Walker

end Scaffold

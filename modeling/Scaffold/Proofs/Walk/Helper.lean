import Mathlib
import Scaffold.Proofs.Host.Disk
import Scaffold.Proofs.Walk.Account
import Scaffold.Render.Registry

/-!
# Helper nodes

Helper nodes hold scripts and are there for the templates. A walk passes over them, so that it
comes to the same without them. Only one that is taken for an asset is counted, as its script is
asked for as if it were an address.
-/

namespace Scaffold

variable {σ : Type}

/-- Whether a helper node is not text while assets are fetched. -/
def DocFile.isFetchedHelper (normalDocs : Bool) (f : DocFile) : Bool :=
  f.dataSource == .handlebarHelper && (!f.isText && normalDocs)

namespace DocNode

/-- The tree without its helper nodes. -/
def withoutHelpers (docs : List DocNode) : List DocNode :=
  keepFiles (fun f => f.dataSource != .handlebarHelper) docs

mutual

def filesFrom (renders : String → Bool) : DocNode → List DocFile
  | .file f => [f]
  | .directory _ name children => if renders name then filesBelow renders children else []

/-- The files of a tree that lie below directories whose names all render. -/
def filesBelow (renders : String → Bool) : List DocNode → List DocFile
  | [] => []
  | n :: ns => filesFrom renders n ++ filesBelow renders ns

end

end DocNode

namespace Walker

variable {w : Walker (StateM σ)}

/-! ## Files that may be left out -/

section Keep

variable {keep : DocFile → Bool}

/-- At a file that is left out, nothing is done. -/
def Spare (keep : DocFile → Bool) (w : Walker (StateM σ)) (v : Visit σ) : Prop :=
  ∀ f, v.node = .file f → keep f = false → v.work w = v.start

mutual

theorem walkNodes_keepFilesIn (place : List Nat) (dir : Path) :
    ∀ (n : DocNode) (s : WalkState) (t : σ),
      (∀ v ∈ w.visitsAt place dir n s t, Spare keep w v) →
        w.walkNodes dir (DocNode.keepFilesIn keep n) s t = w.walkNode dir n s t
  | .file f, s, t, hspare => by
    rw [DocNode.keepFilesIn]
    cases hkeep : keep f with
    | true =>
      rw [if_pos rfl]
      exact walkNodes_singleton_apply _ dir s t
    | false =>
      have hnothing := hspare ⟨place, .file f, dir, s, t⟩ (by simp [visitsAt]) f rfl hkeep
      rw [if_neg Bool.false_ne_true, walkNodes, walkNode]
      exact hnothing.symm
  | .directory id name children, s, t, hspare => by
    rw [DocNode.keepFilesIn, walkNodes_singleton_apply, walkNode_directory_apply,
      walkNode_directory_apply]
    rw [visitsAt] at hspare
    cases hentered : (w.enter name dir s t).1 with
    | none => rfl
    | some path =>
      simp only [hentered, List.forall_mem_cons] at hspare
      exact walkNodes_keepFiles place 0 path children s _ hspare.2

/-- A walk comes to the same without files at which nothing is done. -/
theorem walkNodes_keepFiles (place : List Nat) (i : Nat) (dir : Path) :
    ∀ (ns : List DocNode) (s : WalkState) (t : σ),
      (∀ v ∈ w.visitsIn place i dir ns s t, Spare keep w v) →
        w.walkNodes dir (DocNode.keepFiles keep ns) s t = w.walkNodes dir ns s t
  | [], s, t, _ => by rw [DocNode.keepFiles]
  | n :: ns, s, t, hspare => by
    rw [visitsIn, List.forall_mem_append] at hspare
    rw [DocNode.keepFiles, walkNodes_append_apply, walkNodes_cons_apply,
      walkNodes_keepFilesIn (place ++ [i]) dir n s t hspare.1]
    exact walkNodes_keepFiles place (i + 1) dir ns _ _ hspare.2

end

end Keep

theorem walkFile_of_helper {f : DocFile} (hsource : f.dataSource = .handlebarHelper)
    (htext : (!f.isText && w.policy.normalDocs) = false) (dir : Path) (s : WalkState) (t : σ) :
    w.walkFile f dir s t = (s, t) := by
  unfold walkFile
  rw [if_neg (by simp [htext]), hsource]
  rfl

/-- A walk that takes no helper for an asset comes to the same without helpers. -/
theorem walk_withoutHelpers {docs : List DocNode} {dir : Path} {c : RenderContext} {t : σ}
    (h : ∀ v ∈ w.visits docs dir c t, ∀ f, v.node = .file f →
      f.isFetchedHelper w.policy.normalDocs = false) :
    w.walk (DocNode.withoutHelpers docs) dir c t = w.walk docs dir c t := by
  refine walkNodes_keepFiles [] 0 dir docs { context := c } t fun v hv f hnode hhelper => ?_
  have hsource : f.dataSource = .handlebarHelper := by simpa using hhelper
  have htext : (!f.isText && w.policy.normalDocs) = false := by
    simpa [DocFile.isFetchedHelper, hsource] using h v hv f hnode
  rw [Visit.work, hnode]
  exact walkFile_of_helper hsource htext v.dir v.state v.world

/-! ## Files that are met -/

/-- The walker is answered what `render` gives, whatever happens beside. -/
def AnswersBy (w : Walker (StateM σ)) (render : Rendering) : Prop :=
  ∀ template data t, (w.render template data t).1 = render template data

section Rendering

variable {render : Rendering}

mutual

theorem file_of_mem_visitsAt {f : DocFile}
    (hr : w.AnswersBy render)
    (place : List Nat) (dir : Path) : ∀ (n : DocNode) (s : WalkState) (t : σ) {v : Visit σ},
    v ∈ w.visitsAt place dir n s t → v.node = .file f →
      f ∈ DocNode.filesFrom (fun name => (render name s.context.data).isSome) n
  | .file g, s, t, v, hv, hnode => by
    rw [visitsAt, List.mem_singleton] at hv
    rw [hv, DocNode.file.injEq] at hnode
    rw [DocNode.filesFrom, hnode]
    exact List.mem_singleton_self f
  | .directory id name children, s, t, v, hv, hnode => by
    rw [visitsAt, List.mem_cons] at hv
    rcases hv with rfl | hv
    · cases hnode
    · cases hentered : (w.enter name dir s t).1 with
      | none => simp [hentered] at hv
      | some path =>
        simp only [hentered] at hv
        obtain ⟨rendered, hrendered, -⟩ := enter_eq_some_iff.1 hentered
        rw [hr] at hrendered
        rw [DocNode.filesFrom, if_pos (by simp [hrendered])]
        exact file_of_mem_visitsIn hr place 0 path children s _ hv hnode

theorem file_of_mem_visitsIn {f : DocFile}
    (hr : w.AnswersBy render)
    (place : List Nat) (i : Nat) (dir : Path) :
    ∀ (ns : List DocNode) (s : WalkState) (t : σ) {v : Visit σ},
      v ∈ w.visitsIn place i dir ns s t → v.node = .file f →
        f ∈ DocNode.filesBelow (fun name => (render name s.context.data).isSome) ns
  | [], s, t, v, hv, _ => by simp [visitsIn] at hv
  | n :: ns, s, t, v, hv, hnode => by
    rw [visitsIn, List.mem_append] at hv
    rw [DocNode.filesBelow, List.mem_append]
    rcases hv with hv | hv
    · exact .inl (file_of_mem_visitsAt hr (place ++ [i]) dir n s t hv hnode)
    · have hcontext := (context_of_leads (walkNode_leads (w := w) (place ++ [i]) dir n s t)).1
      have hmem := file_of_mem_visitsIn hr place (i + 1) dir ns _ _ hv hnode
      rw [hcontext] at hmem
      exact .inr hmem

end

end Rendering

end Walker

/-! ## What is counted where everything succeeds -/

namespace DocNode

mutual

def countFrom (renders : String → Bool) (count : DocFile → Nat) : DocNode → Nat
  | .file f => count f
  | .directory _ name children => if renders name then countBelow renders count children else 1

/-- The number of outcomes if all directories can be created: the ones of the files, and one for
each directory whose name does not render. -/
def countBelow (renders : String → Bool) (count : DocFile → Nat) : List DocNode → Nat
  | [] => 0
  | n :: ns => countFrom renders count n + countBelow renders count ns

end

section Count

variable (renders : String → Bool) (count : DocFile → Nat)

theorem countBelow_append (ms ns : List DocNode) :
    countBelow renders count (ms ++ ns) =
      countBelow renders count ms + countBelow renders count ns := by
  induction ms with
  | nil => simp [countBelow]
  | cons m ms ih => rw [List.cons_append, countBelow, ih, countBelow, Nat.add_assoc]

/-- What is counted for the files that are left out. -/
def countDropped (keep : DocFile → Bool) (fs : List DocFile) : Nat :=
  ((fs.filter fun f => !keep f).map count).sum

theorem countDropped_append (keep : DocFile → Bool) (fs gs : List DocFile) :
    countDropped count keep (fs ++ gs) =
      countDropped count keep fs + countDropped count keep gs := by
  simp [countDropped]

theorem countDropped_eq_zero_iff {keep : DocFile → Bool} {fs : List DocFile} :
    countDropped count keep fs = 0 ↔ ∀ f ∈ fs, keep f = false → count f = 0 := by
  rw [countDropped, List.sum_eq_zero_iff, List.forall_mem_map]
  simp

mutual

theorem countFrom_eq_add (keep : DocFile → Bool) : ∀ n : DocNode,
    countFrom renders count n =
      countBelow renders count (keepFilesIn keep n) +
        countDropped count keep (filesFrom renders n)
  | .file f => by
    rw [countFrom, keepFilesIn, filesFrom, countDropped]
    cases hkeep : keep f <;> simp [countBelow, countFrom, hkeep]
  | .directory id name children => by
    rw [countFrom, keepFilesIn, countBelow, countBelow, countFrom, filesFrom]
    cases renders name with
    | true => simpa using countBelow_eq_add keep children
    | false => simp [countDropped]

/-- Without some of the files, what is counted for them is missing. -/
theorem countBelow_eq_add (keep : DocFile → Bool) : ∀ ns : List DocNode,
    countBelow renders count ns =
      countBelow renders count (keepFiles keep ns) +
        countDropped count keep (filesBelow renders ns)
  | [] => by simp [countBelow, keepFiles, filesBelow, countDropped]
  | n :: ns => by
    have hfirst := countFrom_eq_add keep n
    have hrest := countBelow_eq_add keep ns
    rw [countBelow, keepFiles, countBelow_append, filesBelow, countDropped_append]
    omega

end

end Count

end DocNode

/-- A host on which everything succeeds, and which holds nothing. -/
def Host.willing : Host (StateM Unit) where
  pathExists _ := pure false
  write _ _ := pure true
  createDirAll _ := pure true
  removeDirAll _ := pure true
  readText _ := pure none
  names _ := pure none
  download _ _ := pure ()
  updateProject _ _ := pure true
  log _ := pure ()

namespace Walker

section Count

variable {w : Walker (StateM σ)} {render : Rendering}

theorem enter_isSome (hr : w.AnswersBy render)
    (hcreate : ∀ p t, (w.host.createDirAll p t).1 = true) (name : String) (dir : Path)
    (s : WalkState) (t : σ) :
    (w.enter name dir s t).1.isSome = (render name s.context.data).isSome := by
  cases hrendered : render name s.context.data with
  | none =>
    cases hentered : (w.enter name dir s t).1 with
    | none => rfl
    | some path =>
      obtain ⟨rendered, hsome, -⟩ := enter_eq_some_iff.1 hentered
      rw [hr, hrendered] at hsome
      cases hsome
  | some rendered =>
    have hentered : (w.enter name dir s t).1 = some (dir.joinRendered rendered) :=
      enter_eq_some_iff.2 ⟨rendered, (hr _ _ _).trans hrendered, rfl, hcreate _ _⟩
    rw [hentered]
    rfl

mutual

theorem accounted_walkNode
    (hr : w.AnswersBy render)
    (hcreate : ∀ p t, (w.host.createDirAll p t).1 = true) (dir : Path) :
    ∀ (n : DocNode) (s : WalkState) (t : σ),
      (w.walkNode dir n s t).1.report.accounted = s.report.accounted +
        DocNode.countFrom (fun name => (render name s.context.data).isSome)
          (DocFile.unitCount w.policy.normalDocs s.context) n
  | .file f, s, t => by
    obtain ⟨os, hlength, hadds⟩ := walkFile_adds (w := w) f dir s t
    rw [walkNode, DocNode.countFrom, ← Report.accounted_outcomes, hadds.2,
      Report.accounted_foldl_count, hlength, Report.accounted_outcomes]
  | .directory id name children, s, t => by
    have hentered := enter_isSome hr hcreate name dir s t
    rw [walkNode_directory_apply, DocNode.countFrom]
    cases hpath : (w.enter name dir s t).1 with
    | none =>
      rw [hpath] at hentered
      rw [← hentered]
      exact Report.accounted_count s.report .failed
    | some path =>
      rw [hpath] at hentered
      rw [← hentered, Option.isSome_some, if_pos rfl]
      exact accounted_walkNodes hr hcreate path children s _

theorem accounted_walkNodes
    (hr : w.AnswersBy render)
    (hcreate : ∀ p t, (w.host.createDirAll p t).1 = true) (dir : Path) :
    ∀ (ns : List DocNode) (s : WalkState) (t : σ),
      (w.walkNodes dir ns s t).1.report.accounted = s.report.accounted +
        DocNode.countBelow (fun name => (render name s.context.data).isSome)
          (DocFile.unitCount w.policy.normalDocs s.context) ns
  | [], s, t => by
    rw [walkNodes, DocNode.countBelow]
    rfl
  | n :: ns, s, t => by
    have hcontext := (context_of_leads (walkNode_leads (w := w) [] dir n s t)).1
    rw [walkNodes_cons_apply, accounted_walkNodes hr hcreate dir ns, hcontext,
      accounted_walkNode hr hcreate dir n, DocNode.countBelow, Nat.add_assoc]

end

end Count

/-- Whatever the files are like, a walk comes to the same without the helpers of a tree, exactly if
none that it may meet is taken for an asset. -/
theorem walk_leaves_out_helpers_iff (render : Rendering) (policy : RegenerationPolicy)
    (docs : List DocNode) (dir : Path) (c : RenderContext) :
    (∀ (σ : Type) (w : Walker (StateM σ)), w.policy = policy → w.AnswersBy render → ∀ t,
        w.walk (DocNode.withoutHelpers docs) dir c t = w.walk docs dir c t) ↔
      ∀ f ∈ DocNode.filesBelow (fun name => (render name c.data).isSome) docs,
        f.isFetchedHelper policy.normalDocs = false := by
  constructor
  · intro hsame f hf
    let w : Walker (StateM Unit) :=
      { host := Host.willing, render := fun template data => pure (render template data)
        overwrite := false, policy := policy }
    let renders := fun name => (render name c.data).isSome
    let count := DocFile.unitCount policy.normalDocs c
    have hcount (ns : List DocNode) :
        (w.walk ns dir c ()).1.report.accounted = 0 + DocNode.countBelow renders count ns :=
      accounted_walkNodes (w := w) (fun _ _ _ => rfl) (fun _ _ => rfl) dir ns { context := c } ()
    have hdropped : DocNode.countDropped count (fun f => f.dataSource != .handlebarHelper)
        (DocNode.filesBelow renders docs) = 0 := by
      have hsplit := DocNode.countBelow_eq_add renders count
        (fun f => f.dataSource != .handlebarHelper) docs
      have hwithout := hcount (DocNode.withoutHelpers docs)
      rw [hsame Unit w rfl (fun _ _ _ => rfl) (), hcount docs, DocNode.withoutHelpers] at hwithout
      omega
    by_contra hfetched
    obtain ⟨hsource, hasset⟩ : f.dataSource = .handlebarHelper ∧
        (!f.isText && policy.normalDocs) = true := by
      simpa [DocFile.isFetchedHelper] using hfetched
    have hnone : count f = 0 :=
      (DocNode.countDropped_eq_zero_iff count).1 hdropped f hf (by simp [hsource])
    have hone : count f = 1 := by simp [count, DocFile.unitCount, hasset]
    omega
  · intro hnone σ w hpolicy hr t
    refine walk_withoutHelpers fun v hv f hnode => ?_
    rw [hpolicy]
    exact hnone f (file_of_mem_visitsIn hr [] 0 dir docs { context := c } t hv hnode)

/-- A helper that is not text is asked for, with its script as the address. -/
theorem walk_asks_for_helper :
    let w : Walker (StateM Journal) :=
      { host := Journal.host {}, overwrite := false, policy := { normalDocs := true }
        render := fun template data => pure ((default : HelperRegistry).render template data).1 }
    let docs : List DocNode :=
      [.file ⟨1, "shout.js", some "application/javascript", .handlebarHelper,
        "params[0].to_upper()"⟩]
    let full := w.walk docs (.ofString "out") (.ofMembers []) { files := {} }
    let without :=
      w.walk (DocNode.withoutHelpers docs) (.ofString "out") (.ofMembers []) { files := {} }
    full.1.report.downloads = [.ofString "out/shout.js"] ∧
      full.2.calls.map Call.request =
        [.download "params[0].to_upper()" (.ofString "out/shout.js"),
          .createDirAll (.ofString "out")] ∧
      full.2.files.pathExists (.ofString "out") = true ∧
      without.1.report = {} ∧ without.2.calls.map Call.request = [] ∧
      without.2.files.pathExists (.ofString "out") = false := by
  intro w docs full without
  exact ⟨by decide +kernel, by decide +kernel, by decide +kernel, by decide +kernel,
    by decide +kernel, by decide +kernel⟩

end Walker

end Scaffold

import Mathlib
import Scaffold.Proofs.Plan.Walk
import Scaffold.Proofs.Plan.Written

/-!
# Where a walk writes

Directories only ever go down from the one a walk starts in. Files do not have to: markers are
cut out of a path after its `..` have been taken care of, so a name can gain a `..` when it loses
a marker, and a directory can lose a part of its own name.
-/

namespace Scaffold.Walker

open Plan (outputsAll ofNodes)

/-- A walk writes outputs of its plan, in order, and reports these. Each goes strictly inside the
directory of its node just if its trail, from where it starts, comes out inside. In a directory
without markers that is: the trail climbs out of existing directories only, and goes down again
through the ones it has left and further. -/
theorem walk_writes_inside_iff {σ : Type} {view : σ → Journal} {r : Refusals}
    {w : Walker (StateM σ)} {render : Rendering} (hhost : w.host.Follows view (Journal.host r))
    (hrender : w.RendersBy view render) (docs : List DocNode) (dir : Path) (c : RenderContext)
    (s : σ) :
    ∃ done : List Plan.Output,
      done.Sublist (outputsAll dir (ofNodes render w.policy.normalDocs c docs)) ∧
      (view (w.walk docs dir c s).2).writes =
        (view s).writes ++ done.map (fun o => (o.target, o.content)) ∧
      (w.walk docs dir c s).1.report.written = done.map Plan.Output.target ∧
      ∀ o ∈ done,
        (∃ names, o.dir.resolved = dir.resolved.below names) ∧
        (o.dir.StrictlyBeneath o.target ↔
          ∃ names, names ≠ [] ∧ o.start.append o.trail = o.dir.resolved.below names) ∧
        (WriteDirective.first? o.dir.chars = none → o.dir.chars ≠ [] →
          (o.dir.StrictlyBeneath o.target ↔
            (o.trail.climbs ≤ o.dir.resolved.names.length ∨ o.dir.resolved.absolute = true) ∧
              ∃ names, names ≠ [] ∧
                o.trail.names =
                  o.dir.resolved.names.drop (o.dir.resolved.names.length - o.trail.climbs) ++
                    names)) := by
  set plan := ofNodes render w.policy.normalDocs c docs with hplan
  obtain ⟨hresult, hview⟩ := walk_follows hhost hrender docs dir c s
  have hwrites := (writes_compositional (w := w.onHost (Journal.host r) render) rfl).carryOutAll
    (fun _ _ _ => trivial) dir trivial plan
  obtain ⟨entries, hsub, hjournal, hreport⟩ := hwrites { context := c } (view s)
  obtain ⟨done, hdone, rfl⟩ := List.sublist_map_iff.1 hsub
  refine ⟨done, hdone, ?_, ?_, fun o ho => ⟨?_, o.strictlyBeneath_iff,
    Plan.Output.strictlyBeneath_iff_of_unmarked⟩⟩
  · rw [hview, ← hplan, hjournal, List.map_map]
    rfl
  · rw [hresult, ← hplan, hreport, List.map_map]
    rfl
  · exact Plan.resolved_dir_of_mem_outputsAll dir plan o (hdone.subset ho)

/-- A name with neither `..` nor markers keeps its file inside. -/
theorem walk_plain_name_inside :
    let w : Walker (StateM Journal) :=
      { host := Journal.host {}, render := fun template _ => pure (some template)
        overwrite := false, policy := { normalDocs := true } }
    let docs : List DocNode := [.directory 1 "src" [.file ⟨2, "a/b.txt", none, .none, "x"⟩]]
    let after := w.walk docs (.ofString "out") (.ofMembers []) { files := {} }
    after.2.writes = [(.ofString "out/src/a/b.txt", "x")] ∧
      (Path.ofString "out/src").StrictlyBeneath (.ofString "out/src/a/b.txt") := by
  intro w docs after
  have hwritten : after.2.writes = [(.ofString "out/src/a/b.txt", "x")] := by decide +kernel
  refine ⟨hwritten, ?_⟩
  have hplan : outputsAll (.ofString "out")
      (ofNodes (fun template _ => some template) true (.ofMembers []) docs) =
        [⟨.ofString "out/src", "a/b.txt", "x"⟩] := by decide +kernel
  obtain ⟨done, hdone, hwrites, -, hinside⟩ :=
    walk_writes_inside_iff (w := w) (Journal.host_follows_self {})
      (fun template _ => Follows.pure (some template)) docs (.ofString "out") (.ofMembers [])
      { files := {} }
  change done.Sublist (outputsAll _ (ofNodes _ true _ docs)) at hdone
  rw [hplan, List.sublist_singleton] at hdone
  rw [show (id (w.walk docs (.ofString "out") (.ofMembers []) { files := {} }).2).writes = _
    from hwritten] at hwrites
  rcases hdone with rfl | rfl
  · simp [Journal.writes] at hwrites
  · refine ((hinside _ (List.mem_singleton.2 rfl)).2.2 (by decide) (by decide)).2
      ⟨.inl ?_, ["a".toList, "b.txt".toList], by simp, ?_⟩
    · decide +kernel
    · decide +kernel

/-- A name that gains a `..` when it loses its marker puts its file beside its directory. -/
theorem walk_leaves_directory :
    let w : Walker (StateM Journal) :=
      { host := Journal.host {}, render := fun template _ => pure (some template)
        overwrite := false, policy := { normalDocs := true } }
    let docs : List DocNode :=
      [.directory 1 "src" [.file ⟨2, ".!!w./escape.txt", none, .none, "x"⟩]]
    let after := w.walk docs (.ofString "out") (.ofMembers []) { files := {} }
    after.2.calls.map Call.request =
      [.write (.ofString "out/src/../escape.txt") "x", .createDirAll (.ofString "out/src/.."),
       .createDirAll (.ofString "out/src")] ∧
    after.2.writes = [(.ofString "out/src/../escape.txt", "x")] ∧
    ¬ (Path.ofString "out/src").StrictlyBeneath (.ofString "out/src/../escape.txt") := by
  refine ⟨by decide +kernel, by decide +kernel, ?_⟩
  rintro ⟨names, -, hnames⟩
  have htarget : (Path.ofString "out/src/../escape.txt").resolved =
      { names := ["out".toList, "escape.txt".toList] } := by cbv
  have hdir : (Path.ofString "out/src").resolved =
      { names := ["out".toList, "src".toList] } := by cbv
  rw [htarget, hdir] at hnames
  simp [Path.Route.below] at hnames

end Scaffold.Walker

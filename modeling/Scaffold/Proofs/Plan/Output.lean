import Mathlib
import Scaffold.Proofs.Output.Marker
import Scaffold.Proofs.Path.Route
import Scaffold.Proofs.Plan.Basic

/-!
# Outputs of a plan

The files that a plan puts somewhere, each with the directory it was rendered for. Names are
joined to the directory first and markers are cut out of the whole path after that, so a file
goes to what is left of the directory's text, and from there along what is left of the names.

What a plan does is made of few kinds of steps. A property of steps that passes to sequences of
them, and into directories, is a property of every plan.
-/

namespace Scaffold

namespace Plan

structure Output where
  /-- The directory that the name is rendered for. -/
  dir : Path
  rendered : String
  content : String
deriving DecidableEq

mutual

/-- The files that a plan puts somewhere when it is carried out in a directory. -/
def outputs (dir : Path) : Plan → List Output
  | .enter rendered inside => outputsAll (dir.joinRendered rendered) inside
  | .put rendered content => [⟨dir, rendered, content⟩]
  | .prepare | .fetch _ _ | .suppress | .fail => []

def outputsAll (dir : Path) : List Plan → List Output
  | [] => []
  | p :: ps => outputs dir p ++ outputsAll dir ps

end

namespace Output

/-- The joined path, markers included. -/
def path (o : Output) : Path :=
  o.dir.joinRendered o.rendered

/-- Where the file goes. -/
def target (o : Output) : Path :=
  WriteDirective.target o.path

/-- What is written where. -/
def entry (o : Output) : Path × String :=
  (o.path, o.content)

/-- What is left of the rendered names without markers. -/
def segments (o : Output) : List (List Char) :=
  (Path.renderedNames o.rendered.toList).map WriteDirective.withoutMarkers

/-- The way from the directory on. -/
def trail (o : Output) : Path.Route :=
  .ofComponents (Path.innerComponents o.segments)

/-- The part of the joined path in front of the names. -/
def front (o : Output) : List Char :=
  if Path.renderedNames o.rendered.toList = [] then o.dir.chars else o.dir.lead

/-- What is left of it without markers. -/
def base (o : Output) : List Char :=
  WriteDirective.withoutMarkers o.front

/-- The place that the trail starts from. With nothing in front of them, names can make a path
absolute when they lose their markers. -/
def start (o : Output) : Path.Route :=
  if o.base = [] ∧ o.target.isAbsolute then .top else Path.resolved ⟨o.base⟩

theorem path_eq (o : Output) :
    o.path = ⟨o.front ++ Text.joinWith ['/'] (Path.renderedNames o.rendered.toList)⟩ := by
  unfold path front Path.joinRendered
  split
  · rename_i hnames
    simp [hnames, Path.joinAll, Text.joinWith]
  · rename_i hnames
    exact Path.joinAll_eq _ hnames fun n hn => Path.isPlain_of_mem_renderedNames hn

/-- Names are put behind nothing or behind a slash. -/
theorem front_cases (o : Output) :
    o.front = [] ∨ o.front.getLast? = some '/' ∨ Path.renderedNames o.rendered.toList = [] := by
  by_cases hnames : Path.renderedNames o.rendered.toList = []
  · exact .inr (.inr hnames)
  · rw [front, if_neg hnames]
    by_cases hdir : o.dir.chars = []
    · exact .inl (by simp [Path.lead, hdir])
    · exact .inr (.inl (Path.lead_of_ne_nil hdir))

/-- Markers are cut out of the directory's text and of each name. -/
theorem target_eq (o : Output) : o.target = ⟨o.base ++ Text.joinWith ['/'] o.segments⟩ := by
  rw [target, path_eq, WriteDirective.target, WriteDirective.resolve, segments,
    ← WriteDirective.withoutMarkers_joinWith, base]
  rcases o.front_cases with hfront | hfront | hnames
  · rw [WriteDirective.withoutMarkers_append (.inl hfront)]
  · rw [WriteDirective.withoutMarkers_append (.inr hfront)]
  · simp [hnames, Text.joinWith, WriteDirective.withoutMarkers]

theorem base_cases (o : Output) :
    o.base = [] ∨ o.base.getLast? = some '/' ∨ o.segments = [] := by
  rcases o.front_cases with hfront | hfront | hnames
  · exact .inl (by rw [base, hfront]; rfl)
  · obtain ⟨as, has⟩ := List.getLast?_eq_some_iff.1 hfront
    refine .inr (.inl ?_)
    rw [base, has, WriteDirective.withoutMarkers_append_slash]
    simp [WriteDirective.withoutMarkers]
  · exact .inr (.inr (by simp [segments, hnames]))

theorem not_slash_of_mem_segments {o : Output} {s : List Char} (hs : s ∈ o.segments) :
    ∀ c ∈ s, Path.isSlash c = false := by
  intro c hc
  obtain ⟨n, hn, rfl⟩ := List.mem_map.1 hs
  exact (Path.isPlain_of_mem_renderedNames hn).2.2.2 c
    (WriteDirective.mem_of_mem_withoutMarkers hc)

/-- A file goes to the end of its trail. -/
theorem resolved_target (o : Output) : o.target.resolved = o.start.append o.trail := by
  rw [start, trail, target_eq]
  exact Path.resolved_append_joinWith o.base_cases fun s hs => not_slash_of_mem_segments hs

/-- Without markers in the directory's text, the trail starts in the directory. -/
theorem start_eq {o : Output} (hmarkers : WriteDirective.first? o.dir.chars = none)
    (hdir : o.dir.chars ≠ []) : o.start = o.dir.resolved := by
  have hkept := WriteDirective.withoutMarkers_of_first?_eq_none hmarkers
  have hlead : WriteDirective.withoutMarkers o.dir.lead = o.dir.lead := by
    unfold Path.lead
    split
    · exact hkept
    · rw [WriteDirective.withoutMarkers_append_slash, hkept]
      rfl
  have hlead_ne : o.dir.lead ≠ [] := by
    unfold Path.lead
    split <;> simp [hdir]
  rw [start, base, front]
  split
  · rw [hkept, if_neg fun hand => hdir hand.1]
  · rw [hlead, if_neg fun hand => hlead_ne hand.1]
    exact Path.resolved_lead _

/-! ## Confinement -/

/-- A file goes inside the directory it was rendered for if its trail leads back there. -/
theorem strictlyBeneath_iff (o : Output) :
    o.dir.StrictlyBeneath o.target ↔
      ∃ names, names ≠ [] ∧ o.start.append o.trail = o.dir.resolved.below names := by
  rw [Path.StrictlyBeneath, resolved_target]

theorem strictlyBeneath_iff_of_unmarked {o : Output}
    (hmarkers : WriteDirective.first? o.dir.chars = none) (hdir : o.dir.chars ≠ []) :
    o.dir.StrictlyBeneath o.target ↔
      (o.trail.climbs ≤ o.dir.resolved.names.length ∨ o.dir.resolved.absolute = true) ∧
        ∃ names, names ≠ [] ∧
          o.trail.names =
            o.dir.resolved.names.drop (o.dir.resolved.names.length - o.trail.climbs) ++ names := by
  rw [strictlyBeneath_iff, start_eq hmarkers hdir]
  simp only [Path.Route.append_eq_below_iff]
  constructor
  · rintro ⟨names, hne, hroom, heq⟩
    exact ⟨hroom, names, hne, heq⟩
  · rintro ⟨hroom, names, hne, heq⟩
    exact ⟨names, hne, hroom, heq⟩

/-- With nothing to cut out, a file goes below its directory by the rendered names. -/
theorem strictlyBeneath_of_unmarked_path {o : Output}
    (h : WriteDirective.first? o.path.chars = none)
    (hnames : Path.renderedNames o.rendered.toList ≠ []) : o.dir.StrictlyBeneath o.target := by
  refine ⟨_, hnames, ?_⟩
  rw [target, WriteDirective.target, WriteDirective.resolve,
    WriteDirective.withoutMarkers_of_first?_eq_none h]
  exact Path.resolved_joinRendered o.dir o.rendered

end Output

/-! ## Directories -/

mutual

/-- By their text, all directories of a plan lie below the one it is carried out in. -/
theorem resolved_dir_of_mem_outputs (dir : Path) : ∀ (p : Plan) (o : Output),
    o ∈ outputs dir p → ∃ names, o.dir.resolved = dir.resolved.below names
  | .enter rendered inside, o, ho => by
    rw [outputs] at ho
    obtain ⟨names, hnames⟩ := resolved_dir_of_mem_outputsAll _ inside o ho
    rw [Path.resolved_joinRendered, Path.Route.below_below] at hnames
    exact ⟨_, hnames⟩
  | .put rendered content, o, ho => by
    obtain rfl := List.mem_singleton.1 ho
    exact ⟨[], by simp⟩
  | .prepare, o, ho => by simp [outputs] at ho
  | .fetch _ _, o, ho => by simp [outputs] at ho
  | .suppress, o, ho => by simp [outputs] at ho
  | .fail, o, ho => by simp [outputs] at ho

theorem resolved_dir_of_mem_outputsAll (dir : Path) : ∀ (ps : List Plan) (o : Output),
    o ∈ outputsAll dir ps → ∃ names, o.dir.resolved = dir.resolved.below names
  | [], o, ho => by simp [outputsAll] at ho
  | p :: ps, o, ho => by
    rw [outputsAll, List.mem_append] at ho
    rcases ho with ho | ho
    · exact resolved_dir_of_mem_outputs dir p o ho
    · exact resolved_dir_of_mem_outputsAll dir ps o ho

end

end Plan

end Scaffold

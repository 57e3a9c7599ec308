import Mathlib
import Scaffold.Proofs.Path.Components

/-!
# Routes

What a path comes to when its `..` are resolved by the text alone: how far it climbs out of the
place it starts from, and which names it goes down after that. From the root nobody climbs.
-/

namespace Scaffold.Path

structure Route where
  /-- Whether it starts at the root. -/
  absolute : Bool := false
  climbs : Nat := 0
  names : List (List Char) := []
deriving DecidableEq

namespace Route

/-- The route that stays at the root. -/
def top : Route := { absolute := true }

def step (r : Route) : Component → Route
  | .root => top
  | .here => r
  | .up =>
    if r.names ≠ [] then { r with names := r.names.dropLast }
    else if r.absolute then r
    else { r with climbs := r.climbs + 1 }
  | .name n => { r with names := r.names ++ [n] }

def ofComponents (cs : List Component) : Route :=
  cs.foldl step {}

/-- Go on along a route that starts where this one ends. -/
def append (r s : Route) : Route where
  absolute := r.absolute
  climbs := r.climbs + if r.absolute then 0 else s.climbs - r.names.length
  names := r.names.take (r.names.length - s.climbs) ++ s.names

/-- Go down further. -/
def below (r : Route) (names : List (List Char)) : Route :=
  { r with names := r.names ++ names }

@[simp] theorem append_empty (r : Route) : r.append {} = r := by
  simp [append]

@[simp] theorem below_nil (r : Route) : r.below [] = r := by
  simp [below]

@[simp] theorem below_below (r : Route) (xs ys : List (List Char)) :
    (r.below xs).below ys = r.below (xs ++ ys) := by
  simp [below]

theorem step_absolute {r : Route} (h : r.absolute = false) {c : Component} (hc : c ≠ .root) :
    (r.step c).absolute = false := by
  cases c with
  | root => exact absurd rfl hc
  | here => exact h
  | up =>
    simp only [step, h]
    split <;> simp
  | name n => exact h

/-- One step up out of a route that only climbs is one more climb. -/
theorem append_climb (r s : Route) (hs : s.names = []) :
    (r.append s).step .up = r.append { s with climbs := s.climbs + 1 } := by
  have htake : r.names.take (r.names.length - (s.climbs + 1)) =
      (r.names.take (r.names.length - s.climbs)).dropLast := by
    rw [List.dropLast_eq_take, List.take_take, List.length_take]
    congr 1
    omega
  by_cases hroom : s.climbs < r.names.length
  · have hsome : r.names.take (r.names.length - s.climbs) ≠ [] := by
      rw [ne_eq, List.take_eq_nil_iff]
      rintro (hlen | hnil)
      · omega
      · simp [hnil] at hroom
    have hclimbs : s.climbs - r.names.length = 0 := by omega
    have hclimbs' : s.climbs + 1 - r.names.length = 0 := by omega
    simp [step, append, hs, hsome, htake, hclimbs, hclimbs']
  · have hzero : r.names.length - s.climbs = 0 := by omega
    have hone : s.climbs + 1 - r.names.length = s.climbs - r.names.length + 1 := by omega
    cases habs : r.absolute <;> simp [step, append, hs, hzero, habs, htake, hone, Nat.add_assoc]

/-- A step away from the root is a step of the route that goes on. -/
theorem append_step {r s : Route} (hs : s.absolute = false) {c : Component} (hc : c ≠ .root) :
    (r.append s).step c = r.append (s.step c) := by
  cases c with
  | root => exact absurd rfl hc
  | here => rfl
  | name n => simp [step, append]
  | up =>
    by_cases hnames : s.names = []
    · rw [append_climb r s hnames]
      simp [step, hnames, hs]
    · simp [step, append, hnames]

theorem foldl_step_append {r s : Route} (hs : s.absolute = false) {cs : List Component}
    (hcs : Component.root ∉ cs) : cs.foldl step (r.append s) = r.append (cs.foldl step s) := by
  induction cs generalizing s with
  | nil => rfl
  | cons c cs ih =>
    rw [List.mem_cons, not_or] at hcs
    rw [List.foldl_cons, List.foldl_cons, append_step hs (Ne.symm hcs.1)]
    exact ih (step_absolute hs (Ne.symm hcs.1)) hcs.2

/-- Components that do not start over go on along their own route. -/
theorem foldl_step (r : Route) {cs : List Component} (hcs : Component.root ∉ cs) :
    cs.foldl step r = r.append (ofComponents cs) := by
  have h := foldl_step_append (r := r) (s := {}) rfl hcs
  rwa [append_empty] at h

theorem foldl_step_names (r : Route) (names : List (List Char)) :
    (names.map Component.name).foldl step r = r.below names := by
  induction names generalizing r with
  | nil => simp
  | cons n names ih => simpa [step, below] using ih (r.below [n])

/-- When going on along a route leads further down. -/
theorem append_eq_below_iff (r s : Route) (names : List (List Char)) :
    r.append s = r.below names ↔
      (s.climbs ≤ r.names.length ∨ r.absolute = true) ∧
        s.names = r.names.drop (r.names.length - s.climbs) ++ names := by
  have hsplit := List.take_append_drop (r.names.length - s.climbs) r.names
  have hnames : r.names.take (r.names.length - s.climbs) ++ s.names = r.names ++ names ↔
      s.names = r.names.drop (r.names.length - s.climbs) ++ names := by
    constructor
    · intro h
      rw [← hsplit, List.append_assoc, hsplit] at h
      exact List.append_cancel_left h
    · intro h
      rw [h, ← List.append_assoc, hsplit]
  rw [append, below, Route.mk.injEq, hnames, and_iff_right rfl]
  refine and_congr_left fun _ => ?_
  cases r.absolute with
  | true => simp
  | false => simp [Nat.sub_eq_zero_iff_le]

end Route

/-- Where a path leads by its text. -/
def resolved (p : Path) : Route :=
  .ofComponents p.components

theorem resolved_append {as : List Char} (h : as.getLast? = some '/') (bs : List Char) :
    (⟨as ++ bs⟩ : Path).resolved =
      (⟨as⟩ : Path).resolved.append
        (.ofComponents (innerComponents (Text.splitBy isSlash bs))) := by
  rw [resolved, components_append h, Route.ofComponents, List.foldl_append,
    Route.foldl_step _ (root_notMem_innerComponents _)]
  rfl

/-- Segments that start with an empty one, as in `/a`, lead down from the root. -/
theorem resolved_joinWith {s : List Char} {segments : List (List Char)}
    (h : ∀ t ∈ s :: segments, ∀ c ∈ t, isSlash c = false) :
    (⟨Text.joinWith ['/'] (s :: segments)⟩ : Path).resolved =
      (if (⟨Text.joinWith ['/'] (s :: segments)⟩ : Path).isAbsolute then .top
        else {} : Route).append (.ofComponents (innerComponents (s :: segments))) := by
  have hroot := root_notMem_innerComponents (s :: segments)
  rw [← Route.foldl_step _ hroot, resolved, components,
    Text.splitBy_joinWith (by rfl) (List.cons_ne_nil s segments) h]
  by_cases habs : (⟨Text.joinWith ['/'] (s :: segments)⟩ : Path).isAbsolute = true
  · have hs : s = [] := by
      obtain ⟨cs, hcs⟩ := (isAbsolute_iff _).1 habs
      cases s with
      | nil => rfl
      | cons c s =>
        have hc : c = '/' := by
          cases segments with
          | nil => exact (List.cons.inj hcs).1
          | cons next segments =>
            rw [Text.joinWith_cons _ _ (List.cons_ne_nil next segments)] at hcs
            exact (List.cons.inj hcs).1
        exact absurd (h (c :: s) (by simp) c (by simp)) (by simp [hc, isSlash])
    subst hs
    simp [habs, Route.ofComponents, Route.step]
  · by_cases hhere : s = ['.']
    · subst hhere
      simp [habs, Route.ofComponents, Route.step]
    · simp [habs, hhere, Route.ofComponents]

/-- Segments put behind a text go on from where it leads, or from the root if they start there. -/
theorem resolved_append_joinWith {as : List Char} {segments : List (List Char)}
    (has : as = [] ∨ as.getLast? = some '/' ∨ segments = [])
    (h : ∀ s ∈ segments, ∀ c ∈ s, isSlash c = false) :
    (⟨as ++ Text.joinWith ['/'] segments⟩ : Path).resolved =
      (if as = [] ∧ (⟨as ++ Text.joinWith ['/'] segments⟩ : Path).isAbsolute then Route.top
        else (⟨as⟩ : Path).resolved).append (.ofComponents (innerComponents segments)) := by
  cases segments with
  | nil =>
    rw [Text.joinWith, List.append_nil, if_neg]
    · simp [Route.ofComponents]
    · rintro ⟨rfl, habs⟩
      simp [isAbsolute] at habs
  | cons s segments =>
    rcases has with rfl | has | hnil
    · rw [List.nil_append, resolved_joinWith h]
      simp only [true_and]
      rfl
    · have hne : as ≠ [] := by
        rintro rfl
        simp at has
      rw [if_neg fun hand => hne hand.1, resolved_append has, splitBy_joinWith_slash h]
    · simp at hnil

theorem resolved_lead (p : Path) : (⟨p.lead⟩ : Path).resolved = p.resolved := by
  rw [resolved, components_lead, resolved]

/-- A rendered name leads down from the directory. -/
theorem resolved_joinRendered (dir : Path) (rendered : String) :
    (dir.joinRendered rendered).resolved =
      dir.resolved.below (renderedNames rendered.toList) := by
  rw [resolved, components_joinRendered, Route.ofComponents, List.foldl_append,
    Route.foldl_step_names]
  rfl

/-- `p` leads to a place inside the directory `d`. -/
def StrictlyBeneath (d p : Path) : Prop :=
  ∃ names, names ≠ [] ∧ p.resolved = d.resolved.below names

end Scaffold.Path

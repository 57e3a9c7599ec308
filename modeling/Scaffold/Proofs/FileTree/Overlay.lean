import Mathlib
import Scaffold.Proofs.FileTree.Again

/-!
# Contents on top of a tree

When a step is repeated, all that may happen is that it writes some contents to places where
files are. These are the contents that it has left there when it was first taken, so a repeated
step restores what was written over since.
-/

namespace Scaffold

open WriteDirective (target first? overwrites overwrites_false_iff)

namespace FileTree

/-- Contents for some locations. -/
abbrev Overlay := Location → Option String

namespace Overlay

def empty : Overlay := fun _ => none

def single (loc : Location) (content : String) : Overlay := fun l =>
  if l = loc then some content else none

/-- The contents of `n`, and those of `m` elsewhere. -/
def onto (n m : Overlay) : Overlay := fun l => (n l).or (m l)

@[simp] theorem empty_apply (l : Location) : empty l = none := rfl

@[simp] theorem onto_apply (n m : Overlay) (l : Location) : n.onto m l = (n l).or (m l) := rfl

end Overlay

/-- A step from `t` to `t'` leaves the contents `m` there, and all other files as they were. -/
structure Leaves (m : Overlay) (t t' : FileTree) : Prop where
  grown : Grown t t'
  written : ∀ loc content, m loc = some content → t'.find? loc = some (.file content)
  kept : ∀ loc content, m loc = none → t.find? loc = some (.file content) →
    t'.find? loc = some (.file content)

/-- Contents `m` were written and nothing else was changed. -/
structure Overlaid (m : Overlay) (t t' : FileTree) : Prop where
  cwd : t'.cwd = t.cwd
  find? : ∀ loc, t'.find? loc = ((m loc).map FileEntry.file).or (t.find? loc)

variable {m n : Overlay} {t t' t'' : FileTree} {p : Path} {content : String} {loc : Location}

namespace Leaves

theorem trans (h : Leaves m t t') (h' : Leaves n t' t'') : Leaves (n.onto m) t t'' := by
  refine ⟨h.grown.trans h'.grown, fun l c hc => ?_, fun l c hnone hfile => ?_⟩
  · cases hn : n l with
    | some c' =>
      obtain rfl : c' = c := by simpa [hn] using hc
      exact h'.written l c' hn
    | none => exact h'.kept l c hn (h.written l c (by simpa [hn] using hc))
  · rw [Overlay.onto_apply, Option.or_eq_none_iff] at hnone
    exact h'.kept l c hnone.1 (h.kept l c hnone.2 hfile)

end Leaves

theorem Built.leaves (h : Built t t') : Leaves .empty t t' :=
  ⟨h.grown, by simp, fun _ _ _ hfile => h.find?_of_some hfile⟩

/-- A new file takes nothing away. -/
theorem Wrote.leaves_of_new (h : Wrote t t' p content loc) (hnew : t.find? loc = none) :
    Leaves .empty t t' := by
  refine ⟨h.grown, by simp, fun l c _ hfile => ?_⟩
  have hne : l ≠ loc := by
    rintro rfl
    simp [hnew] at hfile
  rw [h.find?_of_ne hne, hfile]

theorem Wrote.leaves (h : Wrote t t' p content loc) : Leaves (.single loc content) t t' := by
  refine ⟨h.grown, fun l c hc => ?_, fun l c hnone hfile => ?_⟩
  · obtain ⟨rfl, rfl⟩ : l = loc ∧ content = c := by simpa [Overlay.single] using hc
    exact h.find?_self
  · have hne : l ≠ loc := by simpa [Overlay.single] using hnone
    rw [h.find?_of_ne hne, hfile]

namespace Overlaid

theorem refl (t : FileTree) : Overlaid .empty t t :=
  ⟨rfl, fun _ => by simp⟩

theorem trans (h : Overlaid m t t') (h' : Overlaid n t' t'') : Overlaid (n.onto m) t t'' := by
  refine ⟨h'.cwd.trans h.cwd, fun l => ?_⟩
  rw [h'.find?, h.find?, Overlay.onto_apply]
  cases n l <;> simp

theorem insert (hne : loc ≠ []) :
    Overlaid (.single loc content) t (t.insert loc (.file content)) := by
  refine ⟨rfl, fun l => ?_⟩
  rw [find?_insert]
  by_cases hl : l = loc
  · simp [Overlay.single, hl, hne]
  · simp [Overlay.single, hl]

theorem of_wrote (h : Wrote t t' p content loc) : Overlaid (.single loc content) t t' :=
  h.eq ▸ insert h.ne_nil

/-- Where the contents were left by a step, files stand, and a tree stays as large as it is. -/
theorem grown {g g' : FileTree} (h : Overlaid m g g') (hleaves : Leaves m t t')
    (hgrown : Grown t' g) : Grown g g' := by
  have hfile : ∀ l c, m l = some c → ∃ c', g.find? l = some (.file c') := fun l c hc =>
    hgrown.file l c (hleaves.written l c hc)
  refine ⟨h.cwd, fun l hdir => ?_, fun l c hold => ?_⟩
  · rw [h.find?]
    cases hm : m l with
    | none => simpa using hdir
    | some c =>
      obtain ⟨c', hthere⟩ := hfile l c hm
      simp [hthere] at hdir
  · rw [h.find?]
    cases hm : m l with
    | none => exact ⟨c, by simpa using hold⟩
    | some c' => exact ⟨c', rfl⟩

end Overlaid

/-! ## Putting again -/

section Host

variable (r : Refusals) {path : Path}

/-- What is put again was written because a marker asks for it, and goes to its target. -/
def Asked (path : Path) (result : Option WriteOutcome) : Prop :=
  ∀ p, result = some (.written p) → p = target path ∧ first? path.chars = some .overwrite

theorem asked_of_unwritten {result : Option WriteOutcome}
    (h : result = none ∨ result = some (.keptExisting (target path))) : Asked path result := by
  rintro p rfl
  simp at h

/-- A file stays if it is kept or still cannot be written. -/
theorem writeOutput_stays {g : FileTree}
    (hfailed : ¬ (overwrites (first? path.chars) false = false ∧
      g.pathExists (target path) = true) → (host r).write (target path) content g = (false, g)) :
    ((host r).writeOutput false path content g).2 = g ∧
      Asked path ((host r).writeOutput false path content g).1 := by
  rw [writeOutput_apply]
  split
  · exact ⟨rfl, asked_of_unwritten (.inr rfl)⟩
  · rename_i hfree
    rw [writeTarget_apply, hfailed hfree]
    exact ⟨rfl, asked_of_unwritten (.inl rfl)⟩

/-- A file that is written only where nothing is takes nothing away, and is not written again. -/
theorem writeOutput_again_of_unmarked (hmarker : overwrites (first? path.chars) false = false)
    (hlocate : ∀ g, Grown t g → meansDirectory (target path) = false →
      g.locate (target path) = t.locate (target path)) :
    Leaves .empty t ((host r).writeOutput false path content t).2 ∧
      ∀ g, Grown ((host r).writeOutput false path content t).2 g →
        g.pathExists (target path) = false →
          (host r).write (target path) content g = (false, g) := by
  rw [writeOutput_apply]
  split
  · rename_i hkept
    refine ⟨(Built.refl t).leaves, fun g hgrown hmissing => ?_⟩
    have hthere := hgrown.pathExists hkept.2
    simp [hmissing] at hthere
  · rename_i hfree
    have hnone : t.pathExists (target path) = false := by simpa [hmarker] using hfree
    rw [writeTarget_apply]
    rcases write_cases r (target path) content t with ⟨-, -, loc, hwrote⟩ | hfailed
    · refine ⟨hwrote.leaves_of_new (find?_eq_none_of_not_pathExists hwrote hnone),
        fun g hgrown hmissing => ?_⟩
      have hthere : g.pathExists (target path) = true :=
        hgrown.pathExists ((pathExists_iff _ _).2
          ⟨loc, _, hwrote.grown.locate hwrote.locate, hwrote.find?_self, .inr hwrote.means⟩)
      simp [hmissing] at hthere
    · rw [hfailed]
      exact ⟨(Built.refl t).leaves, fun g hgrown _ =>
        write_fails_again r hfailed (hlocate g hgrown) hgrown⟩

/-- A file that is written in any case has the same content again. -/
theorem writeOutput_again_of_marked (hmarker : overwrites (first? path.chars) false = true)
    (hlocate : ∀ g, Grown t g → meansDirectory (target path) = false →
      g.locate (target path) = t.locate (target path)) :
    ∃ m, Leaves m t ((host r).writeOutput false path content t).2 ∧
      ∀ g, Grown ((host r).writeOutput false path content t).2 g →
        Overlaid m g ((host r).writeOutput false path content g).2 := by
  have happly : ∀ t, ((host r).writeOutput false path content t).2 =
      ((host r).write (target path) content t).2 := by
    intro t
    rw [writeOutput_apply, writeTarget_apply]
    simp [hmarker]
  simp only [happly]
  rcases write_cases r (target path) content t with ⟨-, hrefused, loc, hwrote⟩ | hfailed
  · refine ⟨.single loc content, hwrote.leaves, fun g hgrown => ?_⟩
    rw [write_again r hwrote hrefused hgrown content]
    exact .insert hwrote.ne_nil
  · rw [hfailed]
    refine ⟨.empty, (Built.refl t).leaves, fun g hgrown => ?_⟩
    rw [write_fails_again r hfailed (hlocate g hgrown) hgrown]
    exact .refl g

theorem writeTarget_asked (hmarker : first? path.chars = some .overwrite) (g : FileTree) :
    Asked path ((host r).writeTarget (target path) content g).1 := by
  rcases writeTarget_cases r (target path) content g with ⟨hok, -⟩ | hfailed
  · rw [hok]
    rintro p hp
    obtain rfl : target path = p := by simpa using hp
    exact ⟨rfl, hmarker⟩
  · rw [hfailed]
    exact asked_of_unwritten (.inl rfl)

/-- Writing a file again restores its content if a marker asks for it, and changes nothing
otherwise. -/
theorem writeOutput_again (content : String)
    (hlocate : ∀ g, Grown t g → meansDirectory (target path) = false →
      g.locate (target path) = t.locate (target path)) :
    ∃ m, Leaves m t ((host r).writeOutput false path content t).2 ∧
      ∀ g, Grown ((host r).writeOutput false path content t).2 g →
        Overlaid m g ((host r).writeOutput false path content g).2 ∧
          Asked path ((host r).writeOutput false path content g).1 := by
  cases hmarker : overwrites (first? path.chars) false with
  | true =>
    obtain ⟨m, hleaves, hagain⟩ := writeOutput_again_of_marked r hmarker hlocate
    refine ⟨m, hleaves, fun g hgrown => ⟨hagain g hgrown, ?_⟩⟩
    rw [writeOutput_apply, if_neg (by simp [hmarker])]
    exact writeTarget_asked r ((overwrites_false_iff _).1 hmarker) g
  | false =>
    obtain ⟨hleaves, hfails⟩ := writeOutput_again_of_unmarked r hmarker hlocate
    refine ⟨.empty, hleaves, fun g hgrown => ?_⟩
    obtain ⟨hsame, hasked⟩ := writeOutput_stays r fun hfree =>
      hfails g hgrown (by simpa [hmarker] using hfree)
    exact ⟨by rw [hsame]; exact .refl g, hasked⟩

/-- Putting a file again restores its content if a marker asks for it, and changes nothing
otherwise. -/
theorem put_again (path : Path) (content : String) (h : Standing t t.cwd) :
    ∃ m, Leaves m t ((host r).put false path content t).2 ∧
      ∀ g, Grown ((host r).put false path content t).2 g →
        Overlaid m g ((host r).put false path content g).2 ∧
          Asked path ((host r).put false path content g).1 := by
  have hbuilt := ensureParent_built r path t
  have hagain := fun g => ensureParent_again r path h (g := g)
  have hlocate := fun g => locate_again r path h (g := g)
  simp only [Host.put, stateM_bind]
  cases hcreated : ((host r).ensureParent path t).1 with
  | false =>
    refine ⟨.empty, hbuilt.leaves, fun g hgrown => ?_⟩
    obtain ⟨hsame, -, hanswer⟩ := hagain g hgrown
    rw [hsame]
    cases hnow : ((host r).ensureParent path g).1 with
    | false => exact ⟨.refl g, asked_of_unwritten (.inl rfl)⟩
    | true =>
      -- the answer may only change for paths at which no file can be
      have hmeans : meansDirectory (target path) = true := by
        by_contra hmeans
        have hsame := hanswer (by simpa using hmeans)
        simp [hnow, hcreated] at hsame
      have hfailed : (host r).write (target path) content g = (false, g) := by
        rcases write_cases r (target path) content g with ⟨-, -, loc, hwrote⟩ | hfailed
        · simp [hwrote.means] at hmeans
        · exact hfailed
      obtain ⟨hstays, hasked⟩ := writeOutput_stays r fun _ => hfailed
      exact ⟨by rw [if_pos rfl, hstays]; exact .refl g, hasked⟩
  | true =>
    obtain ⟨m, hleaves, hwritten⟩ := writeOutput_again r content fun g hgrown hmeans =>
      hlocate g hcreated hmeans hgrown
    refine ⟨m.onto .empty, hbuilt.leaves.trans hleaves, fun g hgrown => ?_⟩
    obtain ⟨hsame, htrue, -⟩ := hagain g (hleaves.grown.trans hgrown)
    rw [hsame, htrue hcreated]
    obtain ⟨hoverlaid, hasked⟩ := hwritten g hgrown
    exact ⟨(Overlaid.refl g).trans hoverlaid, hasked⟩

/-- What was written whatever was there can be written again. -/
theorem replaceOutput_again (hok : ((host r).replaceOutput path content t).1 ≠ none) :
    ∃ loc, Wrote t ((host r).replaceOutput path content t).2 (target path) content loc ∧
      ∀ g content', Grown ((host r).replaceOutput path content t).2 g →
        ((host r).replaceOutput path content' g).1 ≠ none ∧
          Wrote g ((host r).replaceOutput path content' g).2 (target path) content' loc := by
  simp only [Host.replaceOutput, writeTarget_apply] at hok ⊢
  rcases write_cases r (target path) content t with ⟨-, hrefused, loc, hwrote⟩ | hfailed
  · refine ⟨loc, hwrote, fun g content' hgrown => ?_⟩
    obtain ⟨old, hfile⟩ := hgrown.file loc content hwrote.find?_self
    rw [write_again r hwrote hrefused hgrown content']
    exact ⟨by simp, hwrote.means, (hwrote.grown.trans hgrown).locate hwrote.locate,
      by simp [hfile], rfl⟩
  · simp [hfailed] at hok

end Host

end FileTree

end Scaffold

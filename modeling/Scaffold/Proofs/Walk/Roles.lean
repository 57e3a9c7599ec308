import Mathlib
import Scaffold.Proofs.Walk.Scan

/-!
# Roles of directories

Each role of a project asks for a directory by its number, and of several directories with that
number it gets the last one. A directory is given to one role only, though: where two roles ask
for one number, the later of them goes without.
-/

namespace Scaffold

namespace Role

/-- The roles that are given away before this one. -/
def earlier : Role → List Role
  | web => []
  | view => [web]
  | mockApi => [web, view]
  | mockView => [web, view, mockApi]

end Role

namespace SpecAttributes

variable {a : SpecAttributes} {role : Role}

def wanted (a : SpecAttributes) : Role → Option Int
  | .web => a.webRoot
  | .view => a.viewRoot
  | .mockApi => a.mockApiRoot
  | .mockView => a.mockViewRoot

/-- An earlier role asks for the same directory. -/
def Shadowed (a : SpecAttributes) (role : Role) : Prop :=
  ∃ first ∈ role.earlier, a.wanted first = a.wanted role

instance (a : SpecAttributes) (role : Role) : Decidable (a.Shadowed role) :=
  inferInstanceAs (Decidable (∃ first ∈ role.earlier, a.wanted first = a.wanted role))

theorem roleOf?_eq_some_iff {id : Int} :
    StructuralRoots.roleOf? a id = some role ↔ a.wanted role = some id ∧ ¬ a.Shadowed role := by
  unfold StructuralRoots.roleOf? Shadowed
  cases role <;> simp only [wanted, Role.earlier, List.not_mem_nil, List.mem_cons] <;>
    split_ifs <;> simp_all

end SpecAttributes

namespace Scanned

variable {ds : List Scanned} {id : Option Int} {p : Path}

/-- Where the last of the directories with a number leads. -/
def located (ds : List Scanned) (id : Option Int) : Option Path :=
  (ds.filter fun d => id = some d.id).getLast?.map Scanned.path

theorem located_append (front back : List Scanned) (id : Option Int) :
    located (front ++ back) id = (located back id).or (located front id) := by
  rw [located, List.filter_append, List.getLast?_append, located, located]
  cases (back.filter fun d => id = some d.id).getLast? <;> rfl

theorem located_singleton (d : Scanned) (id : Option Int) :
    located [d] id = if id = some d.id then some d.path else none := by
  unfold located
  split_ifs with h <;> simp [h]

theorem located_eq_none_iff : located ds id = none ↔ ∀ d ∈ ds, id ≠ some d.id := by
  simp [located]

/-- After a scan, a role that no other takes the directory from has the last one of its number. -/
theorem root_foldl_eq (a : SpecAttributes) (ds : List Scanned) (r : StructuralRoots)
    (role : Role) :
    (ds.foldl (assignTo a) r).root role =
      if a.Shadowed role then r.root role
      else (located ds (a.wanted role)).or (r.root role) := by
  induction ds using List.reverseRecOn with
  | nil => simp [located]
  | append_singleton ds d ih =>
    rw [List.foldl_append, List.foldl_cons, List.foldl_nil, assignTo,
      StructuralRoots.root_assign, located_append, located_singleton]
    by_cases hshadowed : a.Shadowed role
    · have hrole : ¬ StructuralRoots.roleOf? a d.id = some role := fun h =>
        (SpecAttributes.roleOf?_eq_some_iff.1 h).2 hshadowed
      rw [if_neg hrole, ih, if_pos hshadowed, if_pos hshadowed]
    · rw [if_neg hshadowed]
      by_cases hid : a.wanted role = some d.id
      · rw [if_pos (SpecAttributes.roleOf?_eq_some_iff.2 ⟨hid, hshadowed⟩), if_pos hid]
        rfl
      · have hrole : ¬ StructuralRoots.roleOf? a d.id = some role := fun h =>
          hid (SpecAttributes.roleOf?_eq_some_iff.1 h).1
        rw [if_neg hrole, if_neg hid, ih, if_neg hshadowed, Option.none_or]

end Scanned

namespace StructuralRoots

variable {σ : Type}

/-- Whatever names render to, a role is found where the last directory with its number leads among
those that the scan comes to, just if no earlier role asks for that number too or there is no such
directory. A role that is shadowed by an earlier one is never found. -/
theorem discover_locates_iff (docs : List DocNode) (attributes : Option SpecAttributes)
    (output : Path) (render : String → StateM σ (Option String)) (log : LogEvent → StateM σ Unit)
    (t : σ) (role : Role) :
    let found := ((discover docs attributes output render log).run t).1.root role
    let ds := ((Scanned.gather render log [] 0 output docs).run t).1
    let wanted := attributes.bind (·.wanted role)
    let shadowed := ∃ a ∈ attributes, a.Shadowed role
    (found = Scanned.located ds wanted ↔ ¬ shadowed ∨ ∀ d ∈ ds, wanted ≠ some d.id) ∧
      (shadowed → found = none) := by
  intro found ds wanted shadowed
  cases attributes with
  | none =>
    have hfound : found = none := root_empty role
    have hlocated : Scanned.located ds wanted = none :=
      Scanned.located_eq_none_iff.2 fun _ _ => nofun
    constructor
    · rw [hfound, hlocated]
      simp [shadowed]
    · exact fun _ => hfound
  | some a =>
    have hshadowed : shadowed ↔ a.Shadowed role := by simp [shadowed]
    have hfound : found = if a.Shadowed role then none else Scanned.located ds wanted := by
      have hroot := Scanned.root_foldl_eq a ds {} role
      rw [root_empty, Option.or_none] at hroot
      exact (congrArg (·.root role) (Scanned.run_discover a docs output render log t)).trans hroot
    rw [hshadowed, ← Scanned.located_eq_none_iff]
    -- a shadowed role is found nowhere, which is right only if there is no such directory
    by_cases h : a.Shadowed role
    · rw [if_pos h] at hfound
      rw [hfound]
      simp [h, eq_comm]
    · rw [if_neg h] at hfound
      simp [h, hfound]

/-- One directory is asked for as the place of both kinds of mock data, and given to one of them. -/
theorem discover_leaves_role_out :
    let a : SpecAttributes := { mockApiRoot := some 3, mockViewRoot := some 3 }
    let docs : List DocNode := [.directory 3 "mock" []]
    let render : String → StateM Unit (Option String) := fun name => pure (some name)
    let log : LogEvent → StateM Unit Unit := fun _ => pure ()
    let roots := ((discover docs (some a) (.ofString "out") render log).run ()).1
    let ds := ((Scanned.gather render log [] 0 (.ofString "out") docs).run ()).1
    Scanned.located ds (a.wanted .mockView) = some (.ofString "out/mock") ∧
      roots.root .mockApi = some (.ofString "out/mock") ∧ roots.root .mockView = none := by
  decide +kernel

end StructuralRoots

end Scaffold

import Mathlib
import Scaffold.Output.Roots
import Scaffold.Proofs.Host.Simulation
import Scaffold.Proofs.Plan.Basic

/-!
# Structural roots without a host

The scan for structural roots only renders names and tells of those that fail. What it finds is
a function of the document tree.
-/

namespace Scaffold.StructuralRoots

/-- The roots that a scan finds, with names rendered by `render`. -/
def found (docs : List DocNode) (attributes : Option SpecAttributes) (output : Path)
    (render : String → Option String) : StructuralRoots :=
  discover (m := Id) docs attributes output render fun _ => ()

section Follows

variable {σ τ : Type} {view : σ → τ} {render : String → StateM σ (Option String)}
  {render' : String → Option String} {log : LogEvent → StateM σ Unit}

mutual

theorem scanNode_follows (hrender : ∀ name, Follows view (render name) (pure (render' name)))
    (hlog : ∀ e, Follows view (log e) (pure ())) (attributes : SpecAttributes) (dir : Path)
    (r : StructuralRoots) : ∀ n : DocNode,
    Follows view (scanNode attributes render log dir r n)
      (pure (scanNode (m := Id) attributes render' (fun _ => ()) dir r n))
  | .file _ => by
    rw [scanNode, scanNode]
    exact .pure r
  | .directory id name children => by
    rw [scanNode, scanNode]
    refine (hrender name).step ?_
    change Follows view _ (pure (match render' name with
      | none => r
      | some rendered => scanNodes (m := Id) attributes render' (fun _ => ())
          (dir.joinRendered rendered)
          (r.assign attributes id (dir.joinRendered rendered)) children))
    cases render' name with
    | none => exact (hlog _).step (Follows.pure r)
    | some rendered => exact scanNodes_follows hrender hlog attributes _ _ children

theorem scanNodes_follows (hrender : ∀ name, Follows view (render name) (pure (render' name)))
    (hlog : ∀ e, Follows view (log e) (pure ())) (attributes : SpecAttributes) (dir : Path)
    (r : StructuralRoots) : ∀ ns : List DocNode,
    Follows view (scanNodes attributes render log dir r ns)
      (pure (scanNodes (m := Id) attributes render' (fun _ => ()) dir r ns))
  | [] => by
    rw [scanNodes, scanNodes]
    exact .pure r
  | n :: ns => by
    rw [scanNodes, scanNodes]
    refine (scanNode_follows hrender hlog attributes dir r n).step ?_
    exact scanNodes_follows hrender hlog attributes dir _ ns

end

theorem discover_follows (hrender : ∀ name, Follows view (render name) (pure (render' name)))
    (hlog : ∀ e, Follows view (log e) (pure ())) (docs : List DocNode)
    (attributes : Option SpecAttributes) (output : Path) :
    Follows view (discover docs attributes output render log)
      (pure (found docs attributes output render')) := by
  cases attributes with
  | none => exact Follows.pure ({} : StructuralRoots)
  | some a => exact scanNodes_follows hrender hlog a output {} docs

end Follows

end Scaffold.StructuralRoots

import Mathlib
import Scaffold.Proofs.FileTree.Rooted
import Scaffold.Proofs.Host.Preservation

/-!
# Journals go on

Whatever is asked of a host that keeps a journal, earlier calls stay noted. Between two moments at
which nothing is removed the tree grows, and what is there stays there.
-/

namespace Scaffold.Journal

variable {j j' j'' : Journal} (r : Refusals)

/-- Calls that remove nothing. -/
def Removeless (calls : List Call) : Prop :=
  ∀ call ∈ calls, ∀ p, call.request ≠ .removeDirAll p

/-- Further calls lead from `j` to `j'`. If they remove nothing, the tree has only grown. -/
structure Onward (j j' : Journal) : Prop where
  rooted : j.files.Rooted → j'.files.Rooted
  calls : ∃ new, j'.calls = new ++ j.calls ∧ (Removeless new → FileTree.Grown j.files j'.files)

namespace Onward

theorem refl (j : Journal) : Onward j j :=
  ⟨id, [], rfl, fun _ => .refl _⟩

theorem trans (h : Onward j j') (h' : Onward j' j'') : Onward j j'' := by
  obtain ⟨new, hnew, hgrown⟩ := h.calls
  obtain ⟨new', hnew', hgrown'⟩ := h'.calls
  refine ⟨h'.rooted ∘ h.rooted, new' ++ new, by rw [hnew', hnew, List.append_assoc],
    fun hnone => ?_⟩
  exact (hgrown fun call hcall => hnone call (List.mem_append_right _ hcall)).trans
    (hgrown' fun call hcall => hnone call (List.mem_append_left _ hcall))

theorem perform {request : Request} {op : StateM FileTree Bool}
    (hrooted : j.files.Rooted → (op j.files).2.Rooted)
    (hgrown : (∀ p, request ≠ .removeDirAll p) → FileTree.Grown j.files (op j.files).2) :
    Onward j (perform request op j).2 :=
  ⟨hrooted, [_], rfl, fun hnone => hgrown fun p => hnone _ List.mem_cons_self p⟩

/-- Whatever a journal is asked for, it goes on. -/
theorem preserves_perform {request : Request} {op : StateM FileTree Bool}
    (hrooted : ∀ t : FileTree, t.Rooted → (op t).2.Rooted)
    (hgrown : (∀ p, request ≠ .removeDirAll p) → ∀ t, FileTree.Grown t (op t).2) :
    Preserves (Onward j) (Journal.perform request op) :=
  fun _ h => h.trans (.perform (hrooted _) fun hnone => hgrown hnone _)

theorem host_preserves : (host r).Preserves (Onward j) where
  pathExists _ := .of_reads fun _ => rfl
  write p content := preserves_perform (fun _ ht => ht.host_write r p content) fun _ t =>
    FileTree.write_grown r p content t
  createDirAll p := preserves_perform (fun _ ht => ht.host_createDirAll r p) fun _ t =>
    (FileTree.createDirAll_cases r p t).grown
  readText _ := .of_reads fun _ => rfl
  names _ := .of_reads fun _ => rfl
  download _ _ := (preserves_perform (fun _ ht => ht) fun _ t => .refl t).bind fun _ => .pure _
  updateProject _ _ := .pure _
  log _ := .pure _

theorem preserves_removeDirAll (p : Path) :
    Preserves (Onward j) ((host r).removeDirAll p) :=
  preserves_perform (fun _ ht => ht.host_removeDirAll r p) fun hnone => absurd rfl (hnone p)

end Onward

end Scaffold.Journal

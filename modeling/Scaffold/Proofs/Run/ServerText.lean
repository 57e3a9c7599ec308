import Mathlib
import Scaffold.Proofs.Host.Disk
import Scaffold.Proofs.Host.Put
import Scaffold.Proofs.Json.ReadBack
import Scaffold.Run.ServerConfig

/-!
# Written values

A value is written over several lines under some indent, and so is a configuration in its file. It
is read back from that text, as far as its numbers are whole and fit a word and it nests no deeper
than can be read; and a configuration that is there is what the text of its file says.
-/

namespace Scaffold.ServerConfig

open Json (Blank)

variable {σ : Type}

theorem blank_indent : Blank "    ".toList := by
  simp [Blank, Json.isSpace]

theorem blank_end : Blank "\n".toList := by
  simp [Blank, Json.isSpace]

theorem readExisting_eq (host : Host (StateM σ)) (p : Path) (t : σ) :
    (readExisting host p t).1 = (host.readText p t).1.bind ofText? := by
  unfold readExisting
  rw [stateM_bind]
  cases (host.readText p t).1 with
  | none => rfl
  | some content =>
    dsimp only [Option.bind_some]
    cases ofText? content with
    | none => rfl
    | some v => rfl

theorem ofText?_of_parse? {content : String} {ms : Members}
    (h : Json.parse? content = some (.obj ms)) : ofText? content = some (.obj ms) := by
  rw [ofText?, h]

/-- A value that nests less than 128 deep, with numbers that are whole and fit a word, is read back
from its text under any indent of blanks and tabulators, and from the text of a configuration. So
an object is found again, as it was, in a file that holds it as a configuration. -/
theorem written_values_read_back {v : Json} (h : v.ReadsBack) (hdepth : v.height < 128) :
    (∀ indent : String, (∀ c ∈ indent.toList, c = ' ' ∨ c = '\t') →
        Json.parse? (Json.pretty indent v) = some v) ∧
      Json.parse? (text v) = some v ∧
      ∀ ms, v = .obj ms → ∀ (host : Host (StateM σ)) (p : Path) (t : σ),
        (host.readText p t).1 = some (text v) → (readExisting host p t).1 = some v := by
  have hlimit : v.height ≤ Json.depthLimit := Nat.le_of_lt_succ hdepth
  have htext : Json.parse? (text v) = some v :=
    Json.parse?_pretty_of_readsBack blank_indent blank_end h hlimit
  refine ⟨fun indent hindent => ?_, htext, ?_⟩
  · have hblank : Blank indent.toList := by
      intro c hc
      rcases hindent c hc with rfl | rfl <;> decide
    rw [← String.append_empty (s := Json.pretty indent v)]
    exact Json.parse?_pretty_of_readsBack hblank (by simp [Blank]) h hlimit
  · rintro ms rfl host p t hread
    rw [readExisting_eq, hread, Option.bind_some, ofText?_of_parse? htext]

/-- Quotes, backslashes and control characters, empty containers, and the largest numbers. -/
theorem written_settings_read_back :
    let v : Json := .obj
      [("a\"\\\u0001", .arr [.arr [], .obj [], Json.int (-2 ^ 63), Json.int (2 ^ 64 - 1)]),
        ("é", .obj [("port", Json.int 0), ("x\ty", .arr [.null, .bool true, .str "/\u007f\n"])])]
    let t : FileTree := { entries := [([serverFile.chars], .file (text v))] }
    v.ReadsBack ∧ v.height < 128 ∧ (∀ c ∈ " \t".toList, c = ' ' ∨ c = '\t') ∧
      Json.parse? (Json.pretty " \t" v) = some v ∧ Json.parse? (text v) = some v ∧
      ((FileTree.host {}).readText serverFile t).1 = some (text v) ∧
      (readExisting (FileTree.host {}) serverFile t).1 = some v := by
  intro v t
  have houter : "a\"\\\u0001" < "é" := by decide +kernel
  have hinner : "port" < "x\ty" := by decide +kernel
  have hreads : v.ReadsBack := by
    simp [v, Json.ReadsBack, Json.MembersReadBack, Json.ItemsReadBack, Members.Sorted, Json.int,
      Number.FitsWord, houter, hinner]
  have hdepth : v.height < 128 := by decide
  have hindent : ∀ c ∈ " \t".toList, c = ' ' ∨ c = '\t' := by simp
  have hfile : ((FileTree.host {}).readText serverFile t).1 = some (text v) := rfl
  obtain ⟨hpretty, htext, hfound⟩ := written_values_read_back (σ := FileTree) hreads hdepth
  exact ⟨hreads, hdepth, hindent, hpretty " \t" hindent, htext, hfile,
    hfound _ rfl (FileTree.host {}) serverFile t hfile⟩

end Scaffold.ServerConfig

import Mathlib
import Scaffold.Proofs.Run.ServerFile
import Scaffold.Proofs.Run.ServerText

/-!
# Settings of the server

An update takes the settings that a user may have changed over from the configuration that it
finds. They are kept just if the configuration has not been purged before it is read, and their
values read back from the text that is written.
-/

namespace Scaffold

open WriteDirective (target)

namespace ServerConfig

variable {c : RunConfig} {roots : StructuralRoots} {info : SpecInfo} {rules : List ServerRule}

/-- The settings that updates take over, as they are where there is nothing to take over. -/
def defaults : Members :=
  [("launch", .bool true), ("port", Json.int defaultPort), ("online", .bool false)]

theorem find?_fresh {f : String} (hf : f ∈ preserved) :
    Members.find? f (fresh c roots info rules) = defaults.find? f := by
  simp only [preserved, List.mem_cons, List.not_mem_nil, or_false] at hf
  rcases hf with rfl | rfl | rfl | rfl | rfl <;>
    simp [fresh, Members.ofList, Members.insertAll, Members.find?_insert, Members.find?, defaults]

theorem rereadAt?_defaults (f : String) (depth : Nat) :
    ((defaults.find? f).bind fun v => v.rereadAt? depth) = defaults.find? f := by
  have hport : (Number.int defaultPort).reread? = some (.int defaultPort) := by decide
  have hall : ∀ m ∈ defaults, m.2.rereadAt? depth = some m.2 := by
    simp [defaults, Json.rereadAt?, Json.int, hport]
  exact (Json.find?_of_rereadMembers? (Json.rereadMembers?_eq_self hall) f).symm

theorem find?_takeOver (existing : Members) (keys : List String) (ms : Members) (f : String) :
    Members.find? f (takeOver existing keys ms) =
      if f ∈ keys then (existing.find? f).or (ms.find? f) else ms.find? f := by
  induction keys generalizing ms with
  | nil => simp [takeOver]
  | cons key keys ih =>
    rw [takeOver, ih, Members.find?_insertSome]
    by_cases hkey : key = f
    · subst hkey
      cases Members.find? key existing <;> simp
    · by_cases hf : f ∈ keys
      · simp [hkey, hf]
      · simp [hkey, hf, Ne.symm hkey]

theorem sorted_takeOver (existing : Members) (keys : List String) {ms : Members} (h : ms.Sorted) :
    (takeOver existing keys ms).Sorted := by
  induction keys generalizing ms with
  | nil => exact h
  | cons key keys ih =>
    refine ih ?_
    unfold Members.insertSome
    split
    · exact h.insert
    · exact h

/-- The members of the configuration of an update, by those of the one that it finds. -/
def updated (c : RunConfig) (roots : StructuralRoots) (info : SpecInfo) (rules : List ServerRule)
    (existing : Option Members) : Members :=
  match existing with
  | some old => takeOver old preserved (fresh c roots info rules)
  | none => fresh c roots info rules

theorem encode_update (h : c.args.action = .update) (existing : Option Members) :
    encode c roots info rules (existing.map .obj) = .obj (updated c roots info rules existing) := by
  unfold encode updated
  rw [h]
  cases existing <;> rfl

theorem sorted_updated (existing : Option Members) :
    (updated c roots info rules existing).Sorted := by
  have hfresh : (fresh c roots info rules).Sorted := Members.sorted_ofList _
  cases existing with
  | none => exact hfresh
  | some old => exact sorted_takeOver old preserved hfresh

/-- A configuration that is written is read as an object with members of the same names. -/
theorem ofText?_text {ms : Members} (h : ms.Sorted) :
    ofText? (text (.obj ms)) = (Json.rereadMembers? ms (Json.depthLimit - 1)).map .obj := by
  have hparse : Json.parse? (text (.obj ms)) =
      (Json.rereadMembers? ms (Json.depthLimit - 1)).map .obj := by
    rw [← Json.rereadAt?_obj h]
    exact Json.parse?_pretty_append blank_indent blank_end (.obj ms)
  rw [ofText?, hparse]
  cases Json.rereadMembers? ms (Json.depthLimit - 1) <;> rfl

/-- A configuration whose values are all read back is read as it was written. -/
theorem ofText?_text_self {ms : Members} (h : ms.Sorted)
    (hall : ∀ m ∈ ms, m.2.rereadAt? (Json.depthLimit - 1) = some m.2) :
    ofText? (text (.obj ms)) = some (.obj ms) := by
  rw [ofText?_text h, Json.rereadMembers?_eq_self hall, Option.map_some]

/-- Where nothing is found, the settings in what is written are those by default. -/
theorem find?_text_updated_none
    (hreads : (Json.rereadMembers? (updated c roots info rules none)
      (Json.depthLimit - 1)).isSome = true) :
    ∃ new, ofText? (text (.obj (updated c roots info rules none))) = some (.obj new) ∧
      ∀ f ∈ preserved, Members.find? f new = defaults.find? f := by
  obtain ⟨new, hnew⟩ := Option.isSome_iff_exists.1 hreads
  refine ⟨new, ?_, fun f hf => ?_⟩
  · rw [ofText?_text (sorted_updated none), hnew, Option.map_some]
  · rw [Json.find?_of_rereadMembers? hnew, updated, find?_fresh hf, rereadAt?_defaults]

/-- Each setting of `old` that updates take over is in the configuration with this text. -/
def Keeps (old : Members) (content : Option String) : Prop :=
  ∃ new, content.bind ofText? = some (.obj new) ∧
    ∀ f ∈ preserved, ∀ v, old.find? f = some v → Members.find? f new = some v

theorem keeps_text_iff {old ms : Members} (h : ms.Sorted) :
    Keeps old (some (text (.obj ms))) ↔
      (Json.rereadMembers? ms (Json.depthLimit - 1)).isSome = true ∧
        ∀ f ∈ preserved, ∀ v, old.find? f = some v →
          ((ms.find? f).bind fun w => w.rereadAt? (Json.depthLimit - 1)) = some v := by
  have htext : ((some (text (.obj ms))).bind ofText?) =
      (Json.rereadMembers? ms (Json.depthLimit - 1)).map .obj := ofText?_text h
  rw [Keeps, htext]
  cases hread : Json.rereadMembers? ms (Json.depthLimit - 1) with
  | none => simp
  | some ns =>
    simp only [Option.map_some, Option.some.injEq, Json.obj.injEq, exists_eq_left',
      Option.isSome_some, true_and, Json.find?_of_rereadMembers? hread]

/-- Settings are kept in the text of an update just if it can be read and they can, as they are or,
where they were not found, as they are by default. -/
theorem keeps_text_updated_iff (old : Members) (removed : Bool) :
    Keeps old (some (text (.obj
        (updated c roots info rules (if removed then none else some old))))) ↔
      (Json.rereadMembers? (updated c roots info rules (if removed then none else some old))
          (Json.depthLimit - 1)).isSome = true ∧
        ∀ f ∈ preserved, ∀ v, old.find? f = some v →
          (if removed then defaults.find? f else v.rereadAt? (Json.depthLimit - 1)) = some v := by
  rw [keeps_text_iff (sorted_updated _)]
  refine and_congr_right fun _ => ?_
  refine forall₂_congr fun f hf => forall₂_congr fun v hv => ?_
  cases removed with
  | true =>
    rw [if_pos rfl, if_pos rfl, updated, find?_fresh hf, rereadAt?_defaults]
  | false =>
    rw [if_neg Bool.false_ne_true, if_neg Bool.false_ne_true, updated, find?_takeOver, if_pos hf,
      hv, Option.some_or, Option.bind_some]

end ServerConfig

namespace RunSetup

/-- After an update that succeeds, the settings that were there are found unchanged just if no
purge has removed them, or they are those by default, and what is written can be read. Where the
run writes its configuration to another place than it reads it at, all that matters is that they
are not removed. Only a purge removes anything, and then a directory that the settings lie in. -/
theorem run_keeps_settings_iff {σ : Type} {view : σ → Journal} {u : RunSetup (StateM σ)}
    {r : Refusals} (hhost : u.host.Follows view (Journal.host r)) (c : RunConfig) (s : Spec) (w : σ)
    (hstart : (view w).calls = []) (hrooted : (view w).files.Rooted)
    (hupdate : c.args.action = .update) (hincremental : c.args.isIncremental = true)
    (content : String) (hcontent : (view w).files.readText (serverPath c) = some content)
    (old : Members) (hold : ServerConfig.ofText? content = some (.obj old))
    (hentries : ∀ e ∈ u.entries c s,
      (view w).files.destination (target e.1) ≠ (view w).files.destination (serverPath c))
    (rep : RunReport) (hok : ((u.run c s).run w).1 = .ok rep) :
    let before := (view w).files
    let after := view ((u.run c s).run w).2
    let place := before.destination (serverPath c)
    let removed := after.calls.any (Call.takesAway place)
    let written := ServerConfig.updated c (roots c s) s.info
      (ServerRule.sorted (viewRules c s) (mockRules c s)) (if removed then none else some old)
    (ServerConfig.Keeps old (after.files.readText (serverPath c)) ↔
      if before.destination (target (serverPath c)) = place then
        (Json.rereadMembers? written (Json.depthLimit - 1)).isSome = true ∧
          ∀ f ∈ ServerConfig.preserved, ∀ v, old.find? f = some v →
            (if removed then ServerConfig.defaults.find? f
              else v.rereadAt? (Json.depthLimit - 1)) = some v
      else removed = false) ∧
    ∀ call ∈ after.calls, call.takesAway place = true →
      (u.policy c).purgeGenerated = true ∧
        ∃ p, call.request = .removeDirAll p ∧ before.destination p <+: place := by
  intro before after place removed written
  obtain ⟨husable, hfound⟩ := FileTree.fileAt?_of_readText hcontent
  obtain ⟨hread, habove⟩ := run_readText_serverPath hhost c s w hstart hrooted hincremental husable
    hentries hok
  refine ⟨?_, habove⟩
  rw [hread, hfound, serverLeft]
  split
  · have hexisting : (if removed then none else some content).bind ServerConfig.ofText? =
        (if removed then none else some old).map .obj := by
      cases removed with
      | true => rfl
      | false => exact hold
    rw [← ServerConfig.keeps_text_updated_iff, hexisting, serverText,
      ServerConfig.encode_update hupdate]
  · change ServerConfig.Keeps old (if removed then none else some content) ↔ removed = false
    cases removed with
    | true => simp [ServerConfig.Keeps]
    | false => simp [ServerConfig.Keeps, hold]

/-- A port that the user has chosen is kept where nothing is purged. -/
theorem run_update_keeps_port :
    let u : RunSetup (StateM Journal) :=
      { host := Journal.host {}, provider := .ofTypes 3, change := .all }
    let c : RunConfig :=
      { args := { action := .update, key := some "k" }
        outputRoot := .ofString "out", configRoot := .ofString "conf" }
    let old : Members := [("port", Json.int 9000)]
    let before : FileTree :=
      { entries := [(["conf".toList], .directory),
          (["conf".toList, ServerConfig.serverFile.chars],
            .file (ServerConfig.text (.obj old)))] }
    ServerConfig.Keeps old
      (((u.run c {}).run ⟨before, []⟩).2.files.readText (serverPath c)) := by
  intro u c old before
  have hfollows := Journal.host_follows_self {}
  have hrooted : before.Rooted := .of_entries (by decide +kernel)
  have hcontent : before.readText (serverPath c) = some (ServerConfig.text (.obj old)) := by
    decide +kernel
  have hport : (Number.int 9000).reread? = some (.int 9000) := by decide
  have hold : ServerConfig.ofText? (ServerConfig.text (.obj old)) = some (.obj old) :=
    ServerConfig.ofText?_text_self (by simp [old, Members.Sorted])
      (by simp [old, Json.rereadAt?, Json.int, hport])
  have hentries : ∀ e ∈ u.entries c {},
      before.destination (target e.1) ≠ before.destination (serverPath c) := by
    decide +kernel
  have hdone : ((u.carryOut (Journal.host {}) c {}).run (id ⟨before, []⟩)).1.toOption.any
      (fun _ => true) = true := by
    decide +kernel
  obtain ⟨rep, hok, -⟩ := run_ok_of_any (u := u) hfollows (fun _ _ => rfl)
    (Journal.not_refusesUpdate {}) c {} ⟨before, []⟩ hdone
  obtain ⟨hkeeps, habove⟩ := run_keeps_settings_iff (u := u) hfollows c {} ⟨before, []⟩ rfl hrooted
    rfl rfl _ hcontent old hold hentries rep hok
  simp only [id_eq] at hkeeps habove
  -- a platform without tracked files is not purged, and only a purge takes the file away
  have hpurges : (u.policy c).purgeGenerated = false := by decide +kernel
  have hstays : ((u.run c {}).run ⟨before, []⟩).2.calls.any
      (Call.takesAway (before.destination (serverPath c))) = false := by
    rw [List.any_eq_false]
    intro call hcall htakes
    exact absurd (habove call hcall htakes).1 (by simp [hpurges])
  have hplace : before.destination (target (serverPath c)) = before.destination (serverPath c) := by
    decide +kernel
  simp only [hstays, hplace, if_true, Bool.false_eq_true, if_false] at hkeeps
  have hreads : (Json.rereadMembers? (ServerConfig.updated c (roots c {}) {}
      (ServerRule.sorted (viewRules c {}) (mockRules c {})) (some old))
      (Json.depthLimit - 1)).isSome = true := by
    decide +kernel
  apply hkeeps.2
  constructor
  · exact hreads
  · intro f _ v hv
    have hvalue : v = Json.int 9000 := by
      simp only [old, Members.find?] at hv
      split at hv
      · exact (Option.some.inj hv).symm
      · cases hv
    rw [hvalue]
    simp [Json.rereadAt?, Json.int, hport]

/-- An update for a platform that tracks generated files removes the directory of an interface
node, and with it a configuration that lies below, before it is read. -/
theorem run_resets_port :
    let u : RunSetup (StateM Workspace) :=
      { host := Workspace.host.refusing {}, provider := .ofTypes 3
        change := { interfaces := true } }
    let c : RunConfig :=
      { args := { action := .update, key := some "k", platform := .ios
                  iosProjectPath := some (.ofString "ios") }
        outputRoot := .ofString "out", configRoot := .ofString "out/.stubsmith" }
    let s : Spec :=
      { docs := [.file ⟨2, "{{interface.name}}.txt", none, .interface, "I"⟩]
        interfaces := [{ id := 1, name := "getA", method := "GET", path := "/a" }] }
    let old : Members := [("port", Json.int 9000)]
    let before : FileTree :=
      { entries := [(["out".toList], .directory), (["out".toList, ".stubsmith".toList], .directory),
          (["out".toList, ".stubsmith".toList, ServerConfig.serverFile.chars],
            .file (ServerConfig.text (.obj old)))] }
    (∃ rep, ((u.run c s).run { files := before }).1 = .ok rep) ∧
      ((before.readText (serverPath c)).bind ServerConfig.ofText? = some (.obj old)) ∧
      (∀ e ∈ u.entries c s, before.destination (target e.1) ≠ before.destination (serverPath c)) ∧
      ∃ new, ((((u.run c s).run { files := before }).2.files.readText (serverPath c)).bind
          ServerConfig.ofText?) = some (.obj new) ∧
        Members.find? "port" new = some (Json.int 8002) := by
  intro u c s old before
  have hport : (Number.int 9000).reread? = some (.int 9000) := by decide
  have hold : ServerConfig.ofText? (ServerConfig.text (.obj old)) = some (.obj old) :=
    ServerConfig.ofText?_text_self (by simp [old, Members.Sorted])
      (by simp [old, Json.rereadAt?, Json.int, hport])
  have hcontent : before.readText (serverPath c) = some (ServerConfig.text (.obj old)) := by
    decide +kernel
  have hentries : ∀ e ∈ u.entries c s,
      before.destination (target e.1) ≠ before.destination (serverPath c) := by
    decide +kernel
  have hrooted : before.Rooted := .of_entries (by decide +kernel)
  -- the same run, with a journal kept
  let kept := u.onHost (Journal.host {})
  have hworkspace := Workspace.host_refusing_follows {}
  have hfiles : ((u.run c s).run { files := before }).2.files =
      ((kept.run c s).run ⟨before, []⟩).2.files :=
    (run_settles (u := u) hworkspace (fun _ _ => rfl) c s { files := before }).1.trans
      (run_settles (u := kept) (Journal.host_follows {}) (fun _ _ => rfl) c s
        ⟨before, []⟩).1.symm
  have hdone : ((u.carryOut (FileTree.host {}) c s).run before).1.toOption.any
      (fun _ => true) = true := by
    decide +kernel
  obtain ⟨rep, hok, -⟩ := run_ok_of_any (u := u) hworkspace (fun _ _ => rfl)
    (Workspace.not_refusesUpdate {}) c s { files := before } hdone
  obtain ⟨rep', hkept, -⟩ := run_ok_of_any (u := kept) (Journal.host_follows {}) (fun _ _ => rfl)
    (Journal.not_refusesUpdate {}) c s ⟨before, []⟩ hdone
  have hjournal := Journal.host_follows_self {}
  have hremoved : ((kept.carryOut (Journal.host {}) c s).run (id ⟨before, []⟩)).2.calls.any
      (Call.takesAway (before.destination (serverPath c))) = true := by
    decide +kernel
  rw [← (run_settles (u := kept) hjournal (fun _ _ => rfl) c s ⟨before, []⟩).1] at hremoved
  obtain ⟨hread, -⟩ := run_readText_serverPath (u := kept) hjournal c s ⟨before, []⟩ rfl hrooted rfl
    (FileTree.fileAt?_of_readText hcontent).1 hentries hkept
  simp only [id_eq] at hread hremoved
  -- what is written is the configuration by default
  have hplace : before.destination (target (serverPath c)) = before.destination (serverPath c) := by
    decide +kernel
  let made := ServerConfig.updated c (roots c s) s.info
    (ServerRule.sorted (viewRules c s) (mockRules c s)) none
  have hencode : ServerConfig.encode c (roots c s) s.info
      (ServerRule.sorted (viewRules c s) (mockRules c s)) none = .obj made :=
    ServerConfig.encode_update rfl none
  have hreads : (Json.rereadMembers? made (Json.depthLimit - 1)).isSome = true := by
    decide +kernel
  obtain ⟨new, hnew, hdefault⟩ := ServerConfig.find?_text_updated_none hreads
  rw [hremoved, if_pos rfl, serverLeft, if_pos hplace, Option.bind_none, serverText, hencode]
    at hread
  refine ⟨⟨rep, hok⟩, ?_, hentries, new, ?_, ?_⟩
  · rw [hcontent, Option.bind_some, hold]
  · rw [hfiles, hread, Option.bind_some, hnew]
  · exact hdefault "port" (by decide)

end RunSetup

end Scaffold

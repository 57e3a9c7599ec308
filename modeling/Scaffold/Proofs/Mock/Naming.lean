import Mathlib
import Scaffold.Proofs.Output.Join
import Scaffold.Proofs.Plan.Written

/-!
# Rules and the files they lead to

A rule tells where an interface's payload is by the text from which the place of its files is
worked out. That text is taken as it stands, while the files go where a rendered name goes.
-/

namespace Scaffold

open WriteDirective (target first?)

namespace Path

/-- A last segment in which nothing can be dropped. -/
structure IsEnding (tail : List Char) : Prop where
  plain : IsPlain tail
  solid : ∀ c ∈ tail, isDivider c = false ∧ Text.isBlank c = false
  unmarked : first? tail = none

section

variable {front tail : List Char}

theorem trim_append_slash (h : IsEnding tail) :
    Text.trim (front ++ '/' :: tail) = Text.trimStart front ++ '/' :: tail := by
  have hslash : Text.isBlank '/' = false := by decide
  have hstart : Text.trimStart (front ++ '/' :: tail) = Text.trimStart front ++ '/' :: tail := by
    simp only [Text.trimStart, List.dropWhile_append, List.dropWhile_cons, hslash]
    split
    · rename_i hempty
      rw [List.isEmpty_iff.1 hempty]
      rfl
    · rfl
  obtain ⟨c, rest, hrev⟩ := List.exists_cons_of_ne_nil (List.reverse_ne_nil_iff.2 h.plain.1)
  have hc : Text.isBlank c = false := (h.solid c (List.mem_reverse.1 (by simp [hrev]))).2
  rw [Text.trim, hstart, Text.trimEnd, List.reverse_append, List.reverse_cons, hrev]
  rw [List.cons_append, List.cons_append, List.dropWhile_cons_of_neg (by simp [hc]),
    ← List.cons_append, ← List.cons_append, ← hrev, ← List.reverse_cons, ← List.reverse_append,
    List.reverse_reverse]

theorem renderedNames_append_slash (h : IsEnding tail) :
    renderedNames (front ++ '/' :: tail) =
      (stackSegments [] (Text.splitBy isDivider (Text.trimStart front))).reverse ++ [tail] := by
  obtain ⟨hempty, hhere, hup, -⟩ := h.plain
  have htail : Text.splitBy isDivider tail = [tail] :=
    Text.splitBy_of_forall_not fun c hc => (h.solid c hc).1
  rw [renderedNames, trim_append_slash h, Text.splitBy_append_cons (by rfl), htail,
    stackSegments_append, stackSegments, if_neg (by simp [hempty, hhere]), if_neg hup,
    stackSegments, List.reverse_cons]

/-- The last segment can be made longer before or after joining. -/
theorem joinRendered_appendText (dir : Path) {ending : String} (h : IsEnding tail)
    (h' : IsEnding (tail ++ ending.toList)) :
    (dir.joinRendered (String.ofList (front ++ '/' :: tail))).appendText ending =
      dir.joinRendered (String.ofList (front ++ '/' :: (tail ++ ending.toList))) := by
  have hjoin : ∀ {t : List Char}, IsEnding t → dir.joinRendered
      (String.ofList (front ++ '/' :: t)) = ⟨(dir.joinAll (stackSegments []
        (Text.splitBy isDivider (Text.trimStart front))).reverse).lead ++ t⟩ := by
    intro t ht
    rw [joinRendered, String.toList_ofList, renderedNames_append_slash ht, joinAll,
      List.foldl_append, List.foldl_cons, List.foldl_nil, ← joinAll,
      join_eq _ (isAbsolute_of_plain ht.plain)]
  rw [hjoin h, hjoin h', appendText, List.append_assoc]

theorem joinsPlainly_append_slash_iff {dir : Path} (h : IsEnding tail) :
    JoinsPlainly dir (front ++ '/' :: tail) ↔
      first? dir.chars = none ∧ first? front = none ∧ '\\' ∉ front ∧
        Text.trimStart front = front ∧
        (dir.chars = [] → ∀ rest, Text.splitBy isSlash front ≠ ['.'] :: rest) := by
  have hback : '\\' ∉ tail := fun hmem => absurd (h.solid _ hmem).1 (by decide)
  have hsplit : Text.splitBy isSlash (front ++ '/' :: tail) =
      Text.splitBy isSlash front ++ [tail] := by
    rw [Text.splitBy_append_cons (by rfl), Text.splitBy_of_forall_not h.plain.2.2.2]
  have hfirst : first? (front ++ '/' :: tail) = first? front := by
    rw [WriteDirective.first?_append_slash, h.unmarked, Option.or_none]
  obtain ⟨first, others, hfront⟩ :=
    List.exists_cons_of_ne_nil (Text.splitBy_ne_nil isSlash front)
  constructor
  · rintro ⟨hdir, hmarkers, hnone, htrim, hhere⟩
    refine ⟨hdir, hfirst ▸ hmarkers, fun hmem => hnone (List.mem_append_left _ hmem), ?_,
      fun hempty rest heq => ?_⟩
    · rw [trim_append_slash h] at htrim
      exact List.append_cancel_right htrim
    · exact hhere hempty (rest ++ [tail]) (by rw [hsplit, heq, List.cons_append])
  · rintro ⟨hdir, hmarkers, hnone, htrim, hhere⟩
    refine ⟨hdir, hfirst.trans hmarkers, by simp [hnone, hback], ?_, fun hempty rest heq => ?_⟩
    · rw [trim_append_slash h, htrim]
    · rw [hsplit, hfront, List.cons_append] at heq
      refine hhere hempty others ?_
      rw [hfront, (List.cons_eq_cons.1 heq).1]

end

end Path

namespace Mock

/-- Where a file of an interface's mock data goes. -/
def dataTarget (root : Path) (i : Interface) (ending : String) : Path :=
  target ((root.joinRendered (mockFile i)).appendText ending)

/-- The place of every interface ends with the same name. -/
theorem mockFile_ends (i : Interface) :
    ∃ front, (mockFile i).toList = front ++ '/' :: "data".toList := by
  have hlast : ∃ names, dataSegments i.path.toList = names ++ ["data".toList] := by
    refine ⟨(Text.splitBy isSlash (spreadMarks i.path.toList)).filter counts, ?_⟩
    have hwhole : spreadMarks i.path.toList ++ "/data".toList =
        spreadMarks i.path.toList ++ '/' :: "data".toList := rfl
    have hdata : Text.splitBy isSlash "data".toList = ["data".toList] := by decide
    rw [dataSegments, hwhole, Text.splitBy_append_cons (by rfl), List.filter_append, hdata]
    rfl
  obtain ⟨names, hnames⟩ := hlast
  have htext : (mockFile i).toList =
      methodName i ++ '/' :: Text.joinWith ['/'] (names ++ ["data".toList]) := by
    simp [mockFile, dataPath, hnames]
  by_cases hempty : names = []
  · exact ⟨methodName i, by rw [htext, hempty]; rfl⟩
  · refine ⟨methodName i ++ '/' :: Text.joinWith ['/'] names, ?_⟩
    rw [htext, Text.joinWith_concat _ _ hempty]
    simp only [List.append_assoc, List.cons_append, List.nil_append]

/-- What may come of a file. -/
def OutcomeAt (p : Path) (result : Option WriteOutcome) : Prop :=
  result = none ∨ result = some (.written p) ∨ result = some (.keptExisting p)

theorem put_outcome (r : Refusals) (overwrite : Bool) (path : Path) (content : String)
    (j : Journal) :
    OutcomeAt (target path) ((Journal.host r).put overwrite path content j).1 := by
  rcases Journal.put_recorded r overwrite path content j with ⟨hresult, -⟩ | ⟨hresult | hresult, -⟩
  · exact .inr (.inl hresult)
  · exact .inl hresult
  · exact .inr (.inr hresult)

/-- Each interface has an outcome for its payload and one for its filter. -/
theorem putAll_outcomes (r : Refusals) (overwrite : Bool) (p : MockProvider) (s : Spec)
    (root : Path) (is : List Interface) (rep : Report) (j : Journal) :
    ∃ results : List (Option WriteOutcome × Option WriteOutcome),
      List.Forall₂ (fun i result => OutcomeAt (dataTarget root i ".json") result.1 ∧
        OutcomeAt (dataTarget root i ".js") result.2) is results ∧
      ((Journal.host r).putAll overwrite (interfaceEntries p s root is) rep j).1 =
        results.foldl (fun rep result => (rep.record result.1).record result.2) rep := by
  induction is generalizing rep j with
  | nil => exact ⟨[], .nil, rfl⟩
  | cons i is ih =>
    have hentries : interfaceEntries p s root (i :: is) =
        ((root.joinRendered (mockFile i)).appendText ".json", payloadText (interfaceJson p s i)) ::
          ((root.joinRendered (mockFile i)).appendText ".js", defaultFilter) ::
            interfaceEntries p s root is := by
      simp [interfaceEntries, pairEntries]
    have hjson := put_outcome r overwrite ((root.joinRendered (mockFile i)).appendText ".json")
      (payloadText (interfaceJson p s i)) j
    have hjs := fun j => put_outcome r overwrite
      ((root.joinRendered (mockFile i)).appendText ".js") defaultFilter j
    rw [← dataTarget] at hjson
    conv at hjs => intro j; rw [← dataTarget]
    rw [hentries, Host.putAll_cons, stateM_bind, Host.putAll_cons, stateM_bind]
    generalize (Journal.host r).put overwrite
      ((root.joinRendered (mockFile i)).appendText ".json") (payloadText (interfaceJson p s i)) j =
        json at hjson ⊢
    have hjs := hjs json.2
    generalize (Journal.host r).put overwrite
      ((root.joinRendered (mockFile i)).appendText ".js") defaultFilter json.2 = js at hjs ⊢
    obtain ⟨results, hresults, hreport⟩ := ih ((rep.record json.1).record js.1) js.2
    exact ⟨(json.1, js.1) :: results, .cons ⟨hjson, hjs⟩ hresults, hreport⟩

/-! ## Where a rule leads -/

theorem isEnding_data (ending : String) (h : ending = "" ∨ ending = ".json" ∨ ending = ".js") :
    Path.IsEnding ("data".toList ++ ending.toList) := by
  refine ⟨?_, ?_, ?_⟩
  · rcases h with rfl | rfl | rfl <;> simp [Path.IsPlain, Path.isSlash]
  · rcases h with rfl | rfl | rfl <;> simp [Path.isDivider, Text.isBlank]
  · rcases h with rfl | rfl | rfl <;> decide

/-- A rule leads to the files of its interface, if it leads into the root at all, just if nothing
of it is dropped when they are put there. -/
theorem same_dataTarget_iff (root : Path) (i : Interface) {ending : String}
    (h : ending = "" ∨ ending = ".json" ∨ ending = ".js")
    (hrel : (Path.ofString (mockFile i)).isAbsolute = false)
    (hup : ['.', '.'] ∉ Text.splitBy Path.isSlash (mockFile i).toList) :
    (dataTarget root i ending).same (root.join (.ofString (mockFile i ++ ending))) = true ↔
      root.JoinsPlainly (mockFile i).toList := by
  obtain ⟨front, hfront⟩ := mockFile_ends i
  have hdata : Path.IsEnding "data".toList := isEnding_data "" (.inl rfl)
  have hlong := isEnding_data ending h
  have htarget : dataTarget root i ending = target (root.joinRendered
      (String.ofList (front ++ '/' :: ("data".toList ++ ending.toList)))) := by
    rw [dataTarget, ← Path.joinRendered_appendText root hdata hlong, ← hfront,
      String.ofList_toList]
  have htext : Path.ofString (mockFile i ++ ending) =
      ⟨front ++ '/' :: ("data".toList ++ ending.toList)⟩ := by
    rw [Path.ofString, String.toList_append, hfront, List.append_assoc, List.cons_append]
  have hslash : ∀ tail : List Char, front ++ '/' :: tail = (front ++ ['/']) ++ tail := by simp
  have hrel' : (⟨front ++ '/' :: ("data".toList ++ ending.toList)⟩ : Path).isAbsolute =
      false := by
    rw [Path.ofString, hfront, hslash, Path.isAbsolute_append (by simp)] at hrel
    rw [hslash, Path.isAbsolute_append (by simp), hrel]
  have hup' : ['.', '.'] ∉ Text.splitBy Path.isSlash
      (front ++ '/' :: ("data".toList ++ ending.toList)) := by
    rw [hfront, Text.splitBy_append_cons (by rfl), List.mem_append, not_or] at hup
    rw [Text.splitBy_append_cons (by rfl), List.mem_append, not_or,
      Text.splitBy_of_forall_not hlong.plain.2.2.2, List.mem_singleton]
    exact ⟨hup.1, hlong.plain.2.2.1.symm⟩
  rw [htarget, htext, Path.same_target_joinRendered_iff hrel' hup', hfront,
    Path.joinsPlainly_append_slash_iff hlong, Path.joinsPlainly_append_slash_iff hdata]

/-- The rules of interfaces are theirs in order, and each interface's two files are written, kept
or failed at their targets. A rule without `..` that leads into the root leads to these targets
just if nothing of it is dropped when the files are put there: neither it nor the root holds a
marker, it has no backslash and does not begin with a blank, nor with a `.` in a root that is
empty. -/
theorem rules_lead_to_files_iff {σ : Type} {view : σ → Journal} {r : Refusals}
    {w : Setup (StateM σ)} (hhost : w.host.Follows view (Journal.host r)) (s : Spec)
    (root : Path) (st : σ) :
    let out := writeInterfaces w s root s.interfaces {} st
    out.1.1 = s.interfaces.map ruleOf ∧
      (∃ results : List (Option WriteOutcome × Option WriteOutcome),
        List.Forall₂ (fun i result => OutcomeAt (dataTarget root i ".json") result.1 ∧
          OutcomeAt (dataTarget root i ".js") result.2) s.interfaces results ∧
        out.1.2 =
          results.foldl (fun rep result => (rep.record result.1).record result.2) {}) ∧
      (view out.2).writes.map Prod.fst = (view st).writes.map Prod.fst ++ out.1.2.written ∧
      ∀ i ∈ s.interfaces,
        let named := (ruleOf i).mockFile
        ((∀ ending ∈ [".json", ".js"],
            (dataTarget root i ending).same (root.join (.ofString (named ++ ending))) = true) ∧
          (Path.ofString named).isAbsolute = false ∧
          ['.', '.'] ∉ Text.splitBy Path.isSlash named.toList ↔
        root.JoinsPlainly named.toList ∧ (Path.ofString named).isAbsolute = false ∧
          ['.', '.'] ∉ Text.splitBy Path.isSlash named.toList) := by
  intro out
  obtain ⟨hresult, hview⟩ := writeInterfaces_follows hhost s root s.interfaces {} st
  obtain ⟨results, hresults, hreport⟩ :=
    putAll_outcomes r w.overwrite w.provider s root s.interfaces {} (view st)
  obtain ⟨done, -, hwrites, hwritten⟩ := Writes.putAll r w.overwrite
    (interfaceEntries w.provider s root s.interfaces) {} (view st)
  refine ⟨congrArg Prod.fst hresult, ⟨results, hresults, ?_⟩, ?_, fun i _ => ?_⟩
  · exact (congrArg Prod.snd hresult).trans hreport
  · have hsame : out.1.2.written = done.map fun e => target e.1 := by
      rw [show out.1.2 = _ from congrArg Prod.snd hresult]
      simpa using hwritten
    rw [hsame, show view out.2 = _ from hview, stateM_map, hwrites, List.map_append,
      List.map_map]
    rfl
  · intro named
    constructor
    · rintro ⟨hsame, hrel, hup⟩
      refine ⟨?_, hrel, hup⟩
      exact (same_dataTarget_iff root i (.inr (.inl rfl)) hrel hup).1 (hsame _ (by simp))
    · rintro ⟨hplain, hrel, hup⟩
      refine ⟨fun ending hending => ?_, hrel, hup⟩
      have hcases : ending = "" ∨ ending = ".json" ∨ ending = ".js" :=
        .inr (by simpa using hending)
      exact (same_dataTarget_iff root i hcases hrel hup).2 hplain

theorem rule_leads_to_files :
    let w : Setup (StateM Journal) :=
      { host := Journal.host {}, overwrite := false, provider := .ofTypes 3 }
    let i : Interface := { id := 1, name := "getUser", method := "GET", path := "/user/:id" }
    let root := Path.ofString "mock"
    (writeInterfaces w { interfaces := [i] } root [i] {} ⟨{}, []⟩).1.1.map MockRule.mockFile =
        ["get/user/_/id/data"] ∧
      ∀ ending ∈ [".json", ".js"], (dataTarget root i ending).same
        (root.join (.ofString ("get/user/_/id/data" ++ ending))) = true := by
  intro w i root
  have hfile : (ruleOf i).mockFile = "get/user/_/id/data" := by decide +kernel
  obtain ⟨hrules, -, -, hiff⟩ := rules_lead_to_files_iff (w := w) (Journal.host_follows_self {})
    { interfaces := [i] } root ⟨{}, []⟩
  have hplain : root.JoinsPlainly "get/user/_/id/data".toList := by
    refine ⟨by decide, by decide, by decide, ?_, fun hempty => ?_⟩
    · simp [Text.trim, Text.trimStart, Text.trimEnd, Text.isBlank]
    · exact absurd hempty (by decide)
  have hleads := (hiff i (by simp)).2
  simp only [hfile] at hleads
  obtain ⟨hsame, -, -⟩ := hleads ⟨hplain, by decide, by decide⟩
  exact ⟨by rw [hrules, List.map_singleton, List.map_singleton, hfile], hsame⟩

/-- The rule keeps a `..` that takes back other segments when the files are put there. -/
theorem rule_misses_files :
    let w : Setup (StateM Workspace) :=
      { host := Workspace.host.refusing {}, overwrite := false, provider := .ofTypes 3 }
    let i : Interface := { id := 1, name := "getB", method := "GET", path := "/../../b" }
    let root := Path.ofString "mock"
    let out := writeInterfaces w { interfaces := [i] } root [i] {} {}
    out.1.1.map MockRule.mockFile = ["get/../../b/data"] ∧
      out.1.2.written = [.ofString "mock/b/data.json", .ofString "mock/b/data.js"] ∧
      (Path.ofString "mock/b/data.json").same
        (root.join (.ofString ("get/../../b/data" ++ ".json"))) = false ∧
      ['.', '.'] ∈ Text.splitBy Path.isSlash "get/../../b/data".toList := by
  intro w i root out
  exact ⟨by decide +kernel, by decide +kernel, by decide +kernel, by decide +kernel⟩

end Mock

end Scaffold

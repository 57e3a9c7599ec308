import Mathlib
import Scaffold.Proofs.Mock.File
import Scaffold.Proofs.Plan.Settled
import Scaffold.Proofs.Run.ServerFile

/-!
# Interfaces that share their mock files

Methods are written in lower case and addresses are cut at slashes and marks to become places, so
different interfaces can come to the same place. They do just if their places render to the same
names. Then one file is put over the other, and the last interface decides what the payload of all
of them is.
-/

namespace Scaffold

open WriteDirective (first? withoutMarkers)

theorem Path.components_lead_append_joinWith {front : List Char} {names : List (List Char)}
    (hfront : IsLead front) (hplain : ∀ n ∈ names, IsPlain n) :
    (⟨front ++ Text.joinWith ['/'] names⟩ : Path).components =
      (⟨front⟩ : Path).components ++ names.map .name := by
  rw [← innerComponents_of_plain hplain]
  rcases hfront with rfl | hlast
  · cases names with
    | nil => rfl
    | cons n names => exact components_joinWith hplain
  · rw [components_append hlast, splitBy_joinWith_slash fun n hn => (hplain n hn).2.2.2]

namespace MockFile

variable {f g : MockFile}

theorem unmarked_names_iff :
    (∀ n ∈ f.names, first? n = none) ↔
      ∀ n ∈ Path.renderedNames f.stem.toList, first? n = none := by
  have hending : ∀ last : List Char,
      first? (last ++ f.part.ending.toList) = none ↔ first? last = none := by
    intro last
    obtain ⟨rest, hending, hnone⟩ := f.part.exists_dot
    rw [hending, WriteDirective.first?_append_foreign (by decide), hnone, Option.or_none]
  rcases f.names_cases with ⟨hstem, hnames⟩ | ⟨front, last, hstem, hnames⟩
  · simp [hstem, hnames]
  · simp [hstem, hnames, hending, or_imp, forall_and]

theorem names_eq_iff (hpart : f.part = g.part) :
    f.names = g.names ↔
      Path.renderedNames f.stem.toList = Path.renderedNames g.stem.toList := by
  constructor
  · intro h
    rcases f.names_cases with ⟨hstem, hnames⟩ | ⟨front, last, hstem, hnames⟩
    · rw [hnames] at h
      rw [hstem, g.names_eq_nil_iff.1 h.symm]
    · rcases g.names_cases with ⟨-, hnames'⟩ | ⟨front', last', hstem', hnames'⟩
      · rw [hnames, hnames'] at h
        simp at h
      · rw [hnames, hnames', hpart] at h
        obtain ⟨hfront, hlast⟩ := List.append_inj' h rfl
        rw [hstem, hstem', hfront, List.append_cancel_right (List.singleton_inj.1 hlast)]
  · intro h
    rw [names, names, h, hpart]

/-- Without markers in them, the names are gone down from what is left of the root. -/
theorem destination_of_unmarked (t : FileTree) (h : f.names ≠ [])
    (hnames : ∀ n ∈ f.names, first? n = none) :
    t.destination f.target = t.destination ⟨withoutMarkers f.root.lead⟩ ++ f.names := by
  have hpath : f.path = ⟨f.root.lead ++ Text.joinWith ['/'] f.names⟩ := by
    rw [path_eq f h, Plan.Output.path, output, Path.joinRendered, renderedNames_rendered,
      Path.joinAll_eq _ h f.isPlain_of_mem_names]
  have htarget : f.target =
      ⟨withoutMarkers f.root.lead ++ Text.joinWith ['/'] f.names⟩ := by
    have hkept := WriteDirective.withoutMarkers_of_first?_eq_none
      ((WriteDirective.first?_joinWith_eq_none_iff f.names).2 hnames)
    rw [target, hpath, WriteDirective.target, WriteDirective.resolve,
      WriteDirective.withoutMarkers_append (Path.isLead_lead f.root), hkept]
  rw [htarget, FileTree.destination, Path.components_lead_append_joinWith
    (Path.isLead_withoutMarkers f.root) f.isPlain_of_mem_names, FileTree.along_append_names,
    FileTree.destination]

/-- The file with what is done about an older one. -/
def unit (overwrite : Bool) (f : MockFile) : FileUnit :=
  FileUnit.ofEntry overwrite f.entry

end MockFile

namespace Mock

def payloadFile (p : MockProvider) (s : Spec) (root : Path) (i : Interface) : MockFile :=
  ⟨root, mockFile i, .payload, payloadText (interfaceJson p s i)⟩

def filterFile (root : Path) (i : Interface) : MockFile :=
  ⟨root, mockFile i, .filter, defaultFilter⟩

variable {p : MockProvider} {s : Spec} {root : Path}

theorem interfaceFiles_cons (i : Interface) (is : List Interface) :
    interfaceFiles p s root (i :: is) =
      payloadFile p s root i :: filterFile root i :: interfaceFiles p s root is := rfl

/-- All files of interfaces end alike, payloads in one way and filters in another. -/
theorem exists_destination_ends (t : FileTree) (root : Path) (i : Interface) (part : MockPart)
    (content : String) :
    ∃ loc : Location, t.destination (⟨root, mockFile i, part, content⟩ : MockFile).target =
      loc ++ ["data".toList ++ part.ending.toList] := by
  obtain ⟨front, hfront⟩ := mockFile_ends i
  have hdata : Path.IsEnding "data".toList := isEnding_data "" (.inl rfl)
  have hlong := isEnding_data part.ending part.ending_cases
  have hpath : (⟨root, mockFile i, part, content⟩ : MockFile).path =
      (root.joinAll (Path.stackSegments [] (Text.splitBy Path.isDivider
        (Text.trimStart front))).reverse).join ⟨"data".toList ++ part.ending.toList⟩ := by
    rw [MockFile.path, ← String.ofList_toList (s := mockFile i), hfront,
      Path.joinRendered_appendText root hdata hlong, Path.joinRendered, String.toList_ofList,
      Path.renderedNames_append_slash hlong, Path.joinAll, List.foldl_concat, ← Path.joinAll]
  rw [MockFile.target, hpath, FileTree.destination_target_join t _ hlong.plain hlong.unmarked]
  exact ⟨_, rfl⟩

theorem filter_elsewhere (t : FileTree) (i j : Interface) :
    t.destination (filterFile root j).target ≠ t.destination (payloadFile p s root i).target := by
  obtain ⟨loc, hfilter⟩ := exists_destination_ends t root j .filter defaultFilter
  obtain ⟨loc', hpayload⟩ := exists_destination_ends t root i .payload
    (payloadText (interfaceJson p s i))
  rw [filterFile, payloadFile, hfilter, hpayload]
  intro h
  have hlast := List.singleton_inj.1 (List.append_inj' h rfl).2
  exact absurd hlast (by decide)

/-- Interfaces whose places hold no markers share their payloads' place just if these render to the
same names. -/
theorem payload_destination_eq_iff (t : FileTree) (p : MockProvider) (s : Spec) (root : Path)
    {i j : Interface}
    (hi : ∀ n ∈ Path.renderedNames (mockFile i).toList, first? n = none)
    (hj : ∀ n ∈ Path.renderedNames (mockFile j).toList, first? n = none) :
    t.destination (payloadFile p s root i).target = t.destination (payloadFile p s root j).target ↔
      Path.renderedNames (mockFile i).toList = Path.renderedNames (mockFile j).toList := by
  have hnames : ∀ k : Interface, (payloadFile p s root k).names ≠ [] := by
    intro k
    have hmem : payloadFile p s root k ∈ interfaceFiles p s root [k] := by
      rw [interfaceFiles_cons]
      exact List.mem_cons_self
    exact names_ne_nil_of_mem_interfaceFiles hmem
  rw [MockFile.destination_of_unmarked t (hnames i) (MockFile.unmarked_names_iff.2 hi),
    MockFile.destination_of_unmarked t (hnames j) (MockFile.unmarked_names_iff.2 hj)]
  have heq := MockFile.names_eq_iff (f := payloadFile p s root i) (g := payloadFile p s root j) rfl
  exact List.append_right_inj _ |>.trans heq

/-- Filters do not count at the place of a payload. -/
theorem settledAt?_interfaceFiles (t : FileTree) (overwrite : Bool) (i : Interface)
    (is : List Interface) :
    FileUnit.settledAt? t ((interfaceFiles p s root is).map (MockFile.unit overwrite))
        (t.destination (payloadFile p s root i).target) =
      FileUnit.settledAt? t (is.map fun k => (payloadFile p s root k).unit overwrite)
        (t.destination (payloadFile p s root i).target) := by
  apply FileUnit.settledAt?_congr
  induction is with
  | nil => rfl
  | cons k is ih =>
    have hfilter : FileUnit.isAt t (t.destination (payloadFile p s root i).target)
        ((filterFile root k).unit overwrite) = false := by
      rw [← Bool.not_eq_true, FileUnit.isAt_iff]
      exact filter_elsewhere t i k
    rw [interfaceFiles_cons, List.map_cons, List.map_cons, List.map_cons, List.filter_cons,
      List.filter_cons_of_neg (by simp [hfilter]), ih, ← List.filter_cons]

/-- Where no directory is in the way, interfaces leave what their payloads settle. -/
theorem settled_interfaces {r : Refusals} (overwrite : Bool) (s : Spec) (root : Path)
    (rep : Report) {j : Journal} :
    let left := ((Journal.host r).putAll overwrite (interfaceEntries p s root s.interfaces) rep j).2
    (∀ call ∈ left.calls, call.answer = true) → ∀ i,
      left.files.find? (j.files.destination (payloadFile p s root i).target) ≠ some .directory →
        left.files.fileAt? (j.files.destination (payloadFile p s root i).target) =
          FileUnit.settledAt? j.files
            (s.interfaces.map fun k => (payloadFile p s root k).unit overwrite)
            (j.files.destination (payloadFile p s root i).target) := by
  intro left hok i hdir
  have hunits : (interfaceEntries p s root s.interfaces).map (FileUnit.ofEntry overwrite) =
      (interfaceFiles p s root s.interfaces).map (MockFile.unit overwrite) := by
    rw [← map_entry_interfaceFiles, List.map_map]
    rfl
  have hsettled := (Journal.Settles.putAll r overwrite _ rep j).2 hok
  rw [hunits] at hsettled
  rw [hsettled.fileAt?_eq hdir]
  exact settledAt?_interfaceFiles j.files overwrite i s.interfaces

/-- Two interfaces whose places hold no markers share their payload file just if their places
render to the same names. If all that is asked for is done, the file of an interface that
overwrites holds the payload of the last overwriting interface that shares it. Where all that
share it keep what is there, an older file stays, or the first of them decides, unless a directory
has the place. -/
theorem interfaces_share_payload_iff {σ : Type} {view : σ → Journal} {r : Refusals}
    {w : Setup (StateM σ)} (hhost : w.host.Follows view (Journal.host r)) (s : Spec)
    (root : Path) (rep : Report) (t : σ)
    (hok : ∀ call ∈ (view (writeInterfaces w s root s.interfaces rep t).2).calls,
      call.answer = true) :
    let before := (view t).files
    let after := (view (writeInterfaces w s root s.interfaces rep t).2).files
    let payload := fun i => (payloadFile w.provider s root i).unit w.overwrite
    let place := fun i => before.destination (payload i).target
    (∀ i j, (∀ n ∈ Path.renderedNames (mockFile i).toList, first? n = none) →
      (∀ n ∈ Path.renderedNames (mockFile j).toList, first? n = none) →
      (place i = place j ↔
        Path.renderedNames (mockFile i).toList = Path.renderedNames (mockFile j).toList)) ∧
    (∀ i ∈ s.interfaces, (payload i).overwrites = true →
      ∃ front k later, s.interfaces = front ++ k :: later ∧ (payload k).overwrites = true ∧
        place k = place i ∧
        (∀ j ∈ later, (payload j).overwrites = true → place j ≠ place i) ∧
        after.fileAt? (place i) = some (payload k).content) ∧
    ∀ i ∈ s.interfaces,
      (∀ j ∈ s.interfaces, place j = place i → (payload j).overwrites = false) →
      ∃ front k later, s.interfaces = front ++ k :: later ∧ place k = place i ∧
        (∀ j ∈ front, place j ≠ place i) ∧
        (after.find? (place i) = some .directory ∨
          after.fileAt? (place i) =
            (before.fileAt? (place i)).or (some (payload k).content)) := by
  intro before after payload place
  have hview : view (writeInterfaces w s root s.interfaces rep t).2 =
      ((Journal.host r).putAll w.overwrite (interfaceEntries w.provider s root s.interfaces) rep
        (view t)).2 := (writeInterfaces_follows hhost s root s.interfaces rep t).2
  rw [hview] at hok
  have hsettled := settled_interfaces w.overwrite s root rep hok
  rw [← hview] at hsettled
  refine ⟨fun i j hi hj => payload_destination_eq_iff before w.provider s root hi hj,
    fun i hi hover => ?_, fun i hi hkeep => ?_⟩
  · obtain ⟨front, k, later, hsplit, hkover, hkplace, hlater, hlast⟩ :=
      FileUnit.exists_last (t := before) (f := payload) hi hover rfl
    refine ⟨front, k, later, hsplit, hkover, hkplace, hlater, ?_⟩
    -- a file is there, since the one that overwrites was put
    have hentry : (payloadFile w.provider s root i).entry ∈
        interfaceEntries w.provider s root s.interfaces :=
      List.mem_flatMap.2 ⟨i, hi, List.mem_cons_self⟩
    obtain ⟨content, hthere⟩ := Journal.Settles.exists_file_putAll r hok hentry hover
    rw [← hview] at hthere
    have hdir : after.find? (place i) ≠ some .directory := by
      intro hdir
      have hnone : after.fileAt? (place i) = none := FileTree.fileAt?_of_directory hdir
      exact Option.some_ne_none content (hthere.symm.trans hnone)
    exact (hsettled i hdir).trans hlast
  · obtain ⟨front, k, later, hsplit, hkplace, hfront, hfirst⟩ :=
      FileUnit.exists_first (t := before) (f := payload) hi rfl hkeep
    refine ⟨front, k, later, hsplit, hkplace, hfront, ?_⟩
    by_cases hdir : after.find? (place i) = some .directory
    · exact .inl hdir
    · exact .inr ((hsettled i hdir).trans hfirst)

/-- Addresses with other names keep their payloads apart. -/
theorem interface_keeps_own_payload :
    let w : Setup (StateM Journal) :=
      { host := Journal.host {}, overwrite := true, provider := .ofTypes 3 }
    let a : Interface :=
      { id := 1, name := "getA", method := "GET", path := "/a", resFormat := Format.string }
    let b : Interface :=
      { id := 2, name := "getB", method := "GET", path := "/b", resFormat := Format.number }
    let s : Spec := { interfaces := [a, b] }
    let root := Path.ofString "mock"
    let after := (writeInterfaces w s root s.interfaces {} ⟨{}, []⟩).2
    (∀ call ∈ after.calls, call.answer = true) ∧
      after.files.fileAt? (({} : FileTree).destination (payloadFile w.provider s root a).target) =
        some (payloadText (interfaceJson w.provider s a)) := by
  intro w a b s root after
  have hanswers : ∀ call ∈ after.calls, call.answer = true := by decide +kernel
  refine ⟨hanswers, ?_⟩
  have hshared := interfaces_share_payload_iff (w := w) (Journal.host_follows_self {}) s root {}
    ⟨{}, []⟩
  simp only [id_eq] at hshared
  obtain ⟨hshare, hlast, -⟩ := hshared hanswers
  obtain ⟨front, k, later, hsplit, -, hplace, -, hfile⟩ :=
    hlast a List.mem_cons_self (by decide +kernel)
  have hapart := hshare b a (by decide +kernel) (by decide +kernel)
  have hk : k = a := by
    have hk : k ∈ s.interfaces := hsplit ▸ List.mem_append_right _ List.mem_cons_self
    rcases List.mem_cons.1 hk with rfl | hk
    · rfl
    · obtain rfl := List.mem_singleton.1 hk
      exact absurd (hapart.1 hplace) (by decide +kernel)
  rw [hk] at hfile
  exact hfile

/-- The marks of addresses all leave the same segment behind. -/
theorem interface_loses_own_payload :
    let w : Setup (StateM Journal) :=
      { host := Journal.host {}, overwrite := true, provider := .ofTypes 3 }
    let a : Interface :=
      { id := 1, name := "getA", method := "GET", path := "/a?b", resFormat := Format.string }
    let b : Interface :=
      { id := 2, name := "getB", method := "GET", path := "/a&b", resFormat := Format.number }
    let s : Spec := { interfaces := [a, b] }
    let root := Path.ofString "mock"
    let out := writeInterfaces w s root s.interfaces {} ⟨{}, []⟩
    a.path ≠ b.path ∧ (∀ call ∈ out.2.calls, call.answer = true) ∧
      out.1.1.map MockRule.mockFile = ["get/a/_/b/data", "get/a/_/b/data"] ∧
      dataTarget root a ".json" = dataTarget root b ".json" ∧
      payloadText (interfaceJson w.provider s a) = "\"example\"" ∧
      out.2.files.readText (dataTarget root a ".json") = some "42" := by
  intro w a b s root out
  exact ⟨by decide, by decide +kernel, by decide +kernel, by decide +kernel, by decide +kernel,
    by decide +kernel⟩

end Mock

end Scaffold

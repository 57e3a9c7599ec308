import Mathlib
import Scaffold.Proofs.Mock.Naming

/-!
# Places of mock files

A stem is joined to its root first, and an ending is put behind the whole path after that. If the
stem leaves a name, this makes the last name longer, so that the file has the place of a rendered
name; if it leaves none, the ending comes behind the root's own text.
-/

namespace Scaffold

open WriteDirective (target first? withoutMarkers)

/-- Each payload has a filter beside it. -/
inductive MockPart where
  | payload
  | filter
deriving DecidableEq

namespace MockPart

def ending : MockPart → String
  | payload => ".json"
  | filter => ".js"

theorem ending_cases (part : MockPart) :
    part.ending = "" ∨ part.ending = ".json" ∨ part.ending = ".js" := by
  cases part with
  | payload => exact .inr (.inl rfl)
  | filter => exact .inr (.inr rfl)

theorem exists_dot (part : MockPart) :
    ∃ rest, part.ending.toList = '.' :: rest ∧ first? rest = none := by
  cases part with
  | payload => exact ⟨"json".toList, rfl, by decide⟩
  | filter => exact ⟨"js".toList, rfl, by decide⟩

theorem solid (part : MockPart) :
    ∀ c ∈ part.ending.toList, Path.isDivider c = false ∧ Text.isBlank c = false :=
  fun c hc => (Mock.isEnding_data _ part.ending_cases).solid c (List.mem_append_right _ hc)

theorem isPlain_append (part : MockPart) {name : List Char} (h : Path.IsPlain name) :
    Path.IsPlain (name ++ part.ending.toList) := by
  obtain ⟨hempty, -, -, hslash⟩ := h
  have hlength : 2 < (name ++ part.ending.toList).length := by
    have hname := List.length_pos_of_ne_nil hempty
    have hending : 2 < part.ending.toList.length := by cases part <;> decide
    rw [List.length_append]
    omega
  refine ⟨by simp [hempty], fun heq => ?_, fun heq => ?_, fun c hc => ?_⟩
  · rw [heq] at hlength
    simp at hlength
  · rw [heq] at hlength
    simp at hlength
  · rcases List.mem_append.1 hc with hc | hc
    · exact hslash c hc
    · have hdivider := (part.solid c hc).1
      rw [Path.isDivider, Bool.or_eq_false_iff] at hdivider
      exact hdivider.1

end MockPart

structure MockFile where
  root : Path
  stem : String
  part : MockPart
  content : String
deriving DecidableEq

namespace MockFile

def path (f : MockFile) : Path :=
  (f.root.joinRendered f.stem).appendText f.part.ending

/-- Where the file goes. -/
def target (f : MockFile) : Path :=
  WriteDirective.target f.path

def entry (f : MockFile) : Path × String :=
  (f.path, f.content)

/-- The names that the path goes down from the root. -/
def names (f : MockFile) : List (List Char) :=
  (Path.renderedNames f.stem.toList).modifyLast (· ++ f.part.ending.toList)

/-- A name that renders to just these names. -/
def rendered (f : MockFile) : String :=
  String.ofList ('.' :: '/' :: Text.joinWith ['/'] f.names)

/-- The file as an output for its root. -/
def output (f : MockFile) : Plan.Output :=
  ⟨f.root, f.rendered, f.content⟩

variable (f : MockFile)

theorem names_cases :
    (Path.renderedNames f.stem.toList = [] ∧ f.names = []) ∨
      ∃ front last, Path.renderedNames f.stem.toList = front ++ [last] ∧
        f.names = front ++ [last ++ f.part.ending.toList] := by
  rcases List.eq_nil_or_concat (Path.renderedNames f.stem.toList) with hnil | ⟨front, last, hnames⟩
  · exact .inl ⟨hnil, by rw [names, hnil]; rfl⟩
  · rw [List.concat_eq_append] at hnames
    exact .inr ⟨front, last, hnames, by rw [names, hnames, List.modifyLast_concat]⟩

theorem names_eq_nil_iff : f.names = [] ↔ Path.renderedNames f.stem.toList = [] := by
  rcases f.names_cases with ⟨hstem, hnames⟩ | ⟨front, last, hstem, hnames⟩
  · simp [hstem, hnames]
  · simp [hstem, hnames]

theorem isPlain_of_mem_names : ∀ n ∈ f.names, Path.IsPlain n := by
  intro n hn
  rcases f.names_cases with ⟨-, hnames⟩ | ⟨front, last, hstem, hnames⟩
  · simp [hnames] at hn
  · have hplain : ∀ m ∈ front ++ [last], Path.IsPlain m := fun m hm =>
      Path.isPlain_of_mem_renderedNames (hstem ▸ hm)
    rw [hnames, List.mem_append, List.mem_singleton] at hn
    rcases hn with hn | rfl
    · exact hplain n (List.mem_append_left _ hn)
    · exact f.part.isPlain_append (hplain last (by simp))

theorem not_divider_of_mem_names : ∀ n ∈ f.names, ∀ c ∈ n, Path.isDivider c = false := by
  intro n hn c hc
  rcases f.names_cases with ⟨-, hnames⟩ | ⟨front, last, hstem, hnames⟩
  · simp [hnames] at hn
  · have hsolid : ∀ m ∈ front ++ [last], ∀ c ∈ m, Path.isDivider c = false := fun m hm =>
      Path.not_divider_of_mem_renderedNames (hstem ▸ hm)
    rw [hnames, List.mem_append, List.mem_singleton] at hn
    rcases hn with hn | rfl
    · exact hsolid n (List.mem_append_left _ hn) c hc
    · rcases List.mem_append.1 hc with hc | hc
      · exact hsolid last (by simp) c hc
      · exact (f.part.solid c hc).1

theorem renderedNames_rendered : Path.renderedNames f.rendered.toList = f.names := by
  have hlast : ∀ d, ('.' :: '/' :: Text.joinWith ['/'] f.names).getLast? = some d →
      Text.isBlank d = false := by
    intro d hd
    rcases f.names_cases with ⟨-, hnames⟩ | ⟨front, last, -, hnames⟩
    · rw [hnames] at hd
      obtain rfl : '/' = d := by simpa [Text.joinWith] using hd
      decide
    · obtain ⟨cs, hcs⟩ : ∃ cs, '.' :: '/' :: Text.joinWith ['/'] f.names =
          cs ++ f.part.ending.toList := by
        rw [hnames]
        by_cases hfront : front = []
        · exact ⟨'.' :: '/' :: last, by simp [hfront, Text.joinWith]⟩
        · refine ⟨'.' :: '/' :: (Text.joinWith ['/'] front ++ ['/'] ++ last), ?_⟩
          rw [Text.joinWith_concat _ _ hfront]
          simp
      have hne : f.part.ending.toList ≠ [] := by cases f.part <;> decide
      rw [hcs, List.getLast?_append_of_ne_nil _ hne] at hd
      exact (f.part.solid d (List.mem_of_getLast? hd)).2
  rw [rendered, String.toList_ofList, Path.renderedNames, Text.trim_of_solid (by decide) hlast,
    show '.' :: '/' :: Text.joinWith ['/'] f.names = ['.'] ++ '/' :: Text.joinWith ['/'] f.names
      from rfl, Text.splitBy_append_cons (by rfl)]
  by_cases hnames : f.names = []
  · rw [hnames]
    decide
  · rw [Text.splitBy_joinWith (by rfl) hnames f.not_divider_of_mem_names]
    change (Path.stackSegments [] f.names).reverse = f.names
    rw [Path.stackSegments_of_plain f.isPlain_of_mem_names, List.append_nil, List.reverse_reverse]

/-- A stem that leaves a name gives the path of a rendered name. -/
theorem path_eq (h : f.names ≠ []) : f.path = f.output.path := by
  rcases f.names_cases with ⟨-, hnames⟩ | ⟨front, last, hstem, hnames⟩
  · exact absurd hnames h
  · have hplain : ∀ n ∈ front ++ [last], Path.IsPlain n := fun n hn =>
      Path.isPlain_of_mem_renderedNames (hstem ▸ hn)
    have hlast := hplain last (by simp)
    have hlong := f.part.isPlain_append hlast
    rw [path, Plan.Output.path, output, Path.joinRendered, Path.joinRendered,
      renderedNames_rendered, hstem, hnames, Path.joinAll, Path.joinAll, List.foldl_concat,
      List.foldl_concat, Path.join_eq _ (Path.isAbsolute_of_plain hlast),
      Path.join_eq _ (Path.isAbsolute_of_plain hlong), Path.appendText, List.append_assoc]

/-- A stem that leaves none puts the ending behind the root. -/
theorem path_eq_of_nameless (h : f.names = []) :
    f.path = f.root.appendText f.part.ending := by
  rw [path, Path.joinRendered, f.names_eq_nil_iff.1 h]
  rfl

theorem target_eq (h : f.names ≠ []) : f.target = f.output.target := by
  rw [target, path_eq f h]
  rfl

end MockFile

namespace Mock

def pairFiles (root : Path) (stem : String) (json : Json) : List MockFile :=
  [⟨root, stem, .payload, payloadText json⟩, ⟨root, stem, .filter, defaultFilter⟩]

/-- The files of interfaces, in the order in which they are put. -/
def interfaceFiles (p : MockProvider) (s : Spec) (root : Path) (is : List Interface) :
    List MockFile :=
  is.flatMap fun i => pairFiles root (mockFile i) (interfaceJson p s i)

def templateFiles (p : MockProvider) (s : Spec) (root : Path) (ts : List PageTemplate) :
    List MockFile :=
  (ts.filter (isShown s)).flatMap fun t =>
    pairFiles root (stripExtension t.path) (templateJson p s t)

theorem map_entry_interfaceFiles (p : MockProvider) (s : Spec) (root : Path)
    (is : List Interface) :
    (interfaceFiles p s root is).map MockFile.entry = interfaceEntries p s root is := by
  rw [interfaceFiles, List.map_flatMap]
  rfl

theorem map_entry_templateFiles (p : MockProvider) (s : Spec) (root : Path)
    (ts : List PageTemplate) :
    (templateFiles p s root ts).map MockFile.entry = templateEntries p s root ts := by
  rw [templateFiles, List.map_flatMap]
  rfl

/-- The place of an interface always leaves a name. -/
theorem names_ne_nil_of_mem_interfaceFiles {p : MockProvider} {s : Spec} {root : Path}
    {is : List Interface} {f : MockFile} (hf : f ∈ interfaceFiles p s root is) :
    f.names ≠ [] := by
  obtain ⟨i, -, hf⟩ := List.mem_flatMap.1 hf
  have hstem : f.stem = mockFile i := by
    rcases List.mem_cons.1 hf with rfl | hf
    · rfl
    · rw [List.mem_singleton.1 hf]
  obtain ⟨front, hfront⟩ := mockFile_ends i
  have hdata : Path.IsEnding "data".toList := isEnding_data "" (.inl rfl)
  rw [ne_eq, f.names_eq_nil_iff, hstem, hfront, Path.renderedNames_append_slash hdata]
  simp

end Mock

end Scaffold

import Mathlib
import Scaffold.Proofs.FileTree.Rooted
import Scaffold.Proofs.Host.Disk
import Scaffold.Proofs.Host.Put
import Scaffold.Proofs.Path.Parent

/-!
# Looking for a project

Of a listed directory only the first bundle counts, and what is looked for is not the project file
inside it but the one inside the bundle that is named by its product. What is found this way is
always the project file of a bundle in the directory. A project is missed where another bundle
comes first, or where the name of the first one has a dot in front of its ending.
-/

namespace Scaffold

open Host (refused)

namespace ProjectManifest

/-- The project file inside an entry of a directory. -/
def fileIn (dir : Path) (entry : String) : Path :=
  (dir.join ⟨entry.toList⟩).join ⟨fileName⟩

/-- The bundle that is named by a bundle's product. -/
def shortened (bundle : String) : String :=
  String.ofList (bundle.toList.takeWhile (· ≠ '.') ++ bundleEnding)

/-- An entry of a directory is a bundle with a project file inside. -/
def HoldsProject (t : FileTree) (dir : Path) (entry : String) : Prop :=
  bundleEnding <:+ entry.toList ∧ t.pathExists (fileIn dir entry) = true

theorem ofBundle_file (dir : Path) (bundle : String) :
    (ofBundle dir bundle).file = fileIn dir (shortened bundle) := by
  simp [ofBundle, fileIn, shortened]

theorem ending_shortened (bundle : String) : bundleEnding <:+ (shortened bundle).toList := by
  rw [shortened, String.toList_ofList]
  exact List.suffix_append _ _

/-- A bundle is named by its product unless its name has a further dot. -/
theorem shortened_eq_iff (product : List Char) :
    shortened (String.ofList (product ++ bundleEnding)) =
      String.ofList (product ++ bundleEnding) ↔ '.' ∉ product := by
  have hending : bundleEnding.takeWhile (· ≠ '.') = [] := rfl
  rw [shortened, String.toList_ofList, String.ofList_inj, List.append_left_inj]
  constructor
  · intro heq hdot
    rw [← heq] at hdot
    simpa using List.mem_takeWhile_imp hdot
  · intro hdot
    have hproduct : ∀ c ∈ product, decide (c ≠ '.') = true := by
      intro c hc
      exact decide_eq_true fun heq => hdot (heq ▸ hc)
    rw [List.takeWhile_append_of_pos hproduct, hending, List.append_nil]

theorem not_isSlash_of_notMem {cs : List Char} (h : '/' ∉ cs) :
    ∀ c ∈ cs, Path.isSlash c = false := by
  intro c hc
  have hne : c ≠ '/' := fun heq => h (heq ▸ hc)
  simpa [Path.isSlash] using hne

theorem isPlain_fileName : Path.IsPlain fileName :=
  ⟨by decide, by decide, by decide, not_isSlash_of_notMem (by decide)⟩

theorem isPlain_shortened {bundle : String} (h : '/' ∉ bundle.toList) :
    Path.IsPlain (shortened bundle).toList := by
  have hlong : 3 ≤ (shortened bundle).toList.length :=
    le_trans (by decide) (ending_shortened bundle).length_le
  have hne (cs : List Char) (hcs : cs.length < 3) : (shortened bundle).toList ≠ cs := by
    intro heq
    rw [heq] at hlong
    omega
  refine ⟨hne [] (by decide), hne ['.'] (by decide), hne ['.', '.'] (by decide), ?_⟩
  apply not_isSlash_of_notMem
  rw [shortened, String.toList_ofList, List.mem_append, not_or]
  exact ⟨fun hproduct => h ((List.takeWhile_prefix _).subset hproduct), by decide⟩

end ProjectManifest

open ProjectManifest

/-! ## Listed entries -/

namespace FileTree

variable {t : FileTree}

theorem mem_namesIn {loc : Location} {name : List Char} {e : FileEntry}
    (h : t.find? (loc ++ [name]) = some e) : String.ofList name ∈ t.namesIn loc := by
  rw [find?_of_ne_nil t (by simp), List.lookup_eq_some_iff] at h
  obtain ⟨front, back, hentries, -⟩ := h
  have hmem : (loc ++ [name], e) ∈ t.entries := by simp [hentries]
  have hbelow : ([name], e) ∈ t.below loc := by
    refine List.mem_filterMap.2 ⟨_, hmem, ?_⟩
    simp
  rw [namesIn, List.mem_mergeSort, List.mem_filterMap]
  exact ⟨_, hbelow, rfl⟩

theorem names_eq_some {dir : Path} {names : List String} (h : t.names dir = some names) :
    ∃ loc, t.follow t.cwd dir.components = .ok loc ∧ names = t.namesIn loc := by
  unfold FileTree.names at h
  split at h
  · rename_i loc hget
    obtain ⟨hlocate, -⟩ := (get?_eq_some_iff t dir loc _).1 hget
    exact ⟨loc, (locate_eq_ok_iff.1 hlocate).2.2, (Option.some.inj h).symm⟩
  · cases h

/-- What holds something in a listed directory is one of its entries. -/
theorem mem_names_of_pathExists {dir : Path} {names : List String} {name inside : List Char}
    (hlist : t.names dir = some names) (hname : Path.IsPlain name) (hinside : Path.IsPlain inside)
    (hexists : t.pathExists ((dir.join ⟨name⟩).join ⟨inside⟩) = true) :
    String.ofList name ∈ names := by
  obtain ⟨loc, hdir, rfl⟩ := names_eq_some hlist
  obtain ⟨l, e, hlocate, -⟩ := (pathExists_iff t _).1 hexists
  obtain ⟨-, -, hfollow⟩ := locate_eq_ok_iff.1 hlocate
  rw [Path.components_join_of_plain _ hinside, Path.components_join_of_plain _ hname] at hfollow
  obtain ⟨mid, hmid, hfound, -, -⟩ := follow_concat_iff.1 hfollow
  obtain ⟨loc', hdir', -, -, rfl⟩ := follow_concat_iff.1 hmid
  obtain rfl : loc = loc' := by
    rw [hdir] at hdir'
    exact Except.ok.inj hdir'
  exact mem_namesIn hfound

end FileTree

/-! ## What is found -/

namespace FileTree

variable {r : Refusals} {t : FileTree} {dir : Path} {names : List String}

theorem locateProject_eq (hlist : ((host r).names dir t).1 = some names) :
    ((host r).locateProject dir t).1 =
      (names.find? isBundle).bind fun bundle =>
        if t.pathExists (ofBundle dir bundle).file then some (ofBundle dir bundle) else none := by
  rw [Host.locateProject, stateM_bind, hlist]
  dsimp only
  cases names.find? isBundle with
  | none => rfl
  | some bundle =>
    simp only [Option.bind_some, stateM_bind, host]
    cases t.pathExists (ofBundle dir bundle).file <;> rfl

theorem locateProject_eq_some_iff (hlist : ((host r).names dir t).1 = some names)
    (m : ProjectManifest) :
    ((host r).locateProject dir t).1 = some m ↔
      ∃ bundle, names.find? isBundle = some bundle ∧ HoldsProject t dir (shortened bundle) ∧
        m = ofBundle dir bundle := by
  rw [locateProject_eq hlist]
  cases names.find? isBundle with
  | none => simp
  | some bundle =>
    rw [Option.bind_some, Option.ite_none_right_eq_some, ofBundle_file, Option.some_inj]
    constructor
    · rintro ⟨hexists, heq⟩
      exact ⟨bundle, rfl, ⟨ending_shortened bundle, hexists⟩, heq.symm⟩
    · rintro ⟨first, hfirst, ⟨-, hexists⟩, heq⟩
      obtain rfl := Option.some.inj hfirst
      exact ⟨hexists, heq.symm⟩

end FileTree

namespace Host

variable {σ : Type} {h : Host (StateM σ)} {view : σ → FileTree} {r : Refusals}

/-- What is found is the project file inside a bundle that is listed. It is found if and only if
the bundle named by the product of the first one has it. So a project is found exactly where one
is, if and only if there is none or it is there that one is looked for. -/
theorem locateProject_complete_iff (H : h.Follows view (FileTree.host r)) {dir : Path} {t : σ}
    {names : List String} (hlist : (h.names dir t).1 = some names)
    (hslash : ∀ n ∈ names, '/' ∉ n.toList) :
    let found := (h.locateProject dir t).1
    let looked : Prop :=
      ∃ first, names.find? isBundle = some first ∧ HoldsProject (view t) dir (shortened first)
    (∀ m, found = some m → ∃ entry ∈ names, HoldsProject (view t) dir entry ∧
        m.file = fileIn dir entry) ∧
      (found.isSome ↔ looked) ∧
      ((found.isSome ↔ ∃ entry ∈ names, HoldsProject (view t) dir entry) ↔
        (∀ entry ∈ names, ¬HoldsProject (view t) dir entry) ∨ looked) := by
  intro found looked
  have hnames : ((FileTree.host r).names dir (view t)).1 = some names :=
    (H.names dir t).1.symm.trans hlist
  have hlisted : (view t).names dir = some names := by
    rw [FileTree.host] at hnames
    by_cases hrefused : refused r.names dir = true
    · simp [hrefused] at hnames
    · simpa [hrefused] using hnames
  have hfound (m : ProjectManifest) : found = some m ↔
      ∃ first, names.find? isBundle = some first ∧ HoldsProject (view t) dir (shortened first) ∧
        m = ofBundle dir first := by
    rw [show found = _ from (H.locateProject dir t).1]
    exact FileTree.locateProject_eq_some_iff hnames m
  have hsound (m : ProjectManifest) (hm : found = some m) :
      ∃ entry ∈ names, HoldsProject (view t) dir entry ∧ m.file = fileIn dir entry := by
    obtain ⟨first, hfirst, hholds, rfl⟩ := (hfound m).1 hm
    -- The shortened name need not be the listed one, but what holds a file is listed, too.
    have hplain := isPlain_shortened (hslash first (List.mem_of_find?_eq_some hfirst))
    have hmem := FileTree.mem_names_of_pathExists hlisted hplain isPlain_fileName hholds.2
    rw [String.ofList_toList] at hmem
    exact ⟨shortened first, hmem, hholds, ofBundle_file dir first⟩
  have hlooked : found.isSome ↔ looked := by
    rw [Option.isSome_iff_exists]
    constructor
    · rintro ⟨m, hm⟩
      obtain ⟨first, hfirst, hholds, -⟩ := (hfound m).1 hm
      exact ⟨first, hfirst, hholds⟩
    · rintro ⟨first, hfirst, hholds⟩
      exact ⟨_, (hfound _).2 ⟨first, hfirst, hholds, rfl⟩⟩
  refine ⟨hsound, hlooked, ?_⟩
  constructor
  · intro hcomplete
    by_cases hthere : ∃ entry ∈ names, HoldsProject (view t) dir entry
    · exact .inr (hlooked.1 (hcomplete.2 hthere))
    · exact .inl fun entry hentry hholds => hthere ⟨entry, hentry, hholds⟩
  · intro hcase
    constructor
    · intro hsome
      obtain ⟨m, hm⟩ := Option.isSome_iff_exists.1 hsome
      obtain ⟨entry, hentry, hholds, -⟩ := hsound m hm
      exact ⟨entry, hentry, hholds⟩
    · rintro ⟨entry, hentry, hholds⟩
      rcases hcase with hnone | hthere
      · exact absurd hholds (hnone entry hentry)
      · exact hlooked.2 hthere

theorem locateProject_finds_only_bundle :
    let files := ({} : FileTree).place (.ofString "ios/Demo.xcodeproj/project.pbxproj") "x"
    let listing := (Journal.host {}).names (.ofString "ios") ⟨files, []⟩
    (Journal.host {}).Follows Journal.files (FileTree.host {}) ∧
      listing.1 = some ["Demo.xcodeproj"] ∧ (∀ n ∈ ["Demo.xcodeproj"], '/' ∉ n.toList) ∧
      HoldsProject files (.ofString "ios") "Demo.xcodeproj" ∧
      ((Journal.host {}).locateProject (.ofString "ios") ⟨files, []⟩).1.isSome := by
  intro files listing
  have hlist : listing.1 = some ["Demo.xcodeproj"] := by decide +kernel
  have hslash : ∀ n ∈ ["Demo.xcodeproj"], '/' ∉ n.toList := by decide +kernel
  have hexists : files.pathExists (fileIn (.ofString "ios") "Demo.xcodeproj") = true := by
    decide +kernel
  have hending : bundleEnding <:+ "Demo.xcodeproj".toList := ⟨"Demo".toList, rfl⟩
  have hshort : shortened "Demo.xcodeproj" = "Demo.xcodeproj" :=
    (shortened_eq_iff "Demo".toList).2 (by decide)
  obtain ⟨-, hlooked, -⟩ :=
    locateProject_complete_iff (Journal.host_follows {}) hlist hslash
  refine ⟨Journal.host_follows {}, hlist, hslash, ⟨hending, hexists⟩, hlooked.2 ?_⟩
  exact ⟨"Demo.xcodeproj", rfl, by rw [hshort]; exact ⟨hending, hexists⟩⟩

/-- An empty bundle in front hides the one with the project. -/
theorem locateProject_misses_second_bundle :
    let ios := Path.ofString "ios"
    let bundles := (({} : FileTree).createDirAll (.ofString "ios/A.xcodeproj")).2
    let files := bundles.place (.ofString "ios/B.xcodeproj/project.pbxproj") "x"
    ((Journal.host {}).names ios ⟨files, []⟩).1 = some ["A.xcodeproj", "B.xcodeproj"] ∧
      HoldsProject files ios "B.xcodeproj" ∧
      ((Journal.host {}).locateProject ios ⟨files, []⟩).1 = none := by
  intro ios bundles files
  have hsorted : files.namesIn ["ios".toList] = ["A.xcodeproj", "B.xcodeproj"] := by
    refine Eq.trans (congrArg (fun l : List String => l.mergeSort fun a b => decide (a ≤ b))
      (?_ : _ = ["A.xcodeproj", "B.xcodeproj"])) (List.mergeSort_of_pairwise (by decide +kernel))
    decide +kernel
  have hget : files.get? ios = some (["ios".toList], .directory) := by decide +kernel
  have hlist : ((FileTree.host {}).names ios files).1 = some ["A.xcodeproj", "B.xcodeproj"] := by
    rw [← hsorted]
    simp only [FileTree.host, FileTree.names, hget]
    rfl
  have hmissed : ((FileTree.host {}).locateProject ios files).1 = none := by
    rw [FileTree.locateProject_eq hlist]
    decide +kernel
  have hfollows := Journal.host_follows {}
  exact ⟨(hfollows.names ios _).1.trans hlist, ⟨⟨"B".toList, rfl⟩, by decide +kernel⟩,
    (hfollows.locateProject ios _).1.trans hmissed⟩

end Host

end Scaffold

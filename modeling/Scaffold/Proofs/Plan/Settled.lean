import Mathlib
import Scaffold.Proofs.FileTree.Content
import Scaffold.Proofs.Host.Journal
import Scaffold.Proofs.Plan.Induction
import Scaffold.Proofs.Plan.Mock
import Scaffold.Proofs.Plan.Unit

/-!
# What becomes of the units of a walk

If everything that is asked for is done, a walk that purges nothing settles the contents of all
files. Where units meet, or meet a file that is there, the last one that overwrites decides;
without one an older file stays, and where none was the first unit decides.
-/

namespace Scaffold

open FileTree

namespace FileUnit

variable {t t' t'' : FileTree} {us vs : List FileUnit} {loc : Location}

/-- The content that a unit has for a location. -/
def contentAt? (t : FileTree) (loc : Location) (u : FileUnit) : Option String :=
  if t.destination u.target = loc then some u.content else none

def firstAt? (t : FileTree) (loc : Location) (us : List FileUnit) : Option String :=
  us.findSome? (contentAt? t loc)

def lastOverwritingAt? (t : FileTree) (loc : Location) (us : List FileUnit) : Option String :=
  (us.filter overwrites).reverse.findSome? (contentAt? t loc)

/-- The content that units leave at a location. -/
def settledAt? (t : FileTree) (us : List FileUnit) (loc : Location) : Option String :=
  (lastOverwritingAt? t loc us).or ((t.fileAt? loc).or (firstAt? t loc us))

theorem contentAt?_of_cwd (h : t'.cwd = t.cwd) : contentAt? t' = contentAt? t := by
  funext loc u
  rw [contentAt?, destination_of_cwd h, contentAt?]

@[simp] theorem settledAt?_nil : settledAt? t [] loc = t.fileAt? loc := by
  simp [settledAt?, lastOverwritingAt?, firstAt?]

theorem settledAt?_of_forall_elsewhere (h : ∀ u ∈ us, t.destination u.target ≠ loc) :
    settledAt? t us loc = t.fileAt? loc := by
  have hnone : ∀ u ∈ us, contentAt? t loc u = none := fun u hu => if_neg (h u hu)
  have hfirst : firstAt? t loc us = none := List.findSome?_eq_none_iff.2 hnone
  have hlast : lastOverwritingAt? t loc us = none := by
    refine List.findSome?_eq_none_iff.2 fun u hu => hnone u ?_
    exact List.mem_of_mem_filter (List.mem_reverse.1 hu)
  rw [settledAt?, hfirst, hlast, Option.none_or, Option.or_none]

theorem settledAt?_of_overwrites {u : FileUnit} (hover : u.overwrites = true)
    (h : t.destination u.target = loc) : settledAt? t [u] loc = some u.content := by
  simp [settledAt?, lastOverwritingAt?, hover, contentAt?, h]

theorem settledAt?_of_keeps {u : FileUnit} (hover : u.overwrites = false)
    (h : t.destination u.target = loc) :
    settledAt? t [u] loc = (t.fileAt? loc).or (some u.content) := by
  simp [settledAt?, lastOverwritingAt?, firstAt?, hover, contentAt?, h]

/-- Later units find what earlier ones have left. -/
theorem settledAt?_append (hcwd : t'.cwd = t.cwd)
    (hfile : t'.fileAt? loc = settledAt? t us loc) :
    settledAt? t' vs loc = settledAt? t (us ++ vs) loc := by
  have hlast : lastOverwritingAt? t loc (us ++ vs) =
      (lastOverwritingAt? t loc vs).or (lastOverwritingAt? t loc us) := by
    simp [lastOverwritingAt?, List.findSome?_append]
  have hfirst : firstAt? t loc (us ++ vs) = (firstAt? t loc us).or (firstAt? t loc vs) := by
    simp [firstAt?, List.findSome?_append]
  have hsame : lastOverwritingAt? t' loc vs = lastOverwritingAt? t loc vs ∧
      firstAt? t' loc vs = firstAt? t loc vs := by
    constructor
    · rw [lastOverwritingAt?, contentAt?_of_cwd hcwd, lastOverwritingAt?]
    · rw [firstAt?, contentAt?_of_cwd hcwd, firstAt?]
  calc settledAt? t' vs loc
      = (lastOverwritingAt? t loc vs).or
          ((settledAt? t us loc).or (firstAt? t loc vs)) := by
        rw [settledAt?, hfile, hsame.1, hsame.2]
    _ = settledAt? t (us ++ vs) loc := by
        simp only [settledAt?, hlast, hfirst, Option.or_assoc]

/-! ### The unit that decides -/

/-- Whether a unit's place is a location. -/
def isAt (t : FileTree) (loc : Location) (u : FileUnit) : Bool :=
  t.destination u.target == loc

theorem isAt_iff {u : FileUnit} : isAt t loc u = true ↔ t.destination u.target = loc := by
  rw [isAt, beq_iff_eq]

theorem findSome?_contentAt? (us : List FileUnit) :
    us.findSome? (contentAt? t loc) = (us.find? (isAt t loc)).map content := by
  induction us with
  | nil => rfl
  | cons u us ih =>
    by_cases hu : t.destination u.target = loc
    · simp [contentAt?, isAt, hu]
    · simp [contentAt?, isAt, hu, ← ih]

theorem lastOverwritingAt?_eq (us : List FileUnit) :
    lastOverwritingAt? t loc us =
      (us.reverse.find? fun u => u.overwrites && isAt t loc u).map content := by
  rw [lastOverwritingAt?, findSome?_contentAt?, ← List.filter_reverse, List.find?_filter]
  simp only [Bool.decide_and, Bool.decide_eq_true]

/-- Units whose places are elsewhere do not count. -/
theorem settledAt?_congr (h : us.filter (isAt t loc) = vs.filter (isAt t loc)) :
    settledAt? t us loc = settledAt? t vs loc := by
  have hfirst : ∀ us, firstAt? t loc us = (us.filter (isAt t loc)).head?.map content := by
    intro us
    rw [firstAt?, findSome?_contentAt?, List.head?_filter]
  have hlast : ∀ us, lastOverwritingAt? t loc us =
      ((us.filter (isAt t loc)).reverse.find? overwrites).map content := by
    intro us
    rw [lastOverwritingAt?_eq, ← List.filter_reverse, List.find?_filter]
    simp only [Bool.decide_and, Bool.decide_eq_true, Bool.and_comm]
  rw [settledAt?, settledAt?, hfirst, hfirst, hlast, hlast, h]

section Family

variable {α : Type} {f : α → FileUnit} {xs : List α} {a : α}

/-- If some unit overwrites, the last one that does decides. -/
theorem exists_last (ha : a ∈ xs) (hover : (f a).overwrites = true)
    (hplace : t.destination (f a).target = loc) :
    ∃ front b later, xs = front ++ b :: later ∧ (f b).overwrites = true ∧
      t.destination (f b).target = loc ∧
      (∀ x ∈ later, (f x).overwrites = true → t.destination (f x).target ≠ loc) ∧
      settledAt? t (xs.map f) loc = some (f b).content := by
  have hsome : (xs.reverse.find? fun x => (f x).overwrites && isAt t loc (f x)).isSome := by
    rw [List.find?_isSome]
    exact ⟨a, List.mem_reverse.2 ha, by simp [hover, isAt_iff.2 hplace]⟩
  obtain ⟨b, hb⟩ := Option.isSome_iff_exists.1 hsome
  obtain ⟨hpb, later, front, hsplit, hlater⟩ := List.find?_eq_some_iff_append.1 hb
  rw [Bool.and_eq_true, isAt_iff] at hpb
  refine ⟨front.reverse, b, later.reverse, ?_, hpb.1, hpb.2, fun x hx hxover hxplace => ?_, ?_⟩
  · rw [← List.reverse_reverse xs, hsplit]
    simp
  · have hnone := hlater x (List.mem_reverse.1 hx)
    simp [hxover, isAt_iff.2 hxplace] at hnone
  · rw [settledAt?, lastOverwritingAt?_eq, ← List.map_reverse, List.find?_map]
    simp only [Function.comp_def, hb]
    rfl

/-- If none does, an older file stays, and else the first unit decides. -/
theorem exists_first (ha : a ∈ xs) (hplace : t.destination (f a).target = loc)
    (hkeep : ∀ x ∈ xs, t.destination (f x).target = loc → (f x).overwrites = false) :
    ∃ front b later, xs = front ++ b :: later ∧ t.destination (f b).target = loc ∧
      (∀ x ∈ front, t.destination (f x).target ≠ loc) ∧
      settledAt? t (xs.map f) loc = (t.fileAt? loc).or (some (f b).content) := by
  have hsome : (xs.find? fun x => isAt t loc (f x)).isSome := by
    rw [List.find?_isSome]
    exact ⟨a, ha, isAt_iff.2 hplace⟩
  obtain ⟨b, hb⟩ := Option.isSome_iff_exists.1 hsome
  obtain ⟨hpb, front, later, hsplit, hfront⟩ := List.find?_eq_some_iff_append.1 hb
  have hnone : lastOverwritingAt? t loc (xs.map f) = none := by
    rw [lastOverwritingAt?_eq, Option.map_eq_none_iff, List.find?_eq_none]
    intro v hv hboth
    obtain ⟨x, hx, rfl⟩ := List.mem_map.1 (List.mem_reverse.1 hv)
    rw [Bool.and_eq_true, isAt_iff] at hboth
    have hxkeep := hkeep x hx hboth.2
    rw [hboth.1] at hxkeep
    cases hxkeep
  refine ⟨front, b, later, hsplit, isAt_iff.1 hpb, fun x hx hxplace => ?_, ?_⟩
  · have helse := hfront x hx
    simp [isAt_iff.2 hxplace] at helse
  · rw [settledAt?, hnone, Option.none_or, firstAt?, findSome?_contentAt?, List.find?_map]
    simp only [Function.comp_def, hb]
    rfl

end Family

/-! ### Settled units -/

/-- Between `t` and `t'` units were settled: each place is a directory that no file has made
room for, or it has what the units leave there. -/
structure Settled (us : List FileUnit) (t t' : FileTree) : Prop where
  cwd : t'.cwd = t.cwd
  directory : ∀ loc, t.find? loc = some .directory → t'.find? loc = some .directory
  place : ∀ loc, (t'.find? loc = some .directory ∧ t.fileAt? loc = none) ∨
    t'.find? loc = (settledAt? t us loc).map .file

namespace Settled

theorem of_built (h : Built t t') : Settled [] t t' := by
  refine ⟨h.cwd, fun loc hdir => h.find?_of_some hdir, fun loc => ?_⟩
  rw [settledAt?_nil]
  by_cases hdir : t'.find? loc = some .directory
  · refine .inl ⟨hdir, ?_⟩
    rw [← h.fileAt? loc, fileAt?_of_directory hdir]
  · rw [← h.fileAt? loc]
    exact .inr (find?_eq_map_fileAt? hdir)

theorem refl (t : FileTree) : Settled [] t t :=
  of_built (.refl t)

/-- A unit is written if it overwrites, or where nothing is. -/
theorem of_wrote {u : FileUnit} (h : Wrote t t' u.target u.content loc)
    (hfree : u.overwrites = true ∨ t.find? loc = none) : Settled [u] t t' := by
  have hloc : t.destination u.target = loc := (locate_eq_destination h.locate).symm
  refine ⟨h.cwd, h.grown.directory, fun l => ?_⟩
  by_cases hl : l = loc
  · subst hl
    refine .inr ?_
    have hsettled : settledAt? t [u] l = some u.content := by
      cases hover : u.overwrites with
      | true => exact settledAt?_of_overwrites hover hloc
      | false =>
        have hnone : t.find? l = none := by simpa [hover] using hfree
        rw [settledAt?_of_keeps hover hloc, fileAt?_of_none hnone, Option.none_or]
    rw [h.find?_self, hsettled, Option.map_some]
  · have hother : settledAt? t [u] l = t.fileAt? l :=
      settledAt?_of_forall_elsewhere (by simpa [hloc] using fun heq => hl heq.symm)
    rw [h.find?_of_ne hl, hother]
    by_cases hdir : t.find? l = some .directory
    · exact .inl ⟨hdir, fileAt?_of_directory hdir⟩
    · exact .inr (find?_eq_map_fileAt? hdir)

/-- A unit that does not overwrite leaves alone what is there. -/
theorem of_kept {u : FileUnit} (hover : u.overwrites = false)
    (hthere : t.pathExists u.target = true) : Settled [u] t t := by
  refine ⟨rfl, fun _ hdir => hdir, fun l => ?_⟩
  by_cases hdir : t.find? l = some .directory
  · exact .inl ⟨hdir, fileAt?_of_directory hdir⟩
  · refine .inr ((find?_eq_map_fileAt? hdir).trans (congrArg (Option.map FileEntry.file) ?_))
    by_cases hl : t.destination u.target = l
    · obtain ⟨loc, e, hlocate, hfind, -⟩ := (pathExists_iff t u.target).1 hthere
      have hplace : loc = l := (locate_eq_destination hlocate).trans hl
      rw [settledAt?_of_keeps hover hl]
      cases e with
      | directory => exact absurd (hplace ▸ hfind) hdir
      | file content => rw [fileAt?_of_file (hplace ▸ hfind), Option.some_or]
    · exact (settledAt?_of_forall_elsewhere (by simpa using hl)).symm

theorem trans (h : Settled us t t') (h' : Settled vs t' t'') : Settled (us ++ vs) t t'' := by
  refine ⟨h'.cwd.trans h.cwd, fun loc hdir => h'.directory loc (h.directory loc hdir),
    fun loc => ?_⟩
  rcases h.place loc with ⟨hdir, hnone⟩ | hfind
  · exact .inl ⟨h'.directory loc hdir, hnone⟩
  · have hfile := fileAt?_of_map hfind
    rw [← settledAt?_append h.cwd hfile]
    refine (h'.place loc).imp_left fun ⟨hdir, hnone⟩ => ⟨hdir, ?_⟩
    -- a file that was there would have been settled
    rw [hfile, settledAt?, Option.or_eq_none_iff, Option.or_eq_none_iff] at hnone
    exact hnone.2.1

/-- Where no directory is, the file is what the units leave. -/
theorem fileAt?_eq (h : Settled us t t') (hdir : t'.find? loc ≠ some .directory) :
    t'.fileAt? loc = settledAt? t us loc :=
  fileAt?_of_map ((h.place loc).resolve_left fun hand => hdir hand.1)

/-- No directory takes the place of a file. -/
theorem not_directory_of_file (h : Settled us t t') {content : String}
    (hfile : t.fileAt? loc = some content) : t'.find? loc ≠ some .directory := by
  intro hdir
  rcases h.place loc with ⟨-, hnone⟩ | hfind
  · rw [hfile] at hnone
    cases hnone
  · rw [hdir] at hfind
    cases hsettled : settledAt? t us loc <;> simp [hsettled] at hfind

end Settled

end FileUnit

/-! ## Journals without failures -/

namespace Journal

/-- All that was asked for was done. -/
def Fulfilled (j : Journal) : Prop :=
  ∀ c ∈ j.calls, c.answer = true

theorem Fulfilled.of_suffix {j j' : Journal} (h : j'.Fulfilled) (hcalls : j.calls <:+ j'.calls) :
    j.Fulfilled :=
  fun c hc => h c (hcalls.subset hc)

theorem Fulfilled.perform {request : Request} {op : StateM FileTree Bool} {j : Journal}
    (h : (perform request op j).2.Fulfilled) : (perform request op j).1 = true :=
  h _ List.mem_cons_self

/-- The journal only goes on, and as long as everything is done the units are settled. -/
def Settles {α : Type} (us : List FileUnit) (x : StateM Journal α) : Prop :=
  ∀ j, j.calls <:+ (x j).2.calls ∧
    ((x j).2.Fulfilled → FileUnit.Settled us j.files (x j).2.files)

namespace Settles

variable {α β : Type} {us vs : List FileUnit} (r : Refusals)

theorem pure (a : α) : Settles [] (Pure.pure a) :=
  fun j => ⟨List.suffix_refl _, fun _ => .refl j.files⟩

theorem of_reads {x : StateM Journal α} (h : ∀ j, (x j).2 = j) : Settles [] x := by
  intro j
  rw [h]
  exact ⟨List.suffix_refl _, fun _ => .refl j.files⟩

theorem bind {x : StateM Journal α} {f : α → StateM Journal β} (hx : Settles us x)
    (hf : ∀ a, Settles vs (f a)) : Settles (us ++ vs) (x >>= f) := by
  intro j
  obtain ⟨hcalls, hsettled⟩ := hx j
  obtain ⟨hcalls', hsettled'⟩ := hf (x j).1 (x j).2
  exact ⟨hcalls.trans hcalls', fun h => (hsettled (h.of_suffix hcalls')).trans (hsettled' h)⟩

theorem bind_nil {x : StateM Journal α} {f : α → StateM Journal β} (hx : Settles [] x)
    (hf : ∀ a, Settles us (f a)) : Settles us (x >>= f) :=
  hx.bind hf

theorem map {x : StateM Journal α} (f : α → β) (hx : Settles us x) : Settles us (f <$> x) :=
  hx

theorem createDirAll (p : Path) : Settles [] ((host r).createDirAll p) :=
  fun j => ⟨List.suffix_cons _ _, fun _ => .of_built (createDirAll_cases r p j.files)⟩

theorem download (url : String) (p : Path) : Settles [] ((host r).download url p) :=
  fun j => ⟨List.suffix_cons _ _, fun _ => .refl j.files⟩

theorem ensureParent (p : Path) : Settles [] ((host r).ensureParent p) := by
  rcases (host r).ensureParent_cases p with heq | ⟨dir, -, -, heq⟩
  · rw [heq]
    exact .pure true
  · rw [heq]
    exact createDirAll r dir

/-- A directory that could not be created was asked for in vain. -/
theorem ensureParent_eq_true {p : Path} {j : Journal}
    (h : ((host r).ensureParent p j).2.Fulfilled) : ((host r).ensureParent p j).1 = true := by
  rcases (host r).ensureParent_cases p with heq | ⟨dir, -, -, heq⟩
  · rw [heq]
    rfl
  · rw [heq] at h ⊢
    exact h.perform

theorem calls_writeOutput (overwrite : Bool) (path : Path) (content : String) (j : Journal) :
    j.calls <:+ ((host r).writeOutput overwrite path content j).2.calls := by
  rw [writeOutput_apply, (silent r).writeTarget]
  split
  · exact List.suffix_refl _
  · exact List.suffix_cons _ _

/-- A file that is written is written as the unit says, since the request is not in vain. -/
theorem settled_of_written {path : Path} {content : String} {j : Journal} (overwrite : Bool)
    (h : ((host r).write (WriteDirective.target path) content j).2.Fulfilled)
    (hfree : (FileUnit.atPath overwrite path content).overwrites = true ∨
      j.files.pathExists (WriteDirective.target path) = false) :
    FileUnit.Settled [FileUnit.atPath overwrite path content] j.files
      ((host r).write (WriteDirective.target path) content j).2.files := by
  have hok : ((FileTree.host r).write (WriteDirective.target path) content j.files).1 = true :=
    h.perform
  rcases write_cases r (WriteDirective.target path) content j.files with
    ⟨-, -, loc, hwrote⟩ | hfailed
  · exact FileUnit.Settled.of_wrote hwrote
      (hfree.imp_right (find?_eq_none_of_not_pathExists hwrote))
  · rw [hfailed] at hok
    exact absurd hok Bool.false_ne_true

theorem writeOutput (overwrite : Bool) (path : Path) (content : String) :
    Settles [FileUnit.atPath overwrite path content]
      ((host r).writeOutput overwrite path content) := by
  intro j
  refine ⟨calls_writeOutput r overwrite path content j, fun h => ?_⟩
  rw [writeOutput_apply, (silent r).writeTarget] at h ⊢
  split at h
  · rename_i hkept
    rw [if_pos hkept]
    exact FileUnit.Settled.of_kept hkept.1 hkept.2
  · rename_i hkept
    rw [if_neg hkept]
    refine settled_of_written r overwrite h ?_
    rw [← Bool.not_eq_false, ← Bool.not_eq_true (j.files.pathExists _)]
    exact not_and_or.1 hkept

/-- What follows a request that is in vain does not matter. -/
theorem bind_asked {x : StateM Journal Bool} {f : Bool → StateM Journal β} (hx : Settles [] x)
    (hasked : ∀ j, (x j).2.Fulfilled → (x j).1 = true) (htrue : Settles us (f true))
    (hfalse : Settles [] (f false)) : Settles us (x >>= f) := by
  intro j
  obtain ⟨hcalls, hsettled⟩ := hx j
  rw [stateM_bind]
  cases hanswer : (x j).1 with
  | true =>
    obtain ⟨hcalls', hsettled'⟩ := htrue (x j).2
    exact ⟨hcalls.trans hcalls',
      fun h => (hsettled (h.of_suffix hcalls')).trans (hsettled' h)⟩
  | false =>
    obtain ⟨hcalls', -⟩ := hfalse (x j).2
    refine ⟨hcalls.trans hcalls', fun h => ?_⟩
    have htrue := hasked j (h.of_suffix hcalls')
    simp [hanswer] at htrue

theorem put (overwrite : Bool) (path : Path) (content : String) :
    Settles [FileUnit.atPath overwrite path content]
      ((host r).put overwrite path content) := by
  unfold Host.put
  apply bind_asked (ensureParent r path) (fun _ h => ensureParent_eq_true r h)
  · exact writeOutput r overwrite path content
  · exact .pure none

/-- A unit that overwrites is there once it is put. -/
theorem fileAt?_put {overwrite : Bool} {path : Path} {content : String} {j : Journal}
    (h : ((host r).put overwrite path content j).2.Fulfilled)
    (hover : (FileUnit.atPath overwrite path content).overwrites = true) :
    ((host r).put overwrite path content j).2.files.fileAt?
      (j.files.destination (WriteDirective.target path)) = some content := by
  have hcwd : ((host r).ensureParent path j).2.files.cwd = j.files.cwd := by
    rw [((host_follows r).ensureParent path j).2]
    exact (ensureParent_built r path j.files).cwd
  have hover : WriteDirective.overwrites (WriteDirective.first? path.chars) overwrite = true :=
    hover
  rw [Host.put, stateM_bind] at h ⊢
  cases hasked : ((host r).ensureParent path j).1 with
  | false =>
    simp only [hasked, Bool.false_eq_true, if_false, stateM_pure] at h
    rw [ensureParent_eq_true r h] at hasked
    cases hasked
  | true =>
    simp only [hasked, if_true, (silent r).writeOutput, hover, (silent r).writeTarget,
      stateM_map] at h ⊢
    have hok : ((FileTree.host r).write (WriteDirective.target path) content
        ((host r).ensureParent path j).2.files).1 = true := h.perform
    rcases write_cases r (WriteDirective.target path) content
        ((host r).ensureParent path j).2.files with ⟨-, -, loc, hwrote⟩ | hfailed
    · rw [destination_of_locate hcwd hwrote.locate]
      exact hwrote.fileAt?_self
    · rw [hfailed] at hok
      cases hok

theorem putAll (overwrite : Bool) (entries : List (Path × String)) (rep : Report) :
    Settles (entries.map (FileUnit.ofEntry overwrite))
      ((host r).putAll overwrite entries rep) := by
  induction entries generalizing rep with
  | nil => exact .pure rep
  | cons e entries ih => exact (put r overwrite e.1 e.2).bind fun result => ih (rep.record result)

/-- Files that overwrite are there once all are put. -/
theorem exists_file_putAll {overwrite : Bool} {entries : List (Path × String)} {rep : Report}
    {j : Journal} (h : ((host r).putAll overwrite entries rep j).2.Fulfilled)
    {e : Path × String} (he : e ∈ entries)
    (hover : (FileUnit.ofEntry overwrite e).overwrites = true) :
    ∃ content, ((host r).putAll overwrite entries rep j).2.files.fileAt?
      (j.files.destination (WriteDirective.target e.1)) = some content := by
  induction entries generalizing rep j with
  | nil => simp at he
  | cons first entries ih =>
    rw [Host.putAll_cons, stateM_bind] at h ⊢
    obtain ⟨hcalls, hrest⟩ := putAll r overwrite entries
      (rep.record ((host r).put overwrite first.1 first.2 j).1)
      ((host r).put overwrite first.1 first.2 j).2
    have hfirst := h.of_suffix hcalls
    rcases List.mem_cons.1 he with rfl | he
    · have hthere := fileAt?_put r hfirst hover
      have hdir := (hrest h).not_directory_of_file hthere
      rw [(hrest h).fileAt?_eq hdir, FileUnit.settledAt?, hthere]
      cases FileUnit.lastOverwritingAt? _ _ _ with
      | none => exact ⟨e.2, rfl⟩
      | some content => exact ⟨content, rfl⟩
    · have hcwd := ((put r overwrite first.1 first.2 j).2 hfirst).cwd
      rw [← destination_of_cwd hcwd]
      exact ih h he

end Settles

end Journal

/-- A plan that is carried out without a failure, and without a purge, settles its outputs. -/
theorem Walker.settles_compositional {w : Walker (StateM Journal)} {r : Refusals}
    (hw : w.host = Journal.host r) (hpurge : w.policy.purgeGenerated = false) :
    w.Compositional (fun _ => True) fun entries x =>
      ∀ s, Journal.Settles (entries.map (FileUnit.ofEntry w.overwrite)) (x s) where
  skip s := .pure s
  seq hx hy s := by
    rw [List.map_append]
    exact (hx s).bind hy
  enter {dir} _ _ _ hx s := by
    rw [makeDir_eq (hw ▸ Journal.silent r), hw]
    apply Journal.Settles.bind_asked (.createDirAll r dir) (fun _ h => h.perform)
    · exact hx s
    · exact .pure _
  put path content s := by
    have hput := Journal.Settles.put r w.overwrite path content
    rw [output_eq_put (hw ▸ Journal.silent r), hw]
    exact hput.map _
  prepare dir s := by
    rw [prepare_of_not_purging hpurge]
    exact .pure _
  fetch path url s := by
    rw [fetchTo_eq (hw ▸ Journal.silent r), hw]
    refine .bind_nil (.of_reads fun _ => rfl) fun found => ?_
    cases found with
    | true => exact .pure _
    | false =>
      have hdownload := Journal.Settles.download r url path
      exact (Journal.Settles.ensureParent r path).bind_nil fun _ =>
        hdownload.bind_nil fun _ => .pure _
  suppress s := .pure _
  fail s := .pure _

end Scaffold

import Mathlib
import Scaffold.Proofs.Host.Put
import Scaffold.Proofs.Output.Marker
import Scaffold.Proofs.Walk.Asset

/-!
# Texts taken apart at their markers

There is one way to take a text apart from left to right, always at the leftmost marker of what is
left. The plain pieces are the text without markers, and the first marker is its directive. The
writer obeys this directive, or else the flag of the run: it keeps a file only after it was allowed
to look and has found it, and else it writes, once.
-/

namespace Scaffold

namespace WriteDirective

/-- A text in pieces: plain ones, each with the marker behind it, and what comes after them. -/
structure Split where
  pieces : List (List Char × List Char)
  last : List Char

namespace Split

/-- Each marker is the leftmost one behind those before it, and behind the last one is none. -/
def Scans : List (List Char × List Char) → List Char → List Char → Prop
  | [], last, cs => cs = last ∧ ∀ i, ¬StartsMarked (cs.drop i)
  | (u, m) :: pieces, last, cs =>
    m ∈ markers ∧ (∀ i < u.length, ¬StartsMarked (cs.drop i)) ∧
      ∃ rest, cs = u ++ (m ++ rest) ∧ Scans pieces last rest

def Of (s : Split) (cs : List Char) : Prop :=
  Scans s.pieces s.last cs

def directive (s : Split) : Option WriteDirective :=
  s.pieces.head?.map fun p => ofMarker p.2

def plain (s : Split) : List Char :=
  s.pieces.flatMap Prod.fst ++ s.last

end Split

/-- No marker begins another one, so the one in front is the only one there. -/
theorem marker_unique {m m' rest rest' : List Char} (hm : m ∈ markers) (hm' : m' ∈ markers)
    (h : m ++ rest = m' ++ rest') : m = m' ∧ rest = rest' := by
  have hsame := marker?_append hm rest
  rw [h, marker?_append hm' rest', Option.some_inj, Prod.mk.injEq] at hsame
  obtain ⟨-, rfl⟩ := hsame
  exact ⟨List.append_cancel_right h, rfl⟩

/-! ## Plain pieces -/

/-- What stands before the leftmost marker is passed over. -/
theorem pass_plain {u rest : List Char}
    (h : ∀ i < u.length, ¬StartsMarked ((u ++ rest).drop i)) :
    first? (u ++ rest) = first? rest ∧ withoutMarkers (u ++ rest) = u ++ withoutMarkers rest := by
  induction u with
  | nil => exact ⟨rfl, rfl⟩
  | cons c u ih =>
    have hhere : marker? (c :: (u ++ rest)) = none := marker?_eq_none (h 0 (Nat.succ_pos _))
    obtain ⟨hfirst, hwithout⟩ := ih fun i hi => h (i + 1) (Nat.succ_lt_succ hi)
    constructor
    · rw [List.cons_append, first?_cons_of_none hhere, hfirst]
    · rw [List.cons_append, withoutMarkers_cons_of_none hhere, hwithout, List.cons_append]

theorem plain_of_unmarked {cs : List Char} (h : ∀ i, ¬StartsMarked (cs.drop i)) :
    first? cs = none ∧ withoutMarkers cs = cs := by
  have hbefore : ∀ i < cs.length, ¬StartsMarked ((cs ++ []).drop i) := by
    intro i _
    rw [List.append_nil]
    exact h i
  simpa [first?, withoutMarkers] using pass_plain hbefore

theorem exists_leftmost (cs : List Char) :
    (∀ i, ¬StartsMarked (cs.drop i)) ∨
      ∃ u, ∃ m ∈ markers, ∃ rest, cs = u ++ (m ++ rest) ∧
        ∀ i < u.length, ¬StartsMarked (cs.drop i) := by
  induction cs with
  | nil =>
    left
    rintro i ⟨m, hm, hprefix⟩
    obtain rfl : m = [] := by simpa using hprefix
    exact absurd hm (by decide)
  | cons c cs ih =>
    by_cases hhere : StartsMarked (c :: cs)
    · obtain ⟨m, hm, rest, hrest⟩ := hhere
      exact .inr ⟨[], m, hm, rest, hrest.symm, by simp⟩
    · rcases ih with hnone | ⟨u, m, hm, rest, hcs, hbefore⟩
      · left
        intro i
        cases i with
        | zero => exact hhere
        | succ i => exact hnone i
      · refine .inr ⟨c :: u, m, hm, rest, by rw [hcs]; rfl, ?_⟩
        intro i hi
        cases i with
        | zero => exact hhere
        | succ i => exact hbefore i (Nat.lt_of_succ_lt_succ hi)

/-! ## The one way to take a text apart -/

namespace Split

theorem exists_scans (cs : List Char) : ∃ pieces last, Scans pieces last cs := by
  -- Behind a marker the text is shorter, but not by one character, so the induction is strong.
  induction hn : cs.length using Nat.strongRecOn generalizing cs with
  | ind n ih =>
    rcases exists_leftmost cs with hnone | ⟨u, m, hm, rest, hcs, hbefore⟩
    · exact ⟨[], cs, rfl, hnone⟩
    · have hpos : 0 < m.length := by
        rcases m with _ | ⟨c, m⟩
        · exact absurd hm (by decide)
        · exact Nat.succ_pos _
      have hshorter : rest.length < n := by
        rw [← hn, hcs, List.length_append, List.length_append]
        omega
      obtain ⟨pieces, last, hscans⟩ := ih rest.length hshorter rest rfl
      exact ⟨(u, m) :: pieces, last, hm, hbefore, rest, hcs, hscans⟩

/-- Of two leftmost markers neither stands before the other. -/
theorem length_le_of_leftmost {cs u m rest u' : List Char} (hcs : cs = u ++ (m ++ rest))
    (hm : m ∈ markers) (hbefore : ∀ i < u'.length, ¬StartsMarked (cs.drop i)) :
    u'.length ≤ u.length := by
  by_contra hlt
  apply hbefore u.length (not_le.1 hlt)
  rw [hcs, List.drop_left]
  exact ⟨m, hm, rest, rfl⟩

theorem scans_unique {pieces pieces' : List (List Char × List Char)} {last last' cs : List Char}
    (h : Scans pieces last cs) (h' : Scans pieces' last' cs) :
    pieces = pieces' ∧ last = last' := by
  induction pieces generalizing pieces' cs with
  | nil =>
    obtain ⟨rfl, hnone⟩ := h
    cases pieces' with
    | nil => exact ⟨rfl, h'.1⟩
    | cons p pieces' =>
      -- The marker of the other split would stand in what has none.
      obtain ⟨hm, -, rest, hcs, -⟩ := h'
      refine absurd ?_ (hnone p.1.length)
      rw [hcs, List.drop_left]
      exact ⟨p.2, hm, rest, rfl⟩
  | cons p pieces ih =>
    obtain ⟨hm, hbefore, rest, hcs, hrest⟩ := h
    cases pieces' with
    | nil =>
      refine absurd ?_ (h'.2 p.1.length)
      rw [hcs, List.drop_left]
      exact ⟨p.2, hm, rest, rfl⟩
    | cons p' pieces' =>
      obtain ⟨hm', hbefore', rest', hcs', hrest'⟩ := h'
      have hlength : p.1.length = p'.1.length :=
        le_antisymm (length_le_of_leftmost hcs' hm' hbefore) (length_le_of_leftmost hcs hm hbefore')
      obtain ⟨hu, hmarked⟩ := List.append_inj (hcs.symm.trans hcs') hlength
      obtain ⟨hmm, rfl⟩ := marker_unique hm hm' hmarked
      obtain ⟨rfl, rfl⟩ := ih hrest hrest'
      exact ⟨by rw [Prod.ext hu hmm], rfl⟩

theorem existsUnique_of (cs : List Char) : ∃! s : Split, s.Of cs := by
  obtain ⟨pieces, last, h⟩ := exists_scans cs
  refine ⟨⟨pieces, last⟩, h, ?_⟩
  rintro ⟨pieces', last'⟩ h'
  obtain ⟨rfl, rfl⟩ := scans_unique h h'
  rfl

theorem first?_of_scans {pieces : List (List Char × List Char)} {last cs : List Char}
    (h : Scans pieces last cs) : first? cs = pieces.head?.map fun p => ofMarker p.2 := by
  cases pieces with
  | nil => exact (plain_of_unmarked h.2).1
  | cons p pieces =>
    obtain ⟨hm, hbefore, rest, rfl, -⟩ := h
    rw [(pass_plain hbefore).1, first?_append_marker hm]
    rfl

theorem withoutMarkers_of_scans {pieces : List (List Char × List Char)} {last cs : List Char}
    (h : Scans pieces last cs) : withoutMarkers cs = pieces.flatMap Prod.fst ++ last := by
  induction pieces generalizing cs with
  | nil =>
    obtain ⟨rfl, hnone⟩ := h
    exact (plain_of_unmarked hnone).2
  | cons p pieces ih =>
    obtain ⟨hm, hbefore, rest, rfl, hrest⟩ := h
    rw [(pass_plain hbefore).2, withoutMarkers_marker_append hm, ih hrest, List.flatMap_cons,
      List.append_assoc]

theorem extract_of {s : Split} {text : String} (h : s.Of text.toList) :
    extract text = (s.directive, String.ofList s.plain) := by
  rw [extract, first?_of_scans h, withoutMarkers_of_scans h]
  rfl

end Split

theorem resolve_eq_extract (p : Path) :
    resolve p = ((extract p.text).1, Path.ofString (extract p.text).2) := by
  simp [resolve, extract, Path.text, Path.ofString]

/-- The directive says that files are kept, or nothing says otherwise. -/
theorem overwrites_eq_false_iff (directive : Option WriteDirective) (overwrite : Bool) :
    overwrites directive overwrite = false ↔
      directive = some keep ∨ directive = none ∧ overwrite = false := by
  rcases directive with _ | _ | _ <;> simp [overwrites]

end WriteDirective

/-! ## Writing -/

namespace Host

variable {σ τ : Type} {h : Host (StateM σ)} {asked : σ → List Request} {files : σ → τ}

/-- Write a file; whether it is there is not looked at if that is skipped. -/
def attemptOutput {m : Type → Type} [Monad m] (host : Host m) (skipCheck overwrite : Bool)
    (path : Path) (content : String) : m (Option WriteOutcome) :=
  if skipCheck then host.replaceOutput path content else host.writeOutput overwrite path content

theorem NotesRequests.writeTarget (H : h.NotesRequests asked) (target : Path) (content : String)
    (t : σ) :
    asked (h.writeTarget target content t).2 = asked t ++ [.write target content] ∧
      (h.writeTarget target content t).1 =
        if (h.write target content t).1 then some (.written target) else none := by
  rw [Host.writeTarget, stateM_bind]
  cases (h.write target content t).1 with
  | false => exact ⟨H.write target content t, rfl⟩
  | true =>
    constructor
    · simp [H.log, H.write]
    · rfl

/-- A file is kept if the writer may look, is not told to overwrite it, and finds it. -/
def Keeps (h : Host (StateM σ)) (skipCheck overwrite : Bool) (path : Path) (t : σ) : Prop :=
  skipCheck = false ∧
    ((WriteDirective.extract path.text).1 = some .keep ∨
      (WriteDirective.extract path.text).1 = none ∧ overwrite = false) ∧
    (h.pathExists (.ofString (WriteDirective.extract path.text).2) t).1 = true

theorem attemptOutput_of_keeps {skipCheck overwrite : Bool} {path : Path} {t : σ}
    (hkeeps : h.Keeps skipCheck overwrite path t) (content : String) :
    let cleaned := Path.ofString (WriteDirective.extract path.text).2
    h.attemptOutput skipCheck overwrite path content t =
      (some (.keptExisting cleaned),
        (h.log (.debug "File exists, not overwritten" [("path", .str cleaned.shown)])
          (h.pathExists cleaned t).2).2) := by
  intro cleaned
  obtain ⟨rfl, hkeep, hfound⟩ := hkeeps
  have hover := (WriteDirective.overwrites_eq_false_iff _ _).2 hkeep
  rw [attemptOutput, if_neg Bool.false_ne_true, writeOutput, WriteDirective.resolve_eq_extract]
  simp only [hover, Bool.false_eq_true, if_false, stateM_bind, hfound, if_true, stateM_pure]
  rfl

/-- A write comes after a look, or after nothing. -/
theorem attemptOutput_of_not_keeps {skipCheck overwrite : Bool} {path : Path} {t : σ}
    (hnot : ¬h.Keeps skipCheck overwrite path t) (content : String) :
    let cleaned := Path.ofString (WriteDirective.extract path.text).2
    ∃ t', (t' = t ∨ t' = (h.pathExists cleaned t).2) ∧
      h.attemptOutput skipCheck overwrite path content t = h.writeTarget cleaned content t' := by
  intro cleaned
  cases skipCheck with
  | true =>
    refine ⟨t, .inl rfl, ?_⟩
    rw [attemptOutput, if_pos rfl, replaceOutput, WriteDirective.target,
      WriteDirective.resolve_eq_extract]
  | false =>
    rw [attemptOutput, if_neg Bool.false_ne_true, writeOutput, WriteDirective.resolve_eq_extract]
    cases hover : WriteDirective.overwrites (WriteDirective.extract path.text).1 overwrite with
    | true =>
      refine ⟨t, .inl rfl, ?_⟩
      simp only [hover, if_true]
      rfl
    | false =>
      have hkeep := (WriteDirective.overwrites_eq_false_iff _ _).1 hover
      have hmissing :
          (h.pathExists (.ofString (WriteDirective.extract path.text).2) t).1 = false := by
        rw [← Bool.not_eq_true]
        exact fun hfound => hnot ⟨rfl, hkeep, hfound⟩
      refine ⟨_, .inr rfl, ?_⟩
      simp only [hover, Bool.false_eq_true, if_false, stateM_bind, hmissing]
      rfl

/-- Each text has one split at its markers, which gives its directive and what is left without
them. Obeying the directive, or else the flag, a file that is kept is named as kept and nothing
has changed; any other attempt is one request to write the content to the cleaned path, and the
answer decides what is returned. -/
theorem directives_extracted_and_obeyed (H : h.NotesRequests asked)
    (hlook : ∀ p, Quiet files (h.pathExists p)) (hlog : ∀ e, Quiet files (h.log e))
    (skipCheck overwrite : Bool) (path : Path) (content : String) (t : σ) :
    let cleaned := Path.ofString (WriteDirective.extract path.text).2
    let result := (h.attemptOutput skipCheck overwrite path content t).1
    let after := (h.attemptOutput skipCheck overwrite path content t).2
    (∀ text : String, (∃! s : WriteDirective.Split, s.Of text.toList) ∧
      ∀ s : WriteDirective.Split, s.Of text.toList →
        WriteDirective.extract text = (s.directive, String.ofList s.plain)) ∧
      (∀ p, result = some (.keptExisting p) ↔
        p = cleaned ∧ h.Keeps skipCheck overwrite path t) ∧
      (h.Keeps skipCheck overwrite path t → asked after = asked t ∧ files after = files t) ∧
      (¬h.Keeps skipCheck overwrite path t →
        asked after = asked t ++ [.write cleaned content] ∧
          ∃ t', asked t' = asked t ∧ files t' = files t ∧
            result = if (h.write cleaned content t').1 then some (.written cleaned) else none) := by
  intro cleaned result after
  have hkept (hkeeps : h.Keeps skipCheck overwrite path t) :
      result = some (.keptExisting cleaned) ∧ asked after = asked t ∧ files after = files t := by
    have heq := attemptOutput_of_keeps hkeeps content
    refine ⟨congrArg Prod.fst heq, ?_, ?_⟩
    · rw [show after = _ from congrArg Prod.snd heq, H.log, H.pathExists]
    · rw [show after = _ from congrArg Prod.snd heq, hlog, hlook]
  have hwritten (hnot : ¬h.Keeps skipCheck overwrite path t) :
      asked after = asked t ++ [.write cleaned content] ∧
        ∃ t', asked t' = asked t ∧ files t' = files t ∧
          result = if (h.write cleaned content t').1 then some (.written cleaned) else none := by
    obtain ⟨t', ht', heq⟩ := attemptOutput_of_not_keeps hnot content
    have hasked : asked t' = asked t := by
      rcases ht' with rfl | rfl
      · rfl
      · exact H.pathExists _ t
    have hfiles : files t' = files t := by
      rcases ht' with rfl | rfl
      · rfl
      · exact hlook _ t
    obtain ⟨hwrite, hanswer⟩ := H.writeTarget cleaned content t'
    rw [← hasked, ← hfiles]
    exact ⟨(congrArg (fun r => asked r.2) heq).trans hwrite, t', rfl, rfl,
      (congrArg Prod.fst heq).trans hanswer⟩
  refine ⟨fun text => ⟨WriteDirective.Split.existsUnique_of _,
    fun s hs => WriteDirective.Split.extract_of hs⟩, ?_, fun hkeeps => (hkept hkeeps).2, hwritten⟩
  intro p
  constructor
  · intro hresult
    by_cases hkeeps : h.Keeps skipCheck overwrite path t
    · rw [(hkept hkeeps).1, Option.some_inj, WriteOutcome.keptExisting.injEq] at hresult
      exact ⟨hresult.symm, hkeeps⟩
    · obtain ⟨-, t', -, -, hanswer⟩ := hwritten hkeeps
      rw [hanswer] at hresult
      split at hresult <;> cases hresult
  · rintro ⟨rfl, hkeeps⟩
    exact (hkept hkeeps).1

/-- A marker for keeping goes before the flag of the run, and the marker behind it is just cut
out. -/
theorem marked_file_kept :
    let path := Path.ofString "a!!nw.t!!wxt"
    let start : Journal := ⟨{ entries := [(["a.txt".toList], .file "old")] }, []⟩
    let kept := (Journal.host {}).attemptOutput false true path "new" start
    (Journal.host {}).NotesRequests Journal.asked ∧
      (∀ p, Quiet Journal.files ((Journal.host {}).pathExists p)) ∧
      (∀ e, Quiet Journal.files ((Journal.host {}).log e)) ∧
      (Journal.host {}).Keeps false true path start ∧
      kept.1 = some (.keptExisting (.ofString "a.txt")) ∧ kept.2.asked = start.asked ∧
      kept.2.files = start.files := by
  intro path start kept
  have hnotes := Journal.host_notesRequests {}
  have hlook : ∀ p, Quiet Journal.files ((Journal.host {}).pathExists p) := fun _ _ => rfl
  have hlog : ∀ e, Quiet Journal.files ((Journal.host {}).log e) := fun _ _ => rfl
  have hkeeps : (Journal.host {}).Keeps false true path start :=
    ⟨rfl, .inl (by decide +kernel), by decide +kernel⟩
  have hcleaned : Path.ofString "a.txt" = .ofString (WriteDirective.extract path.text).2 := by
    decide +kernel
  obtain ⟨-, hresult, hunchanged, -⟩ :=
    directives_extracted_and_obeyed hnotes hlook hlog false true path "new" start
  obtain ⟨hasked, hfiles⟩ := hunchanged hkeeps
  exact ⟨hnotes, hlook, hlog, hkeeps, (hresult _).2 ⟨hcleaned, hkeeps⟩, hasked, hfiles⟩

end Host

end Scaffold

import Mathlib
import Scaffold.Proofs.Host.Put

/-!
# Mock data as a list of files

Payloads do not depend on the files either. Mock data is a list of files, known before the first
of them is written; they are put one after the other and counted.
-/

namespace Scaffold

namespace Host

variable {m : Type → Type} [Monad m]

/-- Put files one after the other and count what came of them. -/
def putAll (host : Host m) (overwrite : Bool) : List (Path × String) → Report → m Report
  | [], r => return r
  | e :: es, r => do
    let result ← host.put overwrite e.1 e.2
    host.putAll overwrite es (r.record result)

@[simp] theorem putAll_nil (host : Host m) (overwrite : Bool) (r : Report) :
    host.putAll overwrite [] r = pure r := rfl

@[simp] theorem putAll_cons (host : Host m) (overwrite : Bool) (e : Path × String)
    (es : List (Path × String)) (r : Report) :
    host.putAll overwrite (e :: es) r =
      host.put overwrite e.1 e.2 >>= fun result =>
        host.putAll overwrite es (r.record result) := rfl

theorem putAll_append [LawfulMonad m] (host : Host m) (overwrite : Bool)
    (xs ys : List (Path × String)) (r : Report) :
    host.putAll overwrite (xs ++ ys) r =
      host.putAll overwrite xs r >>= host.putAll overwrite ys := by
  induction xs generalizing r with
  | nil => simp
  | cons e xs ih =>
    simp only [List.cons_append, putAll_cons, bind_assoc]
    exact bind_congr fun result => ih _

end Host

namespace Mock

/-- A payload and its filter. -/
def pairEntries (stem : Path) (json : Json) : List (Path × String) :=
  [(stem.appendText ".json", payloadText json), (stem.appendText ".js", defaultFilter)]

def interfaceJson (p : MockProvider) (s : Spec) (i : Interface) : Json :=
  (p.applyScript s.constraints
    (p.synthesize s.constraints i.resFormat i.params.outputs s.typeCatalog).json i).json

def templateJson (p : MockProvider) (s : Spec) (t : PageTemplate) : Json :=
  if t.params.isEmpty then withTexts t (.obj [])
  else withTexts t (p.synthesize s.constraints Format.hash t.params s.typeCatalog).json

def interfaceEntries (p : MockProvider) (s : Spec) (root : Path) (is : List Interface) :
    List (Path × String) :=
  is.flatMap fun i => pairEntries (root.joinRendered (mockFile i)) (interfaceJson p s i)

def templateEntries (p : MockProvider) (s : Spec) (root : Path) (ts : List PageTemplate) :
    List (Path × String) :=
  (ts.filter (isShown s)).flatMap fun t =>
    pairEntries (root.joinRendered (stripExtension t.path)) (templateJson p s t)

/-- All mock files that have a root. -/
def entries (p : MockProvider) (s : Spec) (apiRoot viewRoot : Option Path) :
    List (Path × String) :=
  (match apiRoot with
    | some root => interfaceEntries p s root s.interfaces
    | none => []) ++
  match viewRoot with
  | some root => templateEntries p s root s.templates
  | none => []

/-- The rules of interfaces, if they have a root. -/
def rules (s : Spec) (apiRoot : Option Path) : List MockRule :=
  if apiRoot.isSome then s.interfaces.map ruleOf else []

section Follows

variable {σ τ : Type} {view : σ → τ} {d : Host (StateM τ)} {w : Setup (StateM σ)}

theorem tell_follows (H : w.host.Follows view d) (data : MockData) (subject : String) :
    Follows view (tell w.host data subject) (pure ()) := by
  unfold tell
  refine (H.logAll _).step ?_
  split
  · exact H.log _
  · exact .pure ()

theorem writeOne_follows (H : w.host.Follows view d) (path : Path) (content : String)
    (r : Report) :
    Follows view (writeOne w path content r) (r.record <$> d.put w.overwrite path content) := by
  have hsilent := writeOne_eq_put (w := ⟨d, w.overwrite, w.provider⟩) H.silent path content r
  rw [← show writeOne ⟨d, w.overwrite, w.provider⟩ path content r = _ from hsilent]
  unfold writeOne
  refine (H.ensureParent path).bind fun _ => .ite ?_ ?_
  · exact (H.writeOutput _ _ _).bind fun _ => H.recordWrite _ _ _
  · exact (H.log_eq _).bind fun _ => .pure _

theorem writePair_follows (H : w.host.Follows view d) (stem : Path) (json : Json) (r : Report) :
    Follows view (writePair w stem json r)
      (d.putAll w.overwrite (pairEntries stem json) r) := by
  unfold writePair pairEntries
  have hfirst := writeOne_follows H (stem.appendText ".json") (payloadText json) r
  have hpair := hfirst.bind fun r => writeOne_follows H (stem.appendText ".js") defaultFilter r
  simpa using hpair

theorem interfacePayload_follows (H : w.host.Follows view d) (s : Spec) (i : Interface) :
    Follows view (interfacePayload w s i) (pure (interfaceJson w.provider s i)) := by
  unfold interfacePayload interfaceJson
  exact (tell_follows H _ _).step ((tell_follows H _ _).step (.pure _))

theorem writeInterfaces_follows (H : w.host.Follows view d) (s : Spec) (root : Path)
    (is : List Interface) (r : Report) :
    Follows view (writeInterfaces w s root is r)
      ((is.map ruleOf, ·) <$>
        d.putAll w.overwrite (interfaceEntries w.provider s root is) r) := by
  induction is generalizing r with
  | nil => exact .pure _
  | cons i is ih =>
    unfold writeInterfaces
    refine (interfacePayload_follows H s i).step ?_
    have hpair := writePair_follows H (root.joinRendered (mockFile i))
      (interfaceJson w.provider s i) r
    have hall := hpair.bind fun r => (ih r).bind fun a => Follows.pure (ruleOf i :: a.1, a.2)
    simpa [interfaceEntries, Host.putAll_append] using hall

theorem templatePayload_follows (H : w.host.Follows view d) (s : Spec) (t : PageTemplate) :
    Follows view (templatePayload w s t) (pure (templateJson w.provider s t)) := by
  unfold templatePayload templateJson
  split
  · exact .pure _
  · exact (tell_follows H _ _).step (.pure _)

theorem writeTemplates_follows (H : w.host.Follows view d) (s : Spec) (root : Path)
    (ts : List PageTemplate) (r : Report) :
    Follows view (writeTemplates w s root ts r)
      (d.putAll w.overwrite (templateEntries w.provider s root ts) r) := by
  induction ts generalizing r with
  | nil => exact .pure _
  | cons t ts ih =>
    unfold writeTemplates
    cases hshown : isShown s t with
    | false => simpa [templateEntries, hshown] using ih r
    | true =>
      simp only [if_true]
      refine (templatePayload_follows H s t).step ?_
      have hpair := writePair_follows H (root.joinRendered (stripExtension t.path))
        (templateJson w.provider s t) r
      simpa [templateEntries, hshown, Host.putAll_append] using hpair.bind ih

/-- Mock data comes to its list of files. -/
theorem writeAll_follows (H : w.host.Follows view d) (s : Spec) (apiRoot viewRoot : Option Path) :
    Follows view (writeAll w s apiRoot viewRoot)
      ((rules s apiRoot, ·) <$>
        d.putAll w.overwrite (entries w.provider s apiRoot viewRoot) {}) := by
  have htemplates : ∀ (rules : List MockRule) (r : Report),
      Follows view
        (match viewRoot with
          | some root => do return (rules, ← writeTemplates w s root s.templates r)
          | none => return (rules, r))
        ((rules, ·) <$> d.putAll w.overwrite
          (match viewRoot with
            | some root => templateEntries w.provider s root s.templates
            | none => []) r) := by
    intro rules r
    cases viewRoot with
    | none => simpa using Follows.pure (rules, r)
    | some root =>
      have h := (writeTemplates_follows H s root s.templates r).bind fun r =>
        Follows.pure (rules, r)
      simpa using h
  unfold writeAll entries
  cases apiRoot with
  | none => exact htemplates [] {}
  | some root =>
    have h := (writeInterfaces_follows H s root s.interfaces {}).bind fun a =>
      htemplates a.1 a.2
    simp only [bind_map_left] at h
    simp only [Host.putAll_append, map_bind, rules, Option.isSome_some, if_true]
    exact h

end Follows

end Mock

end Scaffold

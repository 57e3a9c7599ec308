import Mathlib
import Scaffold.Proofs.Walk.Helper
import Scaffold.Render.Registry

/-!
# Registering helpers

A registry is filled by one registration after another, of which some fail. Afterwards every name
stands for the last script that was registered under it, and else for what is built in; the names
are listed in the order in which they came. Filling a registry from a document tree is a sequence
of registrations, too.
-/

namespace Scaffold

/-- A script to be registered under a name. -/
structure Registration where
  name : String
  source : String

namespace Registration

variable (compile? : String → Option Script.Program)

/-- The script that is registered, unless there is no name or the source is no script. -/
def script? (c : Registration) : Option Script.Program :=
  if c.name = "" then none else compile? c.source

def succeeds (c : Registration) : Bool :=
  (c.script? compile?).isSome

/-- The script of the last registration under a name that succeeds. -/
def lastScript? (name : String) (cs : List Registration) : Option Script.Program :=
  cs.reverse.findSome? fun c => if c.name = name then c.script? compile? else none

/-- The names of the registrations that succeed, each where it comes first. -/
def firstNames (cs : List Registration) : List String :=
  ((cs.filter (succeeds compile?)).map (·.name)).eraseDups

/-- What a file node asks to be registered. -/
def ofFile? (f : DocFile) : Option Registration :=
  if f.dataSource = .handlebarHelper then (helperName? f.name).map (⟨·, f.content⟩) else none

/-- What the helper nodes of a tree ask to be registered, in document order. -/
def ofDocs (docs : List DocNode) : List Registration :=
  (DocNode.filesBelow (fun _ => true) docs).filterMap ofFile?

variable {compile?}

theorem script?_eq_none_iff {c : Registration} :
    c.script? compile? = none ↔ c.name = "" ∨ compile? c.source = none := by
  unfold script?
  split_ifs with hname <;> simp [hname]

@[simp] theorem lastScript?_nil (name : String) : lastScript? compile? name [] = none := rfl

theorem lastScript?_concat (name : String) (cs : List Registration) (c : Registration) :
    lastScript? compile? name (cs ++ [c]) =
      if c.name = name then (c.script? compile?).or (lastScript? compile? name cs)
      else lastScript? compile? name cs := by
  simp only [lastScript?, List.reverse_append, List.reverse_singleton, List.singleton_append,
    List.findSome?_cons]
  by_cases hname : c.name = name
  · cases c.script? compile? <;> simp [hname]
  · simp [hname]

@[simp] theorem firstNames_nil : firstNames compile? [] = [] := rfl

theorem eraseDups_concat (names : List String) (name : String) :
    (names ++ [name]).eraseDups =
      if name ∈ names then names.eraseDups else names.eraseDups ++ [name] := by
  rw [List.eraseDups_append]
  by_cases hmem : name ∈ names <;> simp [List.removeAll, List.eraseDups_cons, hmem]

theorem firstNames_concat (cs : List Registration) (c : Registration) :
    firstNames compile? (cs ++ [c]) =
      if c.succeeds compile? = true ∧ c.name ∉ firstNames compile? cs then
        firstNames compile? cs ++ [c.name]
      else firstNames compile? cs := by
  unfold firstNames
  rw [List.filter_append, List.map_append]
  by_cases hc : c.succeeds compile? = true
  · rw [List.filter_cons_of_pos hc, List.filter_nil, List.map_singleton, eraseDups_concat]
    split_ifs <;> simp_all
  · rw [List.filter_cons_of_neg hc]
    simp [hc]

end Registration

namespace HelperRegistry

/-! ## Putting a script under a name -/

section Put

variable (name : String) (script : Script.Program) (helpers : List (String × Script.Program))

theorem lookup_put (n : String) :
    (put name script helpers).lookup n = if n = name then some script else helpers.lookup n := by
  induction helpers with
  | nil =>
    rw [put, List.lookup_cons]
    by_cases hn : n = name
    · simp [hn]
    · simp [hn, beq_eq_false_iff_ne.2 hn]
  | cons h hs ih =>
    obtain ⟨m, s⟩ := h
    rw [put]
    by_cases hm : m = name
    · subst hm
      rw [if_pos rfl, List.lookup_cons, List.lookup_cons]
      by_cases hn : n = m
      · simp [hn]
      · simp [hn, beq_eq_false_iff_ne.2 hn]
    · rw [if_neg hm, List.lookup_cons, List.lookup_cons, ih]
      by_cases hn : n = m
      · subst hn
        simp [hm]
      · simp [beq_eq_false_iff_ne.2 hn]

theorem names_put :
    (put name script helpers).map (·.1) =
      if name ∈ helpers.map (·.1) then helpers.map (·.1) else helpers.map (·.1) ++ [name] := by
  induction helpers with
  | nil => simp [put]
  | cons h hs ih =>
    obtain ⟨m, s⟩ := h
    rw [put]
    by_cases hm : m = name
    · simp [hm]
    · rw [if_neg hm, List.map_cons, List.map_cons, ih]
      have hname : name ≠ m := fun heq => hm heq.symm
      simp only [List.mem_cons, hname, false_or]
      split_ifs <;> rfl

end Put

/-! ## Sequences of registrations -/

variable (compile? : String → Option Script.Program)

/-- The registry after a registration; one that fails leaves it as it is. -/
def perform (r : HelperRegistry) (c : Registration) : HelperRegistry :=
  match registerBy compile? r c.name c.source with
  | .ok r' => r'
  | .error _ => r

def performAll (r : HelperRegistry) (cs : List Registration) : HelperRegistry :=
  cs.foldl (perform compile?) r

theorem registerBy_eq (r : HelperRegistry) (c : Registration) :
    registerBy compile? r c.name c.source =
      match c.script? compile? with
      | some script => .ok ⟨put c.name script r.helpers⟩
      | none => .error (if c.name = "" then .noName c.name else .badScript c.name) := by
  unfold registerBy Registration.script?
  split_ifs with hname
  · rfl
  · cases compile? c.source <;> rfl

theorem perform_eq (r : HelperRegistry) (c : Registration) :
    perform compile? r c =
      match c.script? compile? with
      | some script => ⟨put c.name script r.helpers⟩
      | none => r := by
  rw [perform, registerBy_eq]
  cases c.script? compile? <;> rfl

theorem performAll_append (r : HelperRegistry) (cs ds : List Registration) :
    performAll compile? r (cs ++ ds) = performAll compile? (performAll compile? r cs) ds :=
  List.foldl_append

theorem performAll_concat (r : HelperRegistry) (cs : List Registration) (c : Registration) :
    performAll compile? r (cs ++ [c]) = perform compile? (performAll compile? r cs) c :=
  performAll_append compile? r cs [c]

theorem find?_perform (r : HelperRegistry) (c : Registration) (name : String) :
    (perform compile? r c).find? name =
      if c.name = name then (c.script? compile?).or (r.find? name) else r.find? name := by
  rw [perform_eq]
  cases c.script? compile? with
  | none => simp
  | some script =>
    simp only [find?, lookup_put, eq_comm (a := name), Option.some_or]

theorem names_perform (r : HelperRegistry) (c : Registration) :
    (perform compile? r c).names =
      if c.succeeds compile? = true ∧ c.name ∉ r.names then r.names ++ [c.name] else r.names := by
  rw [perform_eq, Registration.succeeds]
  cases c.script? compile? with
  | none => simp
  | some script =>
    simp only [names, names_put, Option.isSome_some, true_and, ite_not]

theorem find?_performAll (cs : List Registration) (name : String) :
    (performAll compile? {} cs).find? name = Registration.lastScript? compile? name cs := by
  induction cs using List.reverseRecOn with
  | nil => rfl
  | append_singleton cs c ih =>
    rw [performAll_concat, find?_perform, ih, Registration.lastScript?_concat]

theorem names_performAll (cs : List Registration) :
    (performAll compile? {} cs).names = Registration.firstNames compile? cs := by
  induction cs using List.reverseRecOn with
  | nil => rfl
  | append_singleton cs c ih =>
    rw [performAll_concat, names_perform, ih, Registration.firstNames_concat]

/-- Each name is listed once, whatever was registered again. -/
theorem nodup_names_performAll (cs : List Registration) :
    (performAll compile? {} cs).names.Nodup := by
  induction cs using List.reverseRecOn with
  | nil => exact List.nodup_nil
  | append_singleton cs c ih =>
    rw [performAll_concat, names_perform]
    split_ifs with h
    · refine List.nodup_append.2 ⟨ih, List.nodup_singleton _, fun name hname other hother => ?_⟩
      rw [List.mem_singleton.1 hother]
      exact fun heq => h.2 (heq ▸ hname)
    · exact ih

/-! ## Filling a registry from a tree -/

namespace Loading

theorem addFile_performs (l : Loading) (f : DocFile) :
    (addFile compile? l f).registry =
        performAll compile? l.registry (Registration.ofFile? f).toList ∧
      (addFile compile? l f).count =
        l.count + (Registration.ofFile? f).toList.countP (Registration.succeeds compile?) := by
  unfold addFile Registration.ofFile?
  by_cases hsource : f.dataSource = .handlebarHelper
  · rw [if_pos hsource, if_pos hsource, registerNode]
    cases helperName? f.name with
    | none => exact ⟨rfl, rfl⟩
    | some name =>
      have hregister := registerBy_eq compile? l.registry ⟨name, f.content⟩
      have hperform := perform_eq compile? l.registry ⟨name, f.content⟩
      simp only [Option.map_some, Option.toList_some, performAll, List.foldl_cons, List.foldl_nil,
        List.countP_singleton, Registration.succeeds, hregister, hperform]
      obtain hscript | ⟨script, hscript⟩ :=
        Option.eq_none_or_eq_some (Registration.script? compile? ⟨name, f.content⟩)
      · simp [hscript]
      · simp [hscript]
  · rw [if_neg hsource, if_neg hsource]
    exact ⟨rfl, rfl⟩

mutual

theorem addNode_performs : ∀ (n : DocNode) (l : Loading),
    (addNode compile? l n).registry = performAll compile? l.registry
        ((DocNode.filesFrom (fun _ => true) n).filterMap Registration.ofFile?) ∧
      (addNode compile? l n).count = l.count +
        ((DocNode.filesFrom (fun _ => true) n).filterMap Registration.ofFile?).countP
          (Registration.succeeds compile?)
  | .file f, l => by
    rw [addNode, DocNode.filesFrom, List.filterMap_cons, List.filterMap_nil]
    have hfile := addFile_performs compile? l f
    cases hregistration : Registration.ofFile? f <;> rw [hregistration] at hfile <;> exact hfile
  | .directory _ _ children, l => by
    rw [addNode, DocNode.filesFrom, if_pos rfl]
    exact addNodes_performs children l

/-- The helpers of a tree are registered one after another, and the ones that are counted. -/
theorem addNodes_performs : ∀ (docs : List DocNode) (l : Loading),
    (addNodes compile? l docs).registry =
        performAll compile? l.registry (Registration.ofDocs docs) ∧
      (addNodes compile? l docs).count =
        l.count + (Registration.ofDocs docs).countP (Registration.succeeds compile?)
  | [], l => ⟨rfl, rfl⟩
  | n :: ns, l => by
    obtain ⟨hregistry, hcount⟩ := addNode_performs n l
    obtain ⟨hregistries, hcounts⟩ := addNodes_performs ns (addNode compile? l n)
    rw [addNodes, Registration.ofDocs, DocNode.filesBelow, List.filterMap_append,
      performAll_append, List.countP_append]
    constructor
    · rw [hregistries, hregistry]
      rfl
    · rw [hcounts, hcount, Nat.add_assoc]
      rfl

end

end Loading

/-- A registration fails without a name or without a script, and then it changes nothing. After
any registrations, from an empty registry on, a name stands for the last script that was
registered under it, and else for the built-in helper. -/
theorem registrations_settle_names (compile? : String → Option Script.Program) :
    (∀ (r : HelperRegistry) (c : Registration),
      ((∃ e, registerBy compile? r c.name c.source = .error e) ↔
          c.name = "" ∨ compile? c.source = none) ∧
        (c.name = "" ∨ compile? c.source = none → perform compile? r c = r)) ∧
    (∀ cs : List Registration,
      let r := performAll compile? {} cs
      (∀ data name, (r.env data).helper? name =
        match Registration.lastScript? compile? name cs with
        | some script => some (.custom (asHelper script))
        | none => Template.builtIn? data name) ∧
      r.names.Nodup ∧ r.names = Registration.firstNames compile? cs) ∧
    ∀ (r : HelperRegistry) (docs : List DocNode),
      let l := Loading.addNodes compile? { registry := r } docs
      l.registry = performAll compile? r (Registration.ofDocs docs) ∧
        l.count = (Registration.ofDocs docs).countP (Registration.succeeds compile?) := by
  refine ⟨fun r c => ?_, fun cs => ⟨fun data name => ?_, ?_, ?_⟩, fun r docs => ?_⟩
  · rw [← Registration.script?_eq_none_iff, registerBy_eq, perform_eq]
    cases c.script? compile? <;> simp
  · unfold Template.Env.helper? env
    simp only [find?_performAll]
    cases Registration.lastScript? compile? name cs <;> rfl
  · exact nodup_names_performAll compile? cs
  · exact names_performAll compile? cs
  · obtain ⟨hregistry, hcount⟩ := Loading.addNodes_performs compile? docs { registry := r }
    exact ⟨hregistry, hcount.trans (Nat.zero_add _)⟩

/-- A script that was registered again under the name of a built-in helper stands before it, and
the failed registrations around it leave nothing. -/
theorem registrations_replace_built_in :
    let cs : List Registration :=
      [⟨"eq", "params[0]"⟩, ⟨"", "1"⟩, ⟨"shout", "params[0].to_upper()"⟩, ⟨"eq", "params[1]"⟩,
        ⟨"eq", "let = ;"⟩]
    let docs : List DocNode :=
      [.directory 1 "helpers"
        [.file ⟨2, "ne.rhai", none, .handlebarHelper, "let = ;"⟩,
          .file ⟨3, "ne.rhai", none, .handlebarHelper, "params[0]"⟩]]
    let r := performAll Script.parse? {} cs
    perform Script.parse? r ⟨"eq", "let = ;"⟩ = r ∧
      (∃ script, Script.parse? "params[1]" = some script ∧
        ∀ data, (r.env data).helper? "eq" = some (.custom (asHelper script))) ∧
      (∀ data, (r.env data).helper? "ne" = Template.builtIn? data "ne") ∧
      r.names = ["eq", "shout"] ∧
      (Loading.addNodes Script.parse? { registry := r } docs).count = 1 := by
  intro cs docs r
  obtain ⟨hfail, hsettle, hload⟩ := registrations_settle_names Script.parse?
  obtain ⟨hhelper, -, hnames⟩ := hsettle cs
  have hbroken : Script.parse? "let = ;" = none := Option.isNone_iff_eq_none.1 (by decide +kernel)
  refine ⟨(hfail r _).2 (.inr hbroken), ?_, fun data => ?_, ?_, ?_⟩
  · obtain ⟨script, hscript⟩ : ∃ script, Script.parse? "params[1]" = some script :=
      Option.isSome_iff_exists.1 (by decide +kernel)
    have hlast : Registration.lastScript? Script.parse? "eq" cs = some script := by
      simp [Registration.lastScript?, Registration.script?, cs, hbroken, hscript]
    refine ⟨script, hscript, fun data => ?_⟩
    rw [hhelper data "eq", hlast]
  · rw [hhelper data "ne"]
    rfl
  · rw [hnames]
    decide +kernel
  · rw [(hload r docs).2]
    decide +kernel

end HelperRegistry

end Scaffold

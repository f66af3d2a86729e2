/-
  The order of types in a snapshot does not matter.

  Types are looked up by their names, of which each is declared once, so analyses cannot tell the
  order of the types (`Context.alike_of_perm`). Only the handlers collected for a graph come in that
  order, and no built-in rule looks at them. Thus the rules find the same in every type, and the
  reports differ at most in the order of violations that are tied:
  `Analyzer.analyzeSnapshot_reordered`.
-/
import Mathlib.Data.List.Forall2
import SnapshotLint.Proofs.NameLookup
import SnapshotLint.Proofs.RegisteredHandler
import SnapshotLint.Proofs.ReportedOnce
import SnapshotLint.Proofs.ReportOrder

namespace SnapshotLint

variable {s s' : Snapshot}

/-- A name stands for the same type wherever the type is in the list. -/
theorem Snapshot.find?_perm (h : s.types.Perm s'.types) : s.find? = s'.find? := by
  funext name
  cases hfind : s.find? name with
  | none =>
    rw [find?, List.find?_eq_none] at hfind
    exact (List.find?_eq_none.2 fun t ht => hfind t (h.mem_iff.2 ht)).symm
  | some t =>
    have ht : t ∈ s'.types := h.mem_iff.1 (mem_of_find? hfind)
    rw [← find?_name hfind, find?_of_mem ht]

theorem Context.alike_of_perm (f : Framework) (h : s.types.Perm s'.types) :
    Context.Alike ⟨s, f⟩ ⟨s', f⟩ :=
  ⟨rfl, Snapshot.find?_perm h, h.length_eq⟩

/-! ## Handlers in another order -/

/-- The models differ at most in the order of the initializers. -/
def EventModel.Rearranged (m m' : EventModel) : Prop :=
  ∃ is, m.graph.initializers.Perm is ∧ m' = { m with graph := { m.graph with initializers := is } }

/-- The same registrations in any order. -/
def InstanceCreatedHandlers.Rearranged (h h' : InstanceCreatedHandlers) : Prop :=
  h.registrations.Perm h'.registrations

theorem InstanceCreatedHandlers.collect_rearranged (f : Framework) (h : s.types.Perm s'.types) :
    ((collect ⟨s, f⟩).answer s).Rearranged ((collect ⟨s', f⟩).answer s') := by
  have hs := answer_collect ⟨s, f⟩
  have hs' := answer_collect ⟨s', f⟩
  rw [Rearranged, hs, hs']
  exact h.flatMap_right ofType

variable {handlers handlers' : InstanceCreatedHandlers}

theorem GraphModel.withHandlers_rearranged (h : handlers.Rearranged handlers') (ctx : Context)
    (t : TypeHandle) : ∃ is,
      ((withHandlers ctx handlers t).answer ctx.snapshot).initializers.Perm is ∧
      (withHandlers ctx handlers' t).answer ctx.snapshot =
        { (withHandlers ctx handlers t).answer ctx.snapshot with initializers := is } := by
  simp only [withHandlers, Analysis.answer_bind]
  generalize (ofType ctx t).answer ctx.snapshot = g
  split
  · refine ⟨_, ?_, rfl⟩
    exact ((h.filter _).map _).append_left _
  · exact ⟨_, .refl _, rfl⟩

theorem EventModel.explicit_rearranged (h : handlers.Rearranged handlers') (ctx : Context)
    (t : TypeHandle) : Option.Rel Rearranged ((explicit ctx handlers t).answer ctx.snapshot)
      ((explicit ctx handlers' t).answer ctx.snapshot) := by
  obtain ⟨is, hperm, heq⟩ := GraphModel.withHandlers_rearranged h ctx t
  simp only [explicit, Analysis.answer_bind, heq]
  generalize (GraphModel.withHandlers ctx handlers t).answer ctx.snapshot = g at hperm ⊢
  split
  · exact .none
  · next hrole =>
    simp only [Analysis.answer_bind, Analysis.answer_pure, ofGraph, if_neg hrole]
    exact .some ⟨is, hperm, rfl⟩

/-- No built-in rule looks at the initializers of a graph. -/
theorem Rule.BuiltInGraph.found_rearranged {r : GraphRule} (h : BuiltInGraph r) (ctx ctx' : Context)
    {m m' : EventModel} (hm : m.Rearranged m') :
    r.applies m = r.applies m' ∧ r.found ctx m = r.found ctx' m' := by
  obtain ⟨is, -, rfl⟩ := hm
  -- what a rule visits does not mention the initializers, so both sides compute to the same
  cases h with
  | extensionConstructor severity =>
    have hfound := (extensionConstructorSurvey severity).found_eq
    exact ⟨rfl, (hfound ctx _).trans (hfound ctx' _).symm⟩
  | classicSignature severity =>
    have hfound := (classicSignatureSurvey severity).found_eq
    exact ⟨rfl, (hfound ctx _).trans (hfound ctx' _).symm⟩

/-! ## Alike contexts -/

section
variable {ctx ctx' : Context} (hctx : ctx.Alike ctx')
include hctx

theorem EventModel.explicit_alike (hhandlers : handlers.Rearranged handlers') (t : TypeHandle) :
    Option.Rel Rearranged ((explicit ctx handlers t).answer ctx.snapshot)
      ((explicit ctx' handlers' t).answer ctx'.snapshot) := by
  rw [← hctx.explicit, ← Analysis.answer_congr hctx.find?]
  exact explicit_rearranged hhandlers ctx t

theorem EventModel.modelsOf_alike (hhandlers : handlers.Rearranged handlers') (t : TypeSymbol) :
    List.Forall₂ Rearranged (modelsOf ctx handlers t) (modelsOf ctx' handlers' t) := by
  have hrel := explicit_alike hctx hhandlers ⟨t, .snapshot⟩
  unfold modelsOf
  generalize (explicit ctx handlers ⟨t, .snapshot⟩).answer ctx.snapshot = m at hrel ⊢
  generalize (explicit ctx' handlers' ⟨t, .snapshot⟩).answer ctx'.snapshot = m' at hrel ⊢
  cases hrel with
  | none => exact .nil
  | some h => exact .cons h .nil

theorem DacModel.modelsOf_alike (t : TypeSymbol) : modelsOf ctx t = modelsOf ctx' t := by
  rw [modelsOf, hctx.inferDacs, Analysis.answer_congr hctx.find?]
  rfl

namespace Rule

theorem BuiltInDac.found_alike {r : DacRule} (h : BuiltInDac r) (d : DacModel) :
    r.found ctx d = r.found ctx' d := by
  cases h with
  | reservedField severity extra =>
    have hfound := (reservedFieldSurvey severity extra).found_eq
    refine (hfound ctx d).trans (Eq.trans ?_ (hfound ctx' d).symm)
    simp only [reservedFieldSurvey, hctx.framework]
  | unsafeDefault severity =>
    have hjudge : judgeDefault severity ctx = judgeDefault severity ctx' := by
      funext d p
      simp only [judgeDefault, hctx.findIssue?]
    have hfound := (unsafeDefaultSurvey severity).found_eq
    refine (hfound ctx d).trans (Eq.trans ?_ (hfound ctx' d).symm)
    simp only [unsafeDefaultSurvey, hjudge, Analysis.answer_congr hctx.find?]

theorem foundBy_alike {μ : Type} {rules : List (Rule μ)} {model model' : μ}
    (h : ∀ r ∈ rules,
      r.applies model = r.applies model' ∧ r.found ctx model = r.found ctx' model') :
    foundBy rules ctx model = foundBy rules ctx' model' := by
  have happlicable : applicable rules ctx model = applicable rules ctx' model' := by
    refine List.filter_congr fun r hr => ?_
    rw [hctx.framework, (h r hr).1]
  rw [foundBy, happlicable]
  exact List.flatMap_congr fun r hr => (h r (List.mem_filter.1 hr).1).2

theorem flatMap_foundBy_rearranged {rules : List GraphRule} (h : ∀ r ∈ rules, BuiltInGraph r)
    {ms ms' : List EventModel} (hms : List.Forall₂ EventModel.Rearranged ms ms') :
    ms.flatMap (foundBy rules ctx) = ms'.flatMap (foundBy rules ctx') := by
  induction hms with
  | nil => rfl
  | cons hm _ ih =>
    have hfound := foundBy_alike hctx fun r hr => (h r hr).found_rearranged ctx ctx' hm
    rw [List.flatMap_cons, List.flatMap_cons, hfound, ih]

end Rule

namespace Analyzer

variable {a : Analyzer}

/-- The rules find the same in a type, wherever it is. -/
theorem foundAt_alike (hrules : a.rules.BuiltIn) (hhandlers : handlers.Rearranged handlers')
    (t : TypeSymbol) : a.foundAt ctx handlers t = a.foundAt ctx' handlers' t := by
  have hdac : ∀ d, Rule.foundBy a.rules.dac ctx d = Rule.foundBy a.rules.dac ctx' d :=
    fun d => Rule.foundBy_alike hctx fun r hr => ⟨rfl, (hrules.2 r hr).found_alike hctx d⟩
  rw [foundAt, DacModel.modelsOf_alike hctx, funext hdac,
    Rule.flatMap_foundBy_rearranged hctx hrules.1 (EventModel.modelsOf_alike hctx hhandlers t)]
  rfl

theorem checkedCount_alike (hhandlers : handlers.Rearranged handlers')
    {types types' : List TypeSymbol} (h : types.Perm types') :
    checkedCount ctx handlers types = checkedCount ctx' handlers' types' := by
  have hlength : ∀ t, (EventModel.modelsOf ctx handlers t).length =
      (EventModel.modelsOf ctx' handlers' t).length :=
    fun t => (EventModel.modelsOf_alike hctx hhandlers t).length_eq
  simp only [checkedCount, analysed, hctx.framework, hlength, DacModel.modelsOf_alike hctx]
  exact (h.filter _).countP_eq _

end Analyzer

end

/-! ## Types in another order -/

/-- The results differ at most in the order of violations with the same file, line, column and
    code. -/
structure LintResult.SameUpToTies (r r' : LintResult) : Prop where
  snapshotsChecked : r.snapshotsChecked = r'.snapshotsChecked
  typesChecked : r.typesChecked = r'.typesChecked
  perm : r.violations.Perm r'.violations
  orderKeys : r.violations.map Violation.orderKey = r'.violations.map Violation.orderKey

/-- The same models for every type in two contexts, but for the order of handlers. -/
structure Context.SameModels (ctx ctx' : Context) : Prop where
  linearize : ∀ family t token, (Hierarchy.linearize ctx family t).run ctx.snapshot token =
    (Hierarchy.linearize ctx' family t).run ctx'.snapshot token
  inferGraphs : ∀ t token, (EventModel.infer ctx t).run ctx.snapshot token =
    (EventModel.infer ctx' t).run ctx'.snapshot token
  inferDacs : ∀ t token, (DacModel.infer ctx t).run ctx.snapshot token =
    (DacModel.infer ctx' t).run ctx'.snapshot token
  /-- The graph models with all handlers that are registered in the snapshot. -/
  explicit : ∃ handlers handlers',
    (InstanceCreatedHandlers.collect ctx).run ctx.snapshot {} = (some handlers, {}) ∧
    (InstanceCreatedHandlers.collect ctx').run ctx'.snapshot {} = (some handlers', {}) ∧
    ∀ t, ∃ m m', (EventModel.explicit ctx handlers t).run ctx.snapshot {} = (some m, {}) ∧
      (EventModel.explicit ctx' handlers' t).run ctx'.snapshot {} = (some m', {}) ∧
      Option.Rel EventModel.Rearranged m m'

theorem Context.sameModels_of_perm (f : Framework) (h : s.types.Perm s'.types) :
    Context.SameModels ⟨s, f⟩ ⟨s', f⟩ := by
  have hctx := alike_of_perm f h
  refine ⟨fun family t token => ?_, fun t token => ?_, fun t token => ?_, ?_⟩
  · rw [hctx.linearize, Analysis.run_congr hctx.find?]
  · rw [hctx.inferGraphs, Analysis.run_congr hctx.find?]
  · rw [hctx.inferDacs, Analysis.run_congr hctx.find?]
  · have hhandlers := InstanceCreatedHandlers.collect_rearranged f h
    exact ⟨_, _, Analysis.run_quiet _, Analysis.run_quiet _, fun t =>
      ⟨_, _, Analysis.run_quiet _, Analysis.run_quiet _, EventModel.explicit_alike hctx hhandlers t⟩⟩

namespace Analyzer

theorem found_perm {a : Analyzer} (hrules : a.rules.BuiltIn) (h : s.types.Perm s'.types) :
    (a.found s).Perm (a.found s') ∧
      checkedCount (a.context s) (a.handlersOf s) s.types =
        checkedCount (a.context s') (a.handlersOf s') s'.types := by
  have hctx : (a.context s).Alike (a.context s') := Context.alike_of_perm _ h
  have hhandlers : (a.handlersOf s).Rearranged (a.handlersOf s') :=
    InstanceCreatedHandlers.collect_rearranged _ h
  refine ⟨?_, checkedCount_alike hctx hhandlers h⟩
  rw [found, funext (foundAt_alike hctx hrules hhandlers)]
  exact (h.filter _).flatMap_right _

theorem withSource_perm {vs vs' : List Violation} (h : vs.Perm vs') (hsource : s.source = s'.source)
    (n : UInt64) : (withSource s (LintResult.sort ⟨vs, 0, n⟩)).SameUpToTies
      (withSource s' (LintResult.sort ⟨vs', 0, n⟩)) := by
  have hperm : ∀ {vs vs' : List Violation}, vs.Perm vs' →
      (Violation.sort vs).Perm (Violation.sort vs') :=
    fun h => (List.mergeSort_perm _ _).trans (h.trans (List.mergeSort_perm _ _).symm)
  unfold withSource
  rw [hsource]
  cases s'.source with
  | none => exact ⟨rfl, rfl, hperm h, Violation.map_orderKey_sort h⟩
  | some file =>
    -- the second sort is of violations whose files may have changed
    have hfile := (hperm h).map (inFile file)
    exact ⟨rfl, rfl, hperm hfile, Violation.map_orderKey_sort hfile⟩

/-- **The order of types in a snapshot does not matter.** With the same types in any order, every
    type has the same hierarchies and models, but for the order of handlers. With the rules of a
    preset both snapshots are analysed, the counters are the same, and so are the violations, up to
    the order of those with the same file, line, column and code. -/
theorem analyzeSnapshot_reordered (directory : String) (c : Config) (p : Preset)
    (root : Option String) (excludes : List String) (failOnInvalid : Bool)
    (htypes : s.types.Perm s'.types) (hsource : s.source = s'.source) :
    let a := build directory c (p.rules c) root excludes failOnInvalid
    (a.context s).SameModels (a.context s') ∧
      ∃ r r' : LintResult, a.analyzeSnapshot s {} = (.ok r, {}) ∧
        a.analyzeSnapshot s' {} = (.ok r', {}) ∧ r.SameUpToTies r' := by
  intro a
  have hrules : a.rules.BuiltIn := (p.builtIn_rules c).filter _
  obtain ⟨hfound, hcount⟩ := found_perm hrules htypes
  refine ⟨Context.sameModels_of_perm _ htypes, _, _,
    analyzeSnapshot_uninterrupted hrules.observes s,
    analyzeSnapshot_uninterrupted hrules.observes s', ?_⟩
  rw [hcount]
  exact withSource_perm (hfound.map a.override) hsource _

/-- Two classes with the same offence and a handler each for one graph: handlers and violations come
    up in the order of the types. -/
theorem analyzeSnapshot_reordered_orders :
    let offender (name handler : String) : TypeSymbol :=
      { name := name
        interfaces := [{ name := "IBqlTable" }]
        members := [{ name := "CompanyID", kind := .property }]
        initDelegates := [{ graph := "OrderEntry", delegate := handler }] }
    let graph : TypeSymbol := { name := "OrderEntry", base := some { name := "PXGraph" } }
    let order := offender "Order" "OnOrder"
    let invoice := offender "Invoice" "OnInvoice"
    let s : Snapshot := { types := [order, graph, invoice], distinct := by decide }
    let s' : Snapshot := { types := [invoice, order, graph], distinct := by decide }
    let a := build "/" {} (Preset.recommended.rules {})
    let handlers (s : Snapshot) := ((a.handlersOf s).forGraph "OrderEntry").map (·.name)
    let offenders (s : Snapshot) := (a.found s).map (·.symbol)
    s.types.Perm s'.types ∧
      handlers s = ["OnOrder", "OnInvoice"] ∧ handlers s' = ["OnInvoice", "OnOrder"] ∧
      offenders s = [some "Order", some "Invoice"] ∧
      offenders s' = [some "Invoice", some "Order"] ∧
      (a.context s).SameModels (a.context s') ∧
      ∃ r r' : LintResult, a.analyzeSnapshot s {} = (.ok r, {}) ∧
        a.analyzeSnapshot s' {} = (.ok r', {}) ∧ r.SameUpToTies r' := by
  intro offender graph order invoice s s' a handlers offenders
  have hhandlers : handlers s = ["OnOrder", "OnInvoice"] ∧
      handlers s' = ["OnInvoice", "OnOrder"] := by
    decide +kernel +revert
  have hoffenders : offenders s = [some "Order", some "Invoice"] ∧
      offenders s' = [some "Invoice", some "Order"] := by
    decide +kernel +revert
  have htypes : s.types.Perm s'.types := by decide
  exact ⟨htypes, hhandlers.1, hhandlers.2, hoffenders.1, hoffenders.2,
    analyzeSnapshot_reordered "/" {} .recommended none [] false htypes rfl⟩

end Analyzer

end SnapshotLint

/-
  Checks under the token that nobody cancels.

  Rules that only poll, judge and report then succeed on every model, and what they report is what
  their steps find, one after the other (`Rule.found`). So the whole analysis has a result, and its
  violations are what the rules find in the models of the types that are not suppressed:
  `Analyzer.analyzeSnapshot_uninterrupted`.
-/
import SnapshotLint.Analyzer
import SnapshotLint.Proofs.BuiltInRule
import SnapshotLint.Proofs.Interruption

namespace SnapshotLint

namespace Session

/-- The session under the token that nobody cancels. -/
def uninterrupted (s : Session) : Session := { s with token := {} }

theorem run_uninterrupted {α : Type} (ctx : Context) (x : Analysis α) (s : Session) :
    s.uninterrupted.run ctx x = (some (x.answer ctx.snapshot), s.uninterrupted) := by
  simp only [run, uninterrupted, Analysis.run_quiet]

theorem poll_uninterrupted (s : Session) : s.uninterrupted.poll = s.uninterrupted := rfl

theorem uninterrupted_poll (s : Session) : s.poll.uninterrupted = s.uninterrupted := rfl

theorem cancelled_uninterrupted (s : Session) : s.uninterrupted.token.cancelled = false := rfl

/-! ## Operations that complete -/

/-- The session after several reports. -/
def reportAll (s : Session) (vs : List Violation) : Session := { s with sink := s.sink ++ vs }

theorem reportAll_append (s : Session) (vs ws : List Violation) :
    s.reportAll (vs ++ ws) = (s.reportAll vs).reportAll ws := by
  simp only [reportAll, List.append_assoc]

theorem reportAll_nil (s : Session) : s.reportAll [] = s := by
  simp only [reportAll, List.append_nil]

/-- An operation that succeeds with a result and reports some violations, unless it is
    interrupted. -/
def Completes {ε β : Type} (op : Session → Except ε β × Session) (b : β) (vs : List Violation) :
    Prop :=
  ∀ s : Session, op s.uninterrupted = (.ok b, (s.reportAll vs).uninterrupted)

theorem completes_ok {ε β : Type} (b : β) :
    Completes (fun s => ((.ok b, s) : Except ε β × Session)) b [] := by
  intro s
  rw [reportAll_nil]

theorem Completes.guarded {ε β : Type} {stop : ε} {op : Session → Except ε β × Session} {b : β}
    {vs : List Violation} (h : Completes op b vs) : Completes (guarded stop op) b vs := by
  intro s
  simp only [Session.guarded, poll_uninterrupted, cancelled_uninterrupted, Bool.false_eq_true,
    if_false]
  exact h s

theorem Completes.andThen {ε ε' β γ : Type} {rename : ε → ε'} {op : Session → Except ε β × Session}
    {next : β → Session → Except ε' γ × Session} {b : β} {c : γ} {vs ws : List Violation}
    (h : Completes op b vs) (hnext : Completes (next b) c ws) :
    Completes (andThen rename op next) c (vs ++ ws) := by
  intro s
  simp only [Session.andThen, h s]
  rw [hnext, reportAll_append]

theorem Completes.andOk {ε ε' β γ : Type} {rename : ε → ε'} {op : Session → Except ε β × Session}
    {b : β} {vs : List Violation} (h : Completes op b vs) (f : β → γ) :
    Completes (Session.andThen rename op fun b s => (.ok (f b), s)) (f b) vs := by
  intro s
  simp only [Session.andThen, h s]

/-! ## Steps -/

/-- The session after a judgement that may have found something. -/
def reportFound (s : Session) : Option Violation → Session
  | none => s
  | some v => s.report v

theorem token_reportFound (s : Session) (found : Option Violation) :
    (s.reportFound found).token = s.token := by
  cases found <;> rfl

theorem uninterrupted_reportFound (s : Session) (found : Option Violation) :
    (s.reportFound found).uninterrupted = s.uninterrupted.reportFound found := by
  cases found <;> rfl

theorem reportFound_eq (s : Session) (found : Option Violation) :
    s.reportFound found = s.reportAll found.toList := by
  cases found with
  | none => exact (reportAll_nil s).symm
  | some v => rfl

theorem runSteps_judge (ctx : Context) (rule : String) (finding : Analysis (Option Violation))
    (rest : List Step) (s : Session) :
    runSteps ctx rule (.judge finding :: rest) s =
      match (s.run ctx finding).1 with
      | none => (some .cancelled, (s.run ctx finding).2)
      | some found => runSteps ctx rule rest ((s.run ctx finding).2.reportFound found) := by
  rw [runSteps]
  rcases s.run ctx finding with ⟨_ | _ | v, s'⟩ <;> rfl

end Session

/-- What a step reports, unless it is interrupted. -/
def Step.found (s : Snapshot) : Step → List Violation
  | report v => [v]
  | judge finding => (finding.answer s).toList
  | poll | cancel | fail _ | crash _ => []

theorem Session.runSteps_observes {ctx : Context} {rule : String} {steps : List Step}
    (h : ∀ step ∈ steps, step.Observes) (s : Session) :
    runSteps ctx rule steps s.uninterrupted =
      (none, (s.reportAll (steps.flatMap (·.found ctx.snapshot))).uninterrupted) := by
  induction steps generalizing s with
  | nil => rw [List.flatMap_nil, reportAll_nil, runSteps]
  | cons step rest ih =>
    have hrest := ih fun step hstep => h step (List.mem_cons_of_mem _ hstep)
    have hstep := h step List.mem_cons_self
    rw [List.flatMap_cons, reportAll_append]
    cases step with
    | poll =>
      rw [Step.found, reportAll_nil]
      exact hrest s
    | report v => exact hrest (s.report v)
    | judge finding =>
      rw [runSteps_judge, run_uninterrupted]
      simp only [← uninterrupted_reportFound]
      rw [hrest, reportFound_eq, Step.found]
    | cancel => exact hstep.elim
    | fail e => exact hstep.elim
    | crash message => exact hstep.elim

/-! ## Models -/

/-- The models are inferred, and then checked. -/
theorem Runner.checkInferred_eq (p : Runner) {μ : Type} (rules : List (Rule μ)) (ctx : Context)
    (models : Analysis (List μ)) (s : Session) :
    p.checkInferred rules ctx models s =
      match (s.run ctx models).1 with
      | none => (.error .cancelled, (s.run ctx models).2)
      | some ms =>
        Session.andThen id (p.checkModels rules ctx ms) (fun _ s => (.ok ms.length, s))
          (s.run ctx models).2 := by
  unfold checkInferred
  rcases s.run ctx models with ⟨_ | ms, s'⟩ <;> rfl

namespace Rule

open Session Runner

variable {μ : Type} {rules : List (Rule μ)}

/-- What a rule finds in a model. -/
def found (r : Rule μ) (ctx : Context) (model : μ) : List Violation :=
  (r.steps ctx model).flatMap (·.found ctx.snapshot)

/-- What the rules that apply to a model find in it. -/
def foundBy (rules : List (Rule μ)) (ctx : Context) (model : μ) : List Violation :=
  (applicable rules ctx model).flatMap fun r => r.found ctx model

variable {ctx : Context} {model : μ}

theorem checkAll_observes (h : ∀ r ∈ rules, ∀ step ∈ r.steps ctx model, step.Observes)
    (s : Session) :
    checkAll rules ctx model s.uninterrupted =
      ([], (s.reportAll (rules.flatMap fun r => r.found ctx model)).uninterrupted) := by
  induction rules generalizing s with
  | nil => rw [List.flatMap_nil, reportAll_nil, checkAll]
  | cons r rest ih =>
    have hcheck : r.check ctx model s.uninterrupted =
        (none, (s.reportAll (r.found ctx model)).uninterrupted) :=
      runSteps_observes (h r List.mem_cons_self) s
    have hrest := ih (fun r hr => h r (List.mem_cons_of_mem _ hr)) (s.reportAll (r.found ctx model))
    simp only [checkAll, hcheck, hrest, List.flatMap_cons, reportAll_append]
    rfl

/-- All steps that the rules take on a model poll, judge or report. -/
def ObservedBy (rules : List (Rule μ)) (ctx : Context) (model : μ) : Prop :=
  ∀ r ∈ applicable rules ctx model, ∀ step ∈ r.steps ctx model, step.Observes

theorem observedBy_of_observes (h : ∀ r ∈ rules, r.Observes) : ObservedBy rules ctx model :=
  fun r hr => h r (List.mem_filter.1 hr).1 ctx model

theorem completes_checkModel (h : ObservedBy rules ctx model) :
    Completes (checkModel rules ctx model) () (foundBy rules ctx model) := by
  intro s
  have hcheck : sequential.run (applicable rules ctx model) ctx model s.uninterrupted = _ :=
    checkAll_observes h s
  simp only [Runner.checkModel, foundBy, poll_uninterrupted, cancelled_uninterrupted,
    Bool.false_eq_true, if_false]
  cases happlicable : applicable rules ctx model with
  | nil => rw [List.flatMap_nil, reportAll_nil]
  | cons r rest =>
    rw [happlicable] at hcheck
    simp only [hcheck]
    rfl

theorem completes_checkModels {models : List μ} (h : ∀ model ∈ models, ObservedBy rules ctx model) :
    Completes (sequential.checkModels rules ctx models) ()
      (models.flatMap (foundBy rules ctx)) := by
  induction models with
  | nil => exact completes_ok ()
  | cons model rest ih =>
    obtain ⟨hmodel, hrest⟩ := List.forall_mem_cons.1 h
    rw [Runner.checkModels, List.flatMap_cons]
    exact ((completes_checkModel hmodel).andThen (ih hrest)).guarded

theorem completes_checkInferred {models : Analysis (List μ)}
    (h : ∀ model ∈ models.answer ctx.snapshot, ObservedBy rules ctx model) :
    Completes (checkInferred rules ctx models) (models.answer ctx.snapshot).length
      ((models.answer ctx.snapshot).flatMap (foundBy rules ctx)) := by
  intro s
  rw [checkInferred, checkInferred_eq, run_uninterrupted]
  exact (completes_checkModels h).andOk _ s

/-- One rule finds what it finds. That it does not apply to the model does not matter if it would not
    find anything. -/
theorem foundBy_singleton {r : Rule μ} (henabled : r.isEnabled ctx.framework = true)
    (happlies : r.applies model = false → r.found ctx model = []) :
    foundBy [r] ctx model = r.found ctx model := by
  rw [foundBy, applicable]
  cases h : r.applies model with
  | true => simp [henabled, h]
  | false => simp [h, happlies h]

/-- One rule on one model reports what it finds there. -/
theorem checkInferred_singleton {r : Rule μ} (hr : r.Observes) {models : Analysis (List μ)}
    (hmodels : models.answer ctx.snapshot = [model]) (henabled : r.isEnabled ctx.framework = true)
    (happlies : r.applies model = false → r.found ctx model = []) (sink : List Violation) :
    checkInferred [r] ctx models { sink } = (.ok 1, { sink := sink ++ r.found ctx model }) := by
  have hobserved : ∀ model ∈ models.answer ctx.snapshot, ObservedBy [r] ctx model :=
    fun _ _ => observedBy_of_observes fun r' hr' => List.mem_singleton.1 hr' ▸ hr
  have hcheck := completes_checkInferred hobserved { sink }
  rwa [hmodels, List.flatMap_singleton, foundBy_singleton henabled happlies] at hcheck

end Rule

/-! ## Analyzers -/

/-- The graph model of a type with all handlers registered for it, if there is one. -/
def EventModel.modelsOf (ctx : Context) (handlers : InstanceCreatedHandlers) (t : TypeSymbol) :
    List EventModel :=
  ((explicit ctx handlers ⟨t, .snapshot⟩).answer ctx.snapshot).toList

/-- The model of a type as a data access class, if there is one. -/
def DacModel.modelsOf (ctx : Context) (t : TypeSymbol) : List DacModel :=
  (infer ctx ⟨t, .snapshot⟩).answer ctx.snapshot

namespace Analyzer

open Session Runner

variable (a : Analyzer) (ctx : Context) (handlers : InstanceCreatedHandlers)

/-- What the rules find in the models of a type. -/
def foundAt (t : TypeSymbol) : List Violation :=
  (EventModel.modelsOf ctx handlers t).flatMap (Rule.foundBy a.rules.graph ctx) ++
    (DacModel.modelsOf ctx t).flatMap (Rule.foundBy a.rules.dac ctx)

/-- The types that are not suppressed. -/
def analysed (types : List TypeSymbol) : List TypeSymbol :=
  types.filter (!ctx.framework.isSuppressed ·)

/-- How many types have a model and are not suppressed. -/
def checkedCount (types : List TypeSymbol) : Nat :=
  (analysed ctx types).countP fun t =>
    0 < (EventModel.modelsOf ctx handlers t).length + (DacModel.modelsOf ctx t).length

/-- All steps that the rules take on the models of a type poll, judge or report. -/
def ObservedAt (t : TypeSymbol) : Prop :=
  (∀ m ∈ EventModel.modelsOf ctx handlers t, Rule.ObservedBy a.rules.graph ctx m) ∧
    ∀ d ∈ DacModel.modelsOf ctx t, Rule.ObservedBy a.rules.dac ctx d

theorem answer_graphModels (t : TypeSymbol) :
    (Option.toList <$> EventModel.explicit ctx handlers ⟨t, .snapshot⟩).answer ctx.snapshot =
      EventModel.modelsOf ctx handlers t :=
  Analysis.answer_bind _ _ _

variable {a ctx handlers}

theorem completes_checkType {t : TypeSymbol} (h : a.ObservedAt ctx handlers t) :
    Completes (sequential.checkType a ctx handlers t)
      ((EventModel.modelsOf ctx handlers t).length + (DacModel.modelsOf ctx t).length)
      (a.foundAt ctx handlers t) := by
  have hgraph := @Rule.completes_checkInferred _ a.rules.graph ctx
    (Option.toList <$> EventModel.explicit ctx handlers ⟨t, .snapshot⟩)
  rw [answer_graphModels] at hgraph
  have hdac := @Rule.completes_checkInferred _ a.rules.dac ctx (DacModel.infer ctx ⟨t, .snapshot⟩)
  exact (hgraph h.1).andThen ((hdac h.2).andOk _)

theorem completes_checkTypes {types : List TypeSymbol}
    (h : ∀ t ∈ analysed ctx types, a.ObservedAt ctx handlers t) :
    Completes (sequential.checkTypes a ctx handlers types) (checkedCount ctx handlers types)
      ((analysed ctx types).flatMap (a.foundAt ctx handlers)) := by
  induction types with
  | nil => exact completes_ok 0
  | cons t rest ih =>
    rw [Runner.checkTypes]
    refine Completes.guarded ?_
    by_cases hs : ctx.framework.isSuppressed t = true
    · have hrest : analysed ctx (t :: rest) = analysed ctx rest := by simp [analysed, hs]
      rw [hrest] at h
      rw [if_pos hs, checkedCount, hrest]
      exact ih h
    · have hrest : analysed ctx (t :: rest) = t :: analysed ctx rest := by simp [analysed, hs]
      rw [hrest, List.forall_mem_cons] at h
      rw [if_neg hs, checkedCount, hrest, List.flatMap_cons, List.countP_cons]
      simp only [decide_eq_true_eq]
      exact (completes_checkType h.1).andThen ((ih h.2).andOk _)

/-- The handlers registered in a snapshot. -/
def handlersOf (a : Analyzer) (s : Snapshot) : InstanceCreatedHandlers :=
  (InstanceCreatedHandlers.collect (a.context s)).answer s

/-- What the rules find in a snapshot, type by type. -/
def found (a : Analyzer) (s : Snapshot) : List Violation :=
  (analysed (a.context s) s.types).flatMap (a.foundAt (a.context s) (a.handlersOf s))

/-- An analysis succeeds if its rules do nothing but poll, judge and report on the models that they
    apply to. -/
theorem analyzeTypes_observed {s : Snapshot}
    (h : ∀ t ∈ analysed (a.context s) s.types, a.ObservedAt (a.context s) (a.handlersOf s) t) :
    a.analyzeTypes s {} =
      (.ok (LintResult.sort ⟨(a.found s).map a.override, 0,
        .ofNat (checkedCount (a.context s) (a.handlersOf s) s.types)⟩), {}) := by
  have hcheck := completes_checkTypes h {}
  rw [handlersOf] at hcheck
  simp only [Runner.analyzeTypes, Analysis.run_quiet]
  rw [show ({} : Session) = Session.uninterrupted {} from rfl, hcheck]
  rfl

theorem analyzeTypes_uninterrupted (h : a.rules.Observes) (s : Snapshot) :
    a.analyzeTypes s {} =
      (.ok (LintResult.sort ⟨(a.found s).map a.override, 0,
        .ofNat (checkedCount (a.context s) (a.handlersOf s) s.types)⟩), {}) :=
  analyzeTypes_observed fun _ _ =>
    ⟨fun _ _ => Rule.observedBy_of_observes h.1, fun _ _ => Rule.observedBy_of_observes h.2⟩

/-- **An analysis that nobody interrupts succeeds,** and its violations are what the rules find. -/
theorem analyzeSnapshot_uninterrupted (h : a.rules.Observes) (s : Snapshot) :
    a.analyzeSnapshot s {} =
      (.ok (withSource s (LintResult.sort ⟨(a.found s).map a.override, 0,
        .ofNat (checkedCount (a.context s) (a.handlersOf s) s.types)⟩)), {}) := by
  simp only [Runner.analyzeSnapshot, analyzeTypes_uninterrupted h s]

end Analyzer

end SnapshotLint

/-
  No failure of a rule is lost.

  Rules that leave the token alone do the same on a model wherever they are run, so each has one
  failure there, or none (`Rule.failure?`), and its reports until then (`Rule.reports`). An analysis
  that nobody interrupts goes through the types until one of them has a failure. It ends with the
  causes that the rules for graphs have there, or else those for data access classes. If there is
  no such type it ends with all reports, with the severities of the configuration and in the source
  of the snapshot (`Violation.Finished`): `Analyzer.analyzeSnapshot_first_failure`.
-/
import SnapshotLint.Proofs.AggregatedCheck
import SnapshotLint.Proofs.RuleConfiguration

namespace SnapshotLint

/-! ## Steps -/

namespace Performs

variable {ctx : Context} {rule : String} {steps : List Step} {vs : List Violation}
  {e : Option CheckError} {t t' : Token}

/-- Steps that do not cancel leave the token as it is that nobody cancels. -/
theorem token_eq (h : Performs ctx rule steps t vs e t') (ht : t = {})
    (hkeep : ∀ step ∈ steps, step ≠ .cancel) : t' = {} := by
  induction h with
  | done | fail | crash => exact ht
  | stopped hc => subst ht; cases hc
  | poll _ _ ih => subst ht; exact ih rfl fun step hs => hkeep step (by simp [hs])
  | report _ ih => exact ih ht fun step hs => hkeep step (by simp [hs])
  | interrupted hrun => subst ht; rw [Analysis.run_quiet] at hrun; cases hrun
  | judge hrun _ ih =>
    subst ht
    rw [Analysis.run_quiet] at hrun
    cases hrun
    exact ih rfl fun step hs => hkeep step (by simp [hs])
  | cancel => exact absurd rfl (hkeep .cancel (by simp))

/-- Steps that neither cancel nor fail all poll, judge or report. -/
theorem observes (h : Performs ctx rule steps t vs e t') (he : e = none)
    (hkeep : ∀ step ∈ steps, step ≠ .cancel) : ∀ step ∈ steps, step.Observes := by
  induction h with
  | done => simp
  | stopped | interrupted | fail | crash => cases he
  | poll _ _ ih | report _ ih | judge _ _ ih =>
    refine List.forall_mem_cons.2 ⟨trivial, ih he fun step hs => hkeep step (by simp [hs])⟩
  | cancel => exact absurd rfl (hkeep .cancel (by simp))

end Performs

/-! ## Rules and models -/

namespace Session

/-- An operation that fails in a certain way, unless it is interrupted. -/
def Fails {ε β : Type} (op : Session → Except ε β × Session) (e : ε) : Prop :=
  ∀ s : Session, (op s.uninterrupted).1 = .error e

section
variable {ε ε' β γ : Type} {op : Session → Except ε β × Session} {rename : ε → ε'}
  {next : β → Session → Except ε' γ × Session}

theorem Fails.guarded {e stop : ε} (h : Fails op e) : Fails (guarded stop op) e := by
  intro s
  simp only [Session.guarded, poll_uninterrupted, cancelled_uninterrupted, Bool.false_eq_true,
    if_false]
  exact h s

theorem Fails.andThen {e : ε} (h : Fails op e) : Fails (andThen rename op next) (rename e) := by
  intro s
  have hs := h s
  unfold Session.andThen
  rcases hop : op s.uninterrupted with ⟨e' | b, s'⟩ <;> rw [hop] at hs <;> cases hs
  rfl

theorem Fails.andThen_id {next : β → Session → Except ε γ × Session} {e : ε} (h : Fails op e) :
    Fails (Session.andThen id op next) e := h.andThen

theorem Completes.andThen_fails {b : β} {vs : List Violation} {e : ε'} (h : Completes op b vs)
    (hnext : Fails (next b) e) : Fails (Session.andThen rename op next) e := by
  intro s
  simp only [Session.andThen, h s]
  exact hnext _

end

end Session

namespace Rule

open Session Runner

variable {μ : Type}

/-- A rule that does not cancel the token. -/
def LeavesToken (r : Rule μ) : Prop := ∀ ctx model, ∀ step ∈ r.steps ctx model, step ≠ .cancel

/-- How a rule fails on a model when nobody cancels, if it does. -/
def failure? (r : Rule μ) (ctx : Context) (model : μ) : Option CheckError :=
  (r.perform ctx model {}).1

/-- What a rule reports about a model when nobody cancels, until it ends or fails. -/
def reports (r : Rule μ) (ctx : Context) (model : μ) : List Violation :=
  (r.perform ctx model {}).2.sink

/-- The failures on a model of the rules that apply to it. -/
def failuresBy (rules : List (Rule μ)) (ctx : Context) (model : μ) : List CheckError :=
  (rules.filter fun r => (!r.info.isvSpecific || ctx.framework.isvSpecificAnalyzers) &&
    r.applies model).filterMap fun r => r.failure? ctx model

/-- The reports about a model of the rules that apply to it. -/
def reportsBy (rules : List (Rule μ)) (ctx : Context) (model : μ) : List Violation :=
  (rules.filter fun r => (!r.info.isvSpecific || ctx.framework.isvSpecificAnalyzers) &&
    r.applies model).flatMap fun r => r.reports ctx model

variable {rules : List (Rule μ)} {ctx : Context} {model : μ}

theorem LeavesToken.check_eq {r : Rule μ} (h : r.LeavesToken) (s : Session) :
    r.check ctx model s.uninterrupted =
      (r.failure? ctx model, (s.reportAll (r.reports ctx model)).uninterrupted) := by
  obtain ⟨vs, e, t', hperforms⟩ :=
    Performs.exists_performs ctx r.info.name (r.steps ctx model) {}
  cases hperforms.token_eq rfl (h ctx model)
  have hperform : r.perform ctx model {} = (e, ⟨{}, vs⟩) := hperforms.runSteps_eq []
  have hcheck : r.check ctx model s.uninterrupted = (e, ⟨{}, s.sink ++ vs⟩) :=
    hperforms.runSteps_eq s.sink
  rw [hcheck, failure?, reports, hperform]
  rfl

theorem LeavesToken.observes {r : Rule μ} (h : r.LeavesToken) (hnone : r.failure? ctx model = none) :
    ∀ step ∈ r.steps ctx model, step.Observes := by
  obtain ⟨vs, e, t', hperforms⟩ :=
    Performs.exists_performs ctx r.info.name (r.steps ctx model) {}
  have hperform : r.perform ctx model {} = (e, ⟨t', vs⟩) := hperforms.runSteps_eq []
  rw [failure?, hperform] at hnone
  exact hperforms.observes hnone (h ctx model)

theorem reports_eq_found {r : Rule μ} (h : ∀ step ∈ r.steps ctx model, step.Observes) :
    r.reports ctx model = r.found ctx model := by
  have hperform : r.perform ctx model {} = _ := runSteps_observes h {}
  rw [reports, hperform]
  exact List.nil_append _

theorem checkAll_leavesToken (h : ∀ r ∈ rules, r.LeavesToken) (s : Session) :
    checkAll rules ctx model s.uninterrupted =
      (rules.filterMap fun r => r.failure? ctx model,
        (s.reportAll (rules.flatMap fun r => r.reports ctx model)).uninterrupted) := by
  induction rules generalizing s with
  | nil => rw [List.flatMap_nil, reportAll_nil, checkAll, List.filterMap_nil]
  | cons r rest ih =>
    obtain ⟨hr, hrest⟩ := List.forall_mem_cons.1 h
    simp only [checkAll, hr.check_eq, ih hrest, List.flatMap_cons, reportAll_append]
    cases hf : r.failure? ctx model <;> simp [hf]

theorem failure?_eq_none {r : Rule μ} (hnone : failuresBy rules ctx model = []) (hr : r ∈ rules)
    (hisv : r.info.isvSpecific = true → ctx.framework.isvSpecificAnalyzers = true)
    (happlies : r.applies model = true) : r.failure? ctx model = none := by
  rw [failuresBy, List.filterMap_eq_nil_iff] at hnone
  refine hnone r (List.mem_filter.2 ⟨hr, ?_⟩)
  cases hspecific : r.info.isvSpecific with
  | false => simp [happlies]
  | true => simp [happlies, hisv hspecific]

variable (h : ∀ r ∈ rules, r.LeavesToken)
include h

theorem observedBy_of_failuresBy (hnone : failuresBy rules ctx model = []) :
    ObservedBy rules ctx model := by
  intro r hr
  rw [failuresBy, List.filterMap_eq_nil_iff] at hnone
  exact (h r (List.mem_filter.1 hr).1).observes (hnone r hr)

theorem foundBy_eq_reportsBy (hnone : failuresBy rules ctx model = []) :
    foundBy rules ctx model = reportsBy rules ctx model := by
  refine List.flatMap_congr fun r hr => ?_
  exact (reports_eq_found (observedBy_of_failuresBy h hnone r hr)).symm

theorem fails_checkModel (hsome : failuresBy rules ctx model ≠ []) :
    Fails (checkModel rules ctx model) (.ofCheck (.batch (failuresBy rules ctx model))) := by
  intro s
  have hall : ∀ r ∈ applicable rules ctx model, r.LeavesToken :=
    fun r hr => h r (List.mem_filter.1 hr).1
  have hfailures : (applicable rules ctx model).filterMap (·.failure? ctx model) =
      failuresBy rules ctx model := rfl
  have hcheck : sequential.run (applicable rules ctx model) ctx model s.uninterrupted = _ :=
    checkAll_leavesToken hall s
  rw [hfailures] at hcheck
  simp only [Runner.checkModel, poll_uninterrupted, cancelled_uninterrupted, Bool.false_eq_true,
    if_false]
  cases happlicable : applicable rules ctx model with
  | nil =>
    rw [happlicable] at hfailures
    exact absurd hfailures.symm hsome
  | cons r rest =>
    rw [happlicable] at hcheck
    simp only [hcheck, poll_uninterrupted, cancelled_uninterrupted]
    simp [hsome]

/-- Of at most one model, the failures are those of the check. -/
theorem fails_checkInferred {models : Analysis (List μ)}
    (hlength : (models.answer ctx.snapshot).length ≤ 1)
    (hsome : (models.answer ctx.snapshot).flatMap (failuresBy rules ctx) ≠ []) :
    Fails (checkInferred rules ctx models)
      (.ofCheck (.batch ((models.answer ctx.snapshot).flatMap (failuresBy rules ctx)))) := by
  intro s
  rw [checkInferred, checkInferred_eq, run_uninterrupted]
  rcases hmodels : models.answer ctx.snapshot with _ | ⟨model, _ | ⟨other, rest⟩⟩
  · simp [hmodels] at hsome
  · rw [hmodels, List.flatMap_singleton] at hsome
    rw [List.flatMap_singleton]
    have hmodel : Fails (sequential.checkModels rules ctx [model])
        (.ofCheck (.batch (failuresBy rules ctx model))) :=
      (fails_checkModel h hsome).andThen_id.guarded
    exact hmodel.andThen_id s
  · simp [hmodels] at hlength

end Rule

namespace RuleSet

/-- Rules that do not cancel the token. -/
structure LeavesToken (s : RuleSet) : Prop where
  graph : ∀ r ∈ s.graph, r.LeavesToken
  dac : ∀ r ∈ s.dac, r.LeavesToken

theorem LeavesToken.filter {s : RuleSet} (h : s.LeavesToken) (keep : String → Bool) :
    (s.filter keep).LeavesToken :=
  ⟨fun r hr => h.graph r (List.mem_filter.1 hr).1, fun r hr => h.dac r (List.mem_filter.1 hr).1⟩

/-! ## Types -/

variable (rules : RuleSet) (ctx : Context) (handlers : InstanceCreatedHandlers) (t : TypeSymbol)

/-- The failures at the graph model of a type. -/
def graphFailures : List CheckError :=
  (EventModel.modelsOf ctx handlers t).flatMap (Rule.failuresBy rules.graph ctx)

/-- The failures at the model of a type as a data access class. -/
def dacFailures : List CheckError :=
  (DacModel.modelsOf ctx t).flatMap (Rule.failuresBy rules.dac ctx)

/-- The failures that count at a type: those at its graph model, if there are any. -/
def failuresAt : List CheckError :=
  if rules.graphFailures ctx handlers t = [] then rules.dacFailures ctx t
  else rules.graphFailures ctx handlers t

/-- The reports at the models of a type. -/
def reportsAt : List Violation :=
  (EventModel.modelsOf ctx handlers t).flatMap (Rule.reportsBy rules.graph ctx) ++
    (DacModel.modelsOf ctx t).flatMap (Rule.reportsBy rules.dac ctx)

/-- The first type that is not suppressed and has a failure. -/
def firstFailing? (types : List TypeSymbol) : Option TypeSymbol :=
  types.find? fun t => !ctx.framework.isSuppressed t && !(rules.failuresAt ctx handlers t).isEmpty

/-- What is reported about the types that are not suppressed, type by type. -/
def reported (types : List TypeSymbol) : List Violation :=
  (Analyzer.analysed ctx types).flatMap (rules.reportsAt ctx handlers)

theorem firstFailing?_cons (rest : List TypeSymbol) :
    rules.firstFailing? ctx handlers (t :: rest) =
      if ctx.framework.isSuppressed t = true ∨ rules.failuresAt ctx handlers t = [] then
        rules.firstFailing? ctx handlers rest
      else some t := by
  unfold firstFailing?
  by_cases hs : ctx.framework.isSuppressed t = true
  · simp [hs]
  · by_cases hf : rules.failuresAt ctx handlers t = []
    · simp [hs, hf]
    · simp [hs, hf, List.find?_cons_of_pos]

variable {rules ctx handlers t}

theorem graphFailures_eq_nil_iff : rules.graphFailures ctx handlers t = [] ↔
    ∀ m ∈ EventModel.modelsOf ctx handlers t, Rule.failuresBy rules.graph ctx m = [] :=
  List.flatMap_eq_nil_iff

theorem failuresAt_eq_nil_iff : rules.failuresAt ctx handlers t = [] ↔
    (∀ m ∈ EventModel.modelsOf ctx handlers t, Rule.failuresBy rules.graph ctx m = []) ∧
      ∀ d ∈ DacModel.modelsOf ctx t, Rule.failuresBy rules.dac ctx d = [] := by
  rw [← graphFailures_eq_nil_iff, ← List.flatMap_eq_nil_iff, ← dacFailures, failuresAt]
  split <;> simp_all

theorem firstFailing?_eq_none_iff {types : List TypeSymbol} :
    rules.firstFailing? ctx handlers types = none ↔
      ∀ t ∈ Analyzer.analysed ctx types, rules.failuresAt ctx handlers t = [] := by
  simp [firstFailing?, Analyzer.analysed]

end RuleSet

/-- A violation as a rule reports it, and as it stands in the result for a snapshot: with the
    severity that the entry on its rule gives, and in the source of the snapshot if it has no
    file. -/
structure Violation.Finished (c : Config) (s : Snapshot) (v w : Violation) : Prop where
  severity : c.Regrades v.rule v.severity w.severity
  file_eq : w.location.file = if v.location.file = "" then s.source.getD "" else v.location.file
  same : w = { v with
    severity := w.severity
    location := { v.location with file := w.location.file } }

namespace Analyzer

open Session Runner RuleSet

variable {a : Analyzer} {ctx : Context} {handlers : InstanceCreatedHandlers} {t : TypeSymbol}
  (h : a.rules.LeavesToken)
include h

theorem observedAt_of_failuresAt (hnone : a.rules.failuresAt ctx handlers t = []) :
    a.ObservedAt ctx handlers t := by
  obtain ⟨hgraph, hdac⟩ := failuresAt_eq_nil_iff.1 hnone
  exact ⟨fun m hm => Rule.observedBy_of_failuresBy h.graph (hgraph m hm),
    fun d hd => Rule.observedBy_of_failuresBy h.dac (hdac d hd)⟩

theorem foundAt_eq_reportsAt (hnone : a.rules.failuresAt ctx handlers t = []) :
    a.foundAt ctx handlers t = a.rules.reportsAt ctx handlers t := by
  obtain ⟨hgraph, hdac⟩ := failuresAt_eq_nil_iff.1 hnone
  have hgraph := List.flatMap_congr fun m hm => Rule.foundBy_eq_reportsBy h.graph (hgraph m hm)
  have hdac := List.flatMap_congr fun d hd => Rule.foundBy_eq_reportsBy h.dac (hdac d hd)
  rw [foundAt, reportsAt, hgraph, hdac]

theorem fails_checkType (hsome : a.rules.failuresAt ctx handlers t ≠ []) :
    Fails (sequential.checkType a ctx handlers t)
      (.ofCheck (.batch (a.rules.failuresAt ctx handlers t))) := by
  have hanswer := answer_graphModels ctx handlers t
  unfold Runner.checkType
  by_cases hgraph : a.rules.graphFailures ctx handlers t = []
  · -- the rules for graphs are done before those for data access classes begin
    rw [failuresAt, if_pos hgraph] at hsome ⊢
    have hobserved : ∀ m ∈ EventModel.modelsOf ctx handlers t,
        Rule.ObservedBy a.rules.graph ctx m := fun m hm =>
      Rule.observedBy_of_failuresBy h.graph (graphFailures_eq_nil_iff.1 hgraph m hm)
    rw [← hanswer] at hobserved
    have hdac := Rule.fails_checkInferred h.dac (DacModel.length_modelsOf ctx t) hsome
    exact (Rule.completes_checkInferred hobserved).andThen_fails hdac.andThen_id
  · rw [failuresAt, if_neg hgraph]
    have hlength := EventModel.length_modelsOf ctx handlers t
    rw [graphFailures] at hgraph ⊢
    rw [← hanswer] at hgraph hlength ⊢
    exact (Rule.fails_checkInferred h.graph hlength hgraph).andThen_id

/-- The types before the first one with a failure are done, and those after it are not begun. -/
theorem fails_checkTypes {types : List TypeSymbol}
    (hfirst : a.rules.firstFailing? ctx handlers types = some t) :
    Fails (sequential.checkTypes a ctx handlers types)
      (.ofAnalyze t.name (.ofCheck (.batch (a.rules.failuresAt ctx handlers t)))) := by
  induction types with
  | nil => cases hfirst
  | cons u rest ih =>
    rw [Runner.checkTypes]
    refine Fails.guarded ?_
    rw [firstFailing?_cons] at hfirst
    by_cases hs : ctx.framework.isSuppressed u = true
    · rw [if_pos (Or.inl hs)] at hfirst
      rw [if_pos hs]
      exact ih hfirst
    · rw [if_neg hs]
      by_cases hu : a.rules.failuresAt ctx handlers u = []
      · rw [if_pos (Or.inr hu)] at hfirst
        have hdone := completes_checkType (observedAt_of_failuresAt h hu)
        exact hdone.andThen_fails (ih hfirst).andThen_id
      · rw [if_neg (not_or.2 ⟨hs, hu⟩)] at hfirst
        cases hfirst
        exact (fails_checkType h hu).andThen

omit h

/-! ## Snapshots -/

variable {s : Snapshot}

theorem analyzeSnapshot_failing (h : a.rules.LeavesToken)
    (hfirst : a.rules.firstFailing? (a.context s) (a.handlersOf s) s.types = some t) :
    (a.analyzeSnapshot s {}).1 = .error (.ofAnalyze t.name
      (.ofCheck (.batch (a.rules.failuresAt (a.context s) (a.handlersOf s) t)))) := by
  have hfails := fails_checkTypes h hfirst {}
  rw [handlersOf] at hfails ⊢
  simp only [Runner.analyzeSnapshot, Runner.analyzeTypes, Analysis.run_quiet]
  rw [show ({} : Session) = Session.uninterrupted {} from rfl]
  rcases hcheck : sequential.checkTypes a (a.context s) _ s.types (Session.uninterrupted {}) with
    ⟨e | n, s'⟩ <;>
    rw [hcheck] at hfails <;> cases hfails
  rfl

theorem analyzeSnapshot_done (h : a.rules.LeavesToken)
    (hnone : ∀ t ∈ analysed (a.context s) s.types,
      a.rules.failuresAt (a.context s) (a.handlersOf s) t = []) :
    ∃ r, (a.analyzeSnapshot s {}).1 = .ok r ∧ r.violations.Perm
      ((a.rules.reported (a.context s) (a.handlersOf s) s.types).map (a.finish s)) := by
  have hfound : a.found s = a.rules.reported (a.context s) (a.handlersOf s) s.types :=
    List.flatMap_congr fun t ht => foundAt_eq_reportsAt h (hnone t ht)
  have hresult := analyzeTypes_observed fun t ht => observedAt_of_failuresAt h (hnone t ht)
  rw [hfound] at hresult
  simp only [Runner.analyzeSnapshot, hresult]
  exact ⟨_, rfl, violations_withSource a s _ _⟩

theorem finished_finish (a : Analyzer) (s : Snapshot) (v : Violation) :
    v.Finished a.config s (a.finish s v) := by
  have hseverity := a.config.regrades_ruleSeverity v.rule v.severity
  unfold finish inFile
  simp only [override_eq, String.isEmpty_iff]
  cases hsource : s.source with
  | none => exact ⟨hseverity, by simp +contextual [hsource], rfl⟩
  | some file =>
    by_cases hfile : v.location.file = ""
    · simp only [hfile, if_true]
      exact ⟨hseverity, by simp [hfile, hsource], rfl⟩
    · simp only [hfile, if_false]
      exact ⟨hseverity, by simp [hfile], rfl⟩

/-- **No failure is lost.** Let the rules not cancel the token, and let nobody else do so. If the
    analysis of a snapshot has a result, every rule that no entry turns off and that applies to a
    model of a type that is not suppressed has come to its end there. The violations are then all
    the reports of these rules, with the severities that the entries give, and in the source of the
    snapshot where they have no file. Otherwise the result names the first type with a failure, with
    the causes in the failures at its graph model or else at its other model, none of them nested;
    or it is a cancellation if one of the failures holds one. -/
theorem analyzeSnapshot_first_failure (directory : String) (c : Config) (rules : RuleSet)
    (root : Option String) (excludes : List String) (failOnInvalid : Bool)
    (h : rules.LeavesToken) (s : Snapshot) :
    let on : RuleSet :=
      { graph := rules.graph.filter fun q => ¬ c.Disables q.info.name
        dac := rules.dac.filter fun q => ¬ c.Disables q.info.name }
    let ctx : Context := ⟨s, c.framework⟩
    let handlers := (InstanceCreatedHandlers.collect ctx).answer s
    let result := ((build directory c rules root excludes failOnInvalid).analyzeSnapshot s {}).1
    (∀ r, result = .ok r →
      (∀ t ∈ s.types, c.framework.isSuppressed t = false →
        (∀ m ∈ EventModel.modelsOf ctx handlers t, ∀ q ∈ rules.graph, ¬ c.Disables q.info.name →
          (q.info.isvSpecific = true → c.framework.isvSpecificAnalyzers = true) →
            q.applies m = true → q.failure? ctx m = none) ∧
        ∀ d ∈ DacModel.modelsOf ctx t, ∀ q ∈ rules.dac, ¬ c.Disables q.info.name →
          (q.info.isvSpecific = true → c.framework.isvSpecificAnalyzers = true) →
            q.applies d = true → q.failure? ctx d = none) ∧
      ∃ vs, r.violations.Perm vs ∧
        List.Forall₂ (Violation.Finished c s) (on.reported ctx handlers s.types) vs) ∧
    (∀ t, on.firstFailing? ctx handlers s.types = some t →
      let failures := on.failuresAt ctx handlers t
      ∃ causes, (CheckError.batch failures).HasLeaves causes ∧ (∀ e ∈ causes, ¬ e.IsBatch) ∧
        ((∃ e ∈ failures, CheckError.cancelled.Within e) → result = .error .cancelled) ∧
        ((¬ ∃ e ∈ failures, CheckError.cancelled.Within e) →
          result = .error (.rule t.name (.joined causes)))) ∧
    (on.firstFailing? ctx handlers s.types = none → ∃ r, result = .ok r) := by
  intro on ctx handlers result
  set a := build directory c rules root excludes failOnInvalid
  have hon : a.rules = on := congrArg rules.filter c.isRuleEnabled_eq
  have ha : a.rules.LeavesToken := h.filter c.isRuleEnabled
  refine ⟨fun r hr => ?_, fun t hfirst => ?_, fun hnone => ?_⟩
  · have hnone : ∀ t ∈ analysed ctx s.types, a.rules.failuresAt ctx handlers t = [] := by
      refine firstFailing?_eq_none_iff.1 (Option.eq_none_iff_forall_not_mem.2 fun t hfirst => ?_)
      have hfailing : result = _ := analyzeSnapshot_failing ha hfirst
      rw [hr] at hfailing
      cases hfailing
    obtain ⟨r', hr', hperm⟩ := analyzeSnapshot_done ha hnone
    obtain rfl : r = r' := Except.ok.inj (hr.symm.trans hr')
    refine ⟨fun t ht hs => ?_, _, hperm, ?_⟩
    · have hfailures := hnone t (List.mem_filter.2 ⟨ht, by simp [ctx, hs]⟩)
      rw [hon, failuresAt_eq_nil_iff] at hfailures
      obtain ⟨hgraph, hdac⟩ := hfailures
      refine ⟨fun m hm q hq hq' => ?_, fun d hd q hq hq' => ?_⟩
      · exact Rule.failure?_eq_none (hgraph m hm) (List.mem_filter.2 ⟨hq, decide_eq_true hq'⟩)
      · exact Rule.failure?_eq_none (hdac d hd) (List.mem_filter.2 ⟨hq, decide_eq_true hq'⟩)
    · rw [hon, List.forall₂_map_right_iff]
      exact List.forall₂_same.2 fun v _ => a.finished_finish s v
  · intro failures
    rw [← hon] at hfirst
    have hfailing : result = .error (.ofAnalyze t.name (.ofCheck (.batch failures))) := by
      rw [show failures = a.rules.failuresAt ctx handlers t by rw [hon]]
      exact analyzeSnapshot_failing ha hfirst
    have hcauses := (CheckError.batch failures).hasLeaves_leaves
    refine ⟨_, hcauses, hcauses.not_isBatch, fun hw => ?_, fun hw => ?_⟩
    · rw [hfailing, AnalyzeError.ofCheck_batch_cancelled hw]
      rfl
    · rw [hfailing, AnalyzeError.ofCheck_batch_failed hw hcauses]
      rfl
  · rw [← hon, firstFailing?_eq_none_iff] at hnone
    obtain ⟨r, hr, -⟩ := analyzeSnapshot_done ha hnone
    exact ⟨r, hr⟩

/-- One class is checked well, the second fails with nested causes in one rule and a crash in
    another, and the third is not reached; a rule that would fail everywhere is turned off. Alone,
    the first class gives a report, with the severity of an entry and in the source of its
    snapshot. -/
theorem analyzeSnapshot_first_failure_invoice :
    let late : Violation :=
      ⟨"T1", "strict", .error, { line := 3 }, "too late", some "Order", none, [], .empty⟩
    let strict : DacRule :=
      { info := { name := "strict", code := "T1", target := .dac }
        steps := fun _ d =>
          if d.symbol.name = "Order" then [.report late]
          else [.fail (.batch [.failed "strict" "no total", .batch [.failed "strict" "no date"]])] }
    let breaking : DacRule :=
      { info := { name := "breaking", code := "T2", target := .dac }
        steps := fun _ d => if d.symbol.name = "Invoice" then [.crash "out of range"] else [] }
    let off : DacRule :=
      { info := { name := "off", code := "T3", target := .dac }
        steps := fun _ _ => [.crash "turned on"] }
    let rules : RuleSet := ⟨[], [off, strict, breaking]⟩
    let c : Config :=
      { rules := ⟨[("off", { enabled := some false }), ("strict", { severity := some .info })],
          by decide⟩ }
    let on : RuleSet := ⟨[], [off, strict, breaking].filter fun q => ¬ c.Disables q.info.name⟩
    let handlers (s : Snapshot) := (InstanceCreatedHandlers.collect ⟨s, {}⟩).answer s
    let analyze (s : Snapshot) := ((build "/" c rules).analyzeSnapshot s {}).1
    let order : TypeSymbol := { name := "Order", interfaces := [{ name := "IBqlTable" }] }
    let invoice : TypeSymbol := { name := "Invoice", interfaces := [{ name := "IBqlTable" }] }
    let payment : TypeSymbol := { name := "Payment", interfaces := [{ name := "IBqlTable" }] }
    let all : Snapshot := { types := [order, invoice, payment], distinct := by decide }
    let one : Snapshot := { types := [order], distinct := by decide, source := some "order.json" }
    rules.LeavesToken ∧
      on.firstFailing? ⟨all, {}⟩ (handlers all) all.types = some invoice ∧
      analyze all = .error (.rule "Invoice" (.batch [.failed "strict" "no total",
        .failed "strict" "no date", .panicked "breaking" "out of range"])) ∧
      ∃ r, analyze one = .ok r ∧ r.violations =
        [{ late with severity := .info, location := { file := "order.json", line := 3 } }] := by
  intro late strict breaking off rules c on handlers analyze order invoice payment all one
  have hruns : on.firstFailing? ⟨all, {}⟩ (handlers all) all.types = some invoice ∧
      on.failuresAt ⟨all, {}⟩ (handlers all) invoice =
        [.batch [.failed "strict" "no total", .batch [.failed "strict" "no date"]],
          .panicked "breaking" "out of range"] ∧
      on.firstFailing? ⟨one, {}⟩ (handlers one) one.types = none ∧
      on.reported ⟨one, {}⟩ (handlers one) one.types = [late] := by
    decide +kernel +revert
  have hrules : rules.LeavesToken := by
    refine ⟨by simp [rules], fun r hr ctx d step hstep => ?_⟩
    simp only [rules, List.mem_cons, List.not_mem_nil, or_false] at hr
    rcases hr with rfl | rfl | rfl
    · simp only [off, List.mem_singleton] at hstep
      simp [hstep]
    · simp only [strict] at hstep
      split at hstep <;> simp_all
    · simp only [breaking] at hstep
      split at hstep <;> simp_all
  obtain ⟨hfirst, hfailures, hnone, hreported⟩ := hruns
  obtain ⟨-, hfailing, -⟩ := analyzeSnapshot_first_failure "/" c rules none [] false hrules all
  obtain ⟨hdone, -, hresult⟩ := analyzeSnapshot_first_failure "/" c rules none [] false hrules one
  obtain ⟨causes, hcauses, -, -, herror⟩ := hfailing invoice hfirst
  obtain ⟨r, hr⟩ := hresult hnone
  obtain ⟨-, vs, hperm, hfinished⟩ := hdone r hr
  refine ⟨hrules, hfirst, ?_, r, hr, ?_⟩
  · change (CheckError.batch (on.failuresAt ⟨all, {}⟩ (handlers all) invoice)).HasLeaves _
      at hcauses
    rw [hfailures] at hcauses
    rw [← hcauses.leaves_eq] at herror
    refine herror ?_
    change ¬ ∃ e ∈ on.failuresAt ⟨all, {}⟩ (handlers all) invoice, CheckError.cancelled.Within e
    rw [hfailures]
    simp only [← CheckError.isCancellation_iff]
    decide
  · change List.Forall₂ _ (on.reported ⟨one, {}⟩ (handlers one) one.types) vs at hfinished
    rw [hreported] at hfinished
    obtain ⟨v, vs, hv, hvs, rfl⟩ := List.forall₂_cons_left_iff.1 hfinished
    obtain rfl := List.forall₂_nil_left_iff.1 hvs
    have hseverity : v.severity = .info :=
      hv.severity.of_entry ("strict", { severity := some .info }) (by simp [c]) rfl
    have hfile : v.location.file = "order.json" := hv.file_eq
    rw [List.perm_singleton.1 hperm, hv.same, hseverity, hfile]

end Analyzer

end SnapshotLint

/-
  The result of an analysis does not depend on how its checks are scheduled.

  The checks of a model may run at the same time (`Pool`). If the rules have codes of their own and
  report under them, every pool leaves the same reports under each code, or else the token cancelled
  (`Schedules.agree`). The driver looks at the token after each batch, and sorts what it found. So all
  pools give one result: `Analyzer.result_independent_of_scheduling`.
-/
import SnapshotLint.Proofs.Interleaving
import SnapshotLint.Proofs.ReportedOnce

namespace SnapshotLint

/-! ## Pools -/

/-- A pool of workers: every check of a batch is run to its end, in some order of their actions. -/
structure Pool extends Runner where
  schedules : ∀ {μ : Type} (rules : List (Rule μ)) (ctx : Context) (model : μ) (s : Session),
    Schedules (rules.map (·.task ctx model)) s (run rules ctx model s)

theorem Schedules.cons {t : Task} {ts : List Task} {s : Session}
    {outcome : List CheckError × Session} (h : Schedules ts (t.run s).2 outcome) :
    Schedules (t :: ts) s ((t.run s).1.toList ++ outcome.1, outcome.2) := by
  obtain ⟨ends, hmoves, hfailures⟩ := h
  refine ⟨(t.run s).1 :: ends, (t.moves_run [] ts s).trans ?_, ?_⟩
  · exact hmoves.lift (fun c => (.done (t.run s).1 :: c.1, c.2)) fun _ _ hmove => hmove.cons _
  · rw [hfailures, List.flatMap_cons]

theorem Schedules.cons_last {t : Task} {ts : List Task} {s : Session}
    {outcome : List CheckError × Session} (h : Schedules ts s outcome) :
    Schedules (t :: ts) s ((t.run outcome.2).1.toList ++ outcome.1, (t.run outcome.2).2) := by
  obtain ⟨ends, hmoves, hfailures⟩ := h
  refine ⟨(t.run outcome.2).1 :: ends, ?_, ?_⟩
  · refine .trans ?_ (t.moves_run [] (ends.map .done) outcome.2)
    exact hmoves.lift (fun c => (t :: c.1, c.2)) fun _ _ hmove => hmove.cons t
  · rw [hfailures, List.flatMap_cons]

namespace Pool

/-- One check after the other. -/
def sequential : Pool where
  toRunner := Runner.sequential
  schedules rules ctx model := by
    induction rules with
    | nil => exact fun s => ⟨[], .refl, rfl⟩
    | cons r rules ih =>
      intro s
      have hrest := ih (r.check ctx model s).2
      rw [← Rule.run_task] at hrest
      have := hrest.cons
      rwa [Rule.run_task] at this

/-- One check after the other, the last one first. -/
def backwards : Pool where
  run rules ctx model := rules.foldr (fun r checkRest s =>
    ((r.check ctx model (checkRest s).2).1.toList ++ (checkRest s).1,
      (r.check ctx model (checkRest s).2).2)) fun s => ([], s)
  schedules rules ctx model := by
    induction rules with
    | nil => exact fun s => ⟨[], .refl, rfl⟩
    | cons r rules ih =>
      intro s
      have : Schedules (r.task ctx model :: _) s _ := (ih s).cons_last
      rwa [Rule.run_task] at this

end Pool

/-! ## Agreement -/

namespace Session

theorem Alike.poll {s s' : Session} (h : s.Alike s') : s.poll.Alike s'.poll :=
  ⟨congrArg Token.poll h.1, h.2⟩

/-- From sessions that are alike two operations come to the same result, and to sessions that are
    alike unless they stop. -/
def Agree {ε β : Type} (stop : ε) (op op' : Session → Except ε β × Session) : Prop :=
  ∀ s s' : Session, s.Alike s' →
    (op s).1 = (op' s').1 ∧ ((op s).1 = .error stop ∨ (op s).2.Alike (op' s').2)

theorem agree_ok {ε β : Type} (stop : ε) (b : β) :
    Agree stop (fun s => (.ok b, s)) fun s => (.ok b, s) :=
  fun _ _ h => ⟨rfl, Or.inr h⟩

theorem Agree.guarded {ε β : Type} {stop : ε} {op op' : Session → Except ε β × Session}
    (h : Agree stop op op') : Agree stop (guarded stop op) (guarded stop op') := by
  intro s s' hs
  unfold Session.guarded
  rw [hs.poll.1]
  split
  · exact ⟨rfl, Or.inl rfl⟩
  · exact h _ _ hs.poll

theorem Agree.andThen {ε ε' β γ : Type} {stop : ε} {rename : ε → ε'}
    {op op' : Session → Except ε β × Session} {next next' : β → Session → Except ε' γ × Session}
    (h : Agree stop op op') (hnext : ∀ b, Agree (rename stop) (next b) (next' b)) :
    Agree (rename stop) (andThen rename op next) (andThen rename op' next') := by
  intro s s' hs
  obtain ⟨hresult, hsessions⟩ := h s s' hs
  unfold Session.andThen
  rcases hop : op s with ⟨e | b, s₁⟩ <;> rcases hop' : op' s' with ⟨e' | b', s₁'⟩ <;>
    rw [hop, hop'] at hresult hsessions <;> cases hresult
  · refine ⟨rfl, ?_⟩
    rcases hsessions with hstop | halike
    · cases hstop
      exact Or.inl rfl
    · exact Or.inr halike
  · rcases hsessions with hstop | halike
    · cases hstop
    · exact hnext b _ _ halike

end Session

namespace Rule

variable {μ : Type}

/-- Rules with different codes, each of which reports under its own. -/
structure OwnCodes (rules : List (Rule μ)) : Prop where
  distinct : (rules.map (·.info.code)).Nodup
  own : ∀ r ∈ rules, ∀ ctx model, ∀ v ∈ r.found ctx model, v.code = r.info.code

theorem OwnCodes.filter {rules : List (Rule μ)} (h : OwnCodes rules) (keep : Rule μ → Bool) :
    OwnCodes (rules.filter keep) :=
  ⟨h.distinct.sublist (List.filter_sublist.map _),
    fun r hr => h.own r (List.mem_filter.1 hr).1⟩

theorem mem_found_of_mem_reports (ctx : Context) (rule : String) (steps : List Step)
    {v : Violation} (h : v ∈ (Task.ofSteps ctx rule steps).reports) :
    v ∈ steps.flatMap (·.found ctx.snapshot) := by
  induction steps with
  | nil => exact h
  | cons step steps ih =>
    rw [List.flatMap_cons, List.mem_append]
    cases step with
    | poll => exact Or.inr (ih h)
    | report w =>
      rcases List.mem_cons.1 h with rfl | h
      · exact Or.inl List.mem_cons_self
      · exact Or.inr (ih h)
    | judge finding =>
      rw [Task.ofSteps, Analysis.reports_task] at h
      cases hfound : finding.answer ctx.snapshot with
      | none => exact Or.inr (ih (by rwa [hfound] at h))
      | some w =>
        rw [hfound] at h
        rcases List.mem_cons.1 h with rfl | h
        · exact Or.inl (by simp [Step.found, hfound])
        · exact Or.inr (ih h)
    | cancel => exact Or.inr (ih h)
    | fail e => cases h
    | crash message => cases h

theorem OwnCodes.apart {rules : List (Rule μ)} (h : OwnCodes rules) (ctx : Context) (model : μ) :
    Apart (rules.map (·.task ctx model)) := by
  have hcode : ∀ r ∈ rules, ∀ v ∈ (r.task ctx model).reports, v.code = r.info.code :=
    fun r hr v hv => h.own r hr ctx model v (mem_found_of_mem_reports ctx r.info.name _ hv)
  rw [Apart, List.pairwise_map]
  refine (List.pairwise_map.1 h.distinct).imp_of_mem fun {r r'} hr hr' hne v hv w hw heq => hne ?_
  rw [← hcode r hr v hv, ← hcode r' hr' w hw, heq]

end Rule

/-- Each kind of model has rules with codes of their own. -/
structure RuleSet.OwnCodes (rules : RuleSet) : Prop where
  graph : Rule.OwnCodes rules.graph
  dac : Rule.OwnCodes rules.dac

theorem RuleSet.OwnCodes.filter {rules : RuleSet} (h : rules.OwnCodes) (keep : String → Bool) :
    (rules.filter keep).OwnCodes :=
  ⟨h.graph.filter _, h.dac.filter _⟩

theorem Analyzer.code_override (a : Analyzer) (v : Violation) : (a.override v).code = v.code := by
  rw [override_eq]

namespace Pool

open Session

variable (p q : Pool) {μ : Type} {rules : List (Rule μ)} (ctx : Context)

theorem agree_checkModel (h : Rule.OwnCodes rules) (model : μ) :
    Agree .cancelled (p.checkModel rules ctx model) (q.checkModel rules ctx model) := by
  intro s s' hs
  have hapart : Apart ((Rule.applicable rules ctx model).map (·.task ctx model)) :=
    (h.filter _).apart ctx model
  unfold Runner.checkModel
  rw [hs.poll.1]
  split
  · exact ⟨rfl, Or.inl rfl⟩
  · cases happlicable : Rule.applicable rules ctx model with
    | nil => exact ⟨rfl, Or.inr hs.poll⟩
    | cons r rest =>
      rw [happlicable] at hapart
      have hp := p.schedules (r :: rest) ctx model s.poll
      have hq := q.schedules (r :: rest) ctx model s'.poll
      simp only
      rcases hp.agree hapart hs.poll hq with ⟨hc, hc'⟩ | ⟨hfailures, halike⟩
      · -- the failures may differ, but the poll after the batch comes first
        have hpoll : (p.run (r :: rest) ctx model s.poll).2.poll.token.cancelled = true :=
          Token.cancelled_poll hc
        have hpoll' : (q.run (r :: rest) ctx model s'.poll).2.poll.token.cancelled = true :=
          Token.cancelled_poll hc'
        rw [if_pos hpoll, if_pos hpoll']
        exact ⟨rfl, Or.inl rfl⟩
      · rw [hfailures, halike.poll.1]
        split
        · exact ⟨rfl, Or.inl rfl⟩
        · split <;> exact ⟨rfl, Or.inr halike.poll⟩

theorem agree_checkModels (h : Rule.OwnCodes rules) (models : List μ) :
    Agree .cancelled (p.checkModels rules ctx models) (q.checkModels rules ctx models) := by
  induction models with
  | nil => exact agree_ok _ ()
  | cons model rest ih =>
    exact ((agree_checkModel p q ctx h model).andThen fun _ => ih).guarded

theorem agree_checkInferred (h : Rule.OwnCodes rules) (models : Analysis (List μ)) :
    Agree .cancelled (p.checkInferred rules ctx models) (q.checkInferred rules ctx models) := by
  intro s s' hs
  have hrun : (s.run ctx models).1 = (s'.run ctx models).1 ∧
      (s.run ctx models).2.Alike (s'.run ctx models).2 := by
    rw [Session.run, Session.run, hs.1]
    exact ⟨rfl, rfl, hs.2⟩
  rw [Runner.checkInferred_eq, Runner.checkInferred_eq, hrun.1]
  split
  · exact ⟨rfl, Or.inl rfl⟩
  · next ms _ =>
    exact ((agree_checkModels p q ctx h ms).andThen fun _ => agree_ok _ ms.length) _ _ hrun.2

variable {a : Analyzer} (h : a.rules.OwnCodes) (handlers : InstanceCreatedHandlers)
include h

theorem agree_checkTypes (types : List TypeSymbol) :
    Agree .cancelled (p.checkTypes a ctx handlers types) (q.checkTypes a ctx handlers types) := by
  have htype : ∀ t, Agree .cancelled (p.checkType a ctx handlers t)
      (q.checkType a ctx handlers t) := by
    intro t
    refine (agree_checkInferred p q ctx h.graph _).andThen fun graphs => ?_
    exact (agree_checkInferred p q ctx h.dac _).andThen fun dacs => agree_ok _ _
  induction types with
  | nil => exact agree_ok _ 0
  | cons t rest ih =>
    refine Agree.guarded ?_
    split
    · exact ih
    · exact (htype t).andThen fun models => ih.andThen fun checked => agree_ok _ _

theorem result_eq (s : Snapshot) (token : Token) :
    (p.analyzeSnapshot a s token).1 = (q.analyzeSnapshot a s token).1 := by
  have htypes : (p.analyzeTypes a s token).1 = (q.analyzeTypes a s token).1 := by
    unfold Runner.analyzeTypes
    simp only
    rcases (InstanceCreatedHandlers.collect (a.context s)).run s token with ⟨_ | handlers, token'⟩
    · rfl
    · have hagree := agree_checkTypes p q (a.context s) h handlers s.types
        { token := token' } { token := token' } ⟨rfl, fun _ => rfl⟩
      simp only
      obtain ⟨hresult, hsessions⟩ := hagree
      rcases hp : p.checkTypes a (a.context s) handlers s.types { token := token' } with
        ⟨e | n, s₁⟩ <;>
        rcases hq : q.checkTypes a (a.context s) handlers s.types { token := token' } with
          ⟨e' | n', s₁'⟩ <;>
        rw [hp, hq] at hresult hsessions <;> cases hresult
      · rfl
      · rcases hsessions with hstop | halike
        · cases hstop
        · have hsort : Violation.sort (s₁.sink.map a.override) =
              Violation.sort (s₁'.sink.map a.override) := by
            refine Violation.sort_eq_of_codes fun code => ?_
            rw [Violation.under_map a.code_override, Violation.under_map a.code_override, halike.2]
          simp only [LintResult.sort, hsort]
  unfold Runner.analyzeSnapshot
  rcases hp : p.analyzeTypes a s token with ⟨e | r, t⟩ <;>
    rcases hq : q.analyzeTypes a s token with ⟨e' | r', t'⟩ <;>
    rw [hp, hq] at htypes <;> cases htypes <;> rfl

end Pool

theorem Survey.ownCodes {μ : Type} {IsModelOf : Context → TypeSymbol → μ → Prop}
    {vs : List (Survey IsModelOf)} (h : (vs.map (·.rule.info.code)).Nodup) :
    Rule.OwnCodes (vs.map (·.rule)) := by
  refine ⟨by rwa [List.map_map], fun r hr ctx model v hv => ?_⟩
  obtain ⟨survey, -, rfl⟩ := List.mem_map.1 hr
  exact (survey.names_of_mem hv).2

/-- The rules of a preset have codes of their own. -/
theorem Preset.ownCodes (c : Config) (p : Preset) : (p.rules c).OwnCodes := by
  have hgraph : ["EL1040", "EL1041"].Nodup := by decide
  have hdac : ["EL1027", "EL1030"].Nodup := by decide
  rw [← rules_surveys]
  cases p with
  | recommended => exact ⟨Survey.ownCodes (List.nodup_singleton _), Survey.ownCodes hdac⟩
  | strict => exact ⟨Survey.ownCodes hgraph, Survey.ownCodes hdac⟩
  | minimal => exact ⟨Survey.ownCodes List.nodup_nil, Survey.ownCodes (List.nodup_singleton _)⟩
  | all => exact ⟨Survey.ownCodes hgraph, Survey.ownCodes hdac⟩

namespace Analyzer

/-- **The result does not depend on scheduling.** Sorting undoes every mixing of reports under
    different codes. So if the rules have codes of their own, the result under any token is that of
    one check after the other, whatever pool runs the checks. -/
theorem result_independent_of_scheduling {a : Analyzer} (h : a.rules.OwnCodes) :
    (∀ r r' : LintResult,
      (∀ code, Violation.under code r.violations = Violation.under code r'.violations) →
        r.sort.violations = r'.sort.violations) ∧
    ∀ (p : Pool) (s : Snapshot) (token : Token),
      (p.analyzeSnapshot a s token).1 = (a.analyzeSnapshot s token).1 := by
  refine ⟨fun r r' hcodes => Violation.sort_eq_of_codes hcodes, fun p s token => ?_⟩
  exact p.result_eq Pool.sequential h s token

/-- Reports against one file in two spellings, and a class against which two rules report: run
    backwards, their reports come in the other order. -/
theorem result_independent_of_scheduling_order :
    let a := build "/" {} (Preset.all.rules {})
    let s : Snapshot :=
      { types := [
          { name := "Order"
            interfaces := [{ name := "IBqlTable" }]
            members := [
              { name := "CompanyID", kind := .property },
              { name := "Total", kind := .property
                attributes := [
                  { typeName := "PXIntAttribute" }, { typeName := "PXDefaultAttribute" }] }] }]
        distinct := by decide }
    let sink (p : Pool) := (p.checkTypes a (a.context s) {} s.types {}).2.sink
    let against (file code : String) : Violation :=
      ⟨code, "", .info, { file }, "", none, none, [], .empty⟩
    let defaults := [against "src/Order.cs" "EL1030", against "src//Order.cs" "EL1030"]
    let fields := [against "src/Order.cs" "EL1027"]
    a.rules.OwnCodes ∧
      (LintResult.sort ⟨defaults ++ fields, 0, 1⟩).violations =
        (LintResult.sort ⟨fields ++ defaults, 0, 1⟩).violations ∧
      (sink .sequential).map (·.code) = ["EL1027", "EL1030"] ∧
      (sink .backwards).map (·.code) = ["EL1030", "EL1027"] ∧
      (Pool.backwards.analyzeSnapshot a s {}).1 = (a.analyzeSnapshot s {}).1 := by
  intro a s sink against defaults fields
  have hsequential : (sink .sequential).map (·.code) = ["EL1027", "EL1030"] := by
    decide +kernel +revert
  have hbackwards : (sink .backwards).map (·.code) = ["EL1030", "EL1027"] := by
    decide +kernel +revert
  have hcodes : a.rules.OwnCodes := (Preset.ownCodes {} .all).filter _
  obtain ⟨hsort, hresult⟩ := result_independent_of_scheduling hcodes
  refine ⟨hcodes, hsort _ _ (Violation.under_append_comm ?_), hsequential, hbackwards,
    hresult _ s {}⟩
  decide

end Analyzer

end SnapshotLint

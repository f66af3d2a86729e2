/-
  One aggregated check of a model.

  The rules that apply to a model take turns. A rule finds the token as the one before it left it,
  reports what its steps report until one of them ends the check (`Performs`), and leaves the token
  to the next. A rule whose turn comes when the token is cancelled does nothing. What a check
  reports and how it ends is read off the turns: `Rule.checkModel_aggregates`.
-/
import SnapshotLint.Check.Session
import SnapshotLint.Proofs.ErrorNormalForm

namespace SnapshotLint

/-! ## Causes -/

namespace CheckError

/-- The second error is the first one, or a batch that holds it at some depth. -/
inductive Within (c : CheckError) : CheckError → Prop
  | self : Within c c
  | cause {e : CheckError} {causes : List CheckError} (he : e ∈ causes) (h : Within c e) :
      Within c (batch causes)

theorem anyCancellation_iff {es : List CheckError} :
    anyCancellation es = true ↔ ∃ e ∈ es, e.isCancellation = true := by
  induction es with
  | nil => simp [anyCancellation]
  | cons e es ih => simp [anyCancellation, ih]

theorem within_of_isCancellation : ∀ {e : CheckError}, e.isCancellation = true → cancelled.Within e
  | cancelled, _ => .self
  | failed .., h => by simp [isCancellation] at h
  | panicked .., h => by simp [isCancellation] at h
  | batch causes, h => by
    rw [isCancellation, anyCancellation_iff] at h
    obtain ⟨e, he, h⟩ := h
    exact .cause he (within_of_isCancellation h)

theorem isCancellation_iff {e : CheckError} : e.isCancellation = true ↔ cancelled.Within e := by
  refine ⟨within_of_isCancellation, fun h => ?_⟩
  induction h with
  | self => rfl
  | cause he _ ih => exact anyCancellation_iff.2 ⟨_, he, ih⟩

end CheckError

namespace AnalyzeError

variable {es : List CheckError}

theorem ofCheck_batch_cancelled (h : ∃ e ∈ es, CheckError.cancelled.Within e) :
    ofCheck (.batch es) = .cancelled := by
  have hc : (CheckError.batch es).isCancellation = true := by
    obtain ⟨e, he, hw⟩ := h
    exact CheckError.isCancellation_iff.2 (.cause he hw)
  rw [ofCheck, if_pos hc]

theorem ofCheck_batch_failed (h : ¬ ∃ e ∈ es, CheckError.cancelled.Within e)
    {causes : List CheckError} (hcauses : (CheckError.batch es).HasLeaves causes) :
    ofCheck (.batch es) = .failed (.joined causes) := by
  have hnone : CheckError.cancelled ∉ causes := by
    rw [← hcauses.isCancellation_iff]
    intro hc
    obtain ⟨e, he, hw⟩ := CheckError.anyCancellation_iff.1 hc
    exact h ⟨e, he, CheckError.isCancellation_iff.1 hw⟩
  rw [ofCheck_eq hcauses, if_neg hnone]

end AnalyzeError

/-! ## Turns -/

/-- The steps of the named rule under a token: what they report, the error that ends them, if one
    does, and the token afterwards. -/
inductive Performs (ctx : Context) (rule : String) :
    List Step → Token → List Violation → Option CheckError → Token → Prop
  | done {t : Token} : Performs ctx rule [] t [] none t
  | stopped {rest : List Step} {t : Token} (hc : t.poll.cancelled = true) :
      Performs ctx rule (.poll :: rest) t [] (some .cancelled) t.poll
  | poll {rest : List Step} {t t' : Token} {vs : List Violation} {e : Option CheckError}
      (hc : t.poll.cancelled = false) (h : Performs ctx rule rest t.poll vs e t') :
      Performs ctx rule (.poll :: rest) t vs e t'
  | report {rest : List Step} {t t' : Token} {v : Violation} {vs : List Violation}
      {e : Option CheckError} (h : Performs ctx rule rest t vs e t') :
      Performs ctx rule (.report v :: rest) t (v :: vs) e t'
  | interrupted {rest : List Step} {t t' : Token} {finding : Analysis (Option Violation)}
      (hrun : finding.run ctx.snapshot t = (none, t')) :
      Performs ctx rule (.judge finding :: rest) t [] (some .cancelled) t'
  | judge {rest : List Step} {t t₁ t' : Token} {finding : Analysis (Option Violation)}
      {found : Option Violation} {vs : List Violation} {e : Option CheckError}
      (hrun : finding.run ctx.snapshot t = (some found, t₁)) (h : Performs ctx rule rest t₁ vs e t') :
      Performs ctx rule (.judge finding :: rest) t (found.toList ++ vs) e t'
  | cancel {rest : List Step} {t t' : Token} {vs : List Violation} {e : Option CheckError}
      (h : Performs ctx rule rest t.cancel vs e t') : Performs ctx rule (.cancel :: rest) t vs e t'
  | fail {rest : List Step} {t : Token} {e : CheckError} :
      Performs ctx rule (.fail e :: rest) t [] (some e) t
  | crash {rest : List Step} {t : Token} {message : String} :
      Performs ctx rule (.crash message :: rest) t [] (some (.panicked rule message)) t

namespace Performs

variable {ctx : Context} {rule : String}

/-- Whatever has been reported before, the steps add their own reports. -/
theorem runSteps_eq {steps : List Step} {t t' : Token} {vs : List Violation}
    {e : Option CheckError} (h : Performs ctx rule steps t vs e t') (sink : List Violation) :
    Session.runSteps ctx rule steps ⟨t, sink⟩ = (e, ⟨t', sink ++ vs⟩) := by
  induction h generalizing sink with
  | done => simp [Session.runSteps]
  | stopped hc => simp [Session.runSteps, Session.poll, hc]
  | poll hc _ ih => simp [Session.runSteps, Session.poll, hc, ih]
  | report _ ih => simp [Session.runSteps, Session.report, ih]
  | interrupted hrun => simp [Session.runSteps, Session.run, hrun]
  | @judge _ _ _ _ _ found _ _ hrun _ ih =>
    cases found <;> simp [Session.runSteps, Session.run, Session.report, hrun, ih]
  | cancel _ ih => simp [Session.runSteps, ih]
  | fail => simp [Session.runSteps]
  | crash => simp [Session.runSteps]

theorem exists_performs (ctx : Context) (rule : String) (steps : List Step) (t : Token) :
    ∃ vs e t', Performs ctx rule steps t vs e t' := by
  induction steps generalizing t with
  | nil => exact ⟨_, _, _, .done⟩
  | cons step rest ih =>
    cases step with
    | poll =>
      by_cases hc : t.poll.cancelled = true
      · exact ⟨_, _, _, .stopped hc⟩
      · obtain ⟨vs, e, t', h⟩ := ih t.poll
        exact ⟨vs, e, t', .poll (by simpa using hc) h⟩
    | report v =>
      obtain ⟨vs, e, t', h⟩ := ih t
      exact ⟨_, e, t', .report h⟩
    | judge finding =>
      rcases hrun : finding.run ctx.snapshot t with ⟨_ | found, t₁⟩
      · exact ⟨_, _, _, .interrupted hrun⟩
      · obtain ⟨vs, e, t', h⟩ := ih t₁
        exact ⟨_, e, t', .judge hrun h⟩
    | cancel =>
      obtain ⟨vs, e, t', h⟩ := ih t.cancel
      exact ⟨vs, e, t', .cancel h⟩
    | fail e => exact ⟨_, _, _, .fail⟩
    | crash message => exact ⟨_, _, _, .crash⟩

end Performs

/-- What one rule does in a check of a model. -/
structure Turn (μ : Type) where
  rule : Rule μ
  /-- The token that the rule finds. -/
  before : Token
  reports : List Violation
  failure : Option CheckError
  /-- The token that the rule leaves. -/
  after : Token

namespace Turn

variable {μ : Type}

/-- The failures of several turns, in their order. -/
def failures (us : List (Turn μ)) : List CheckError := us.flatMap (·.failure.toList)

/-- A rule is not begun if the token is cancelled; otherwise its steps are performed. -/
inductive Taken (ctx : Context) (model : μ) : Turn μ → Prop
  | skipped {r : Rule μ} {t : Token} (hc : t.poll.cancelled = true) :
      Taken ctx model ⟨r, t, [], some .cancelled, t.poll⟩
  | performed {r : Rule μ} {t t' : Token} {vs : List Violation} {e : Option CheckError}
      (hc : t.poll.cancelled = false)
      (h : Performs ctx r.info.name (r.steps ctx model) t.poll vs e t') :
      Taken ctx model ⟨r, t, vs, e, t'⟩

variable {ctx : Context} {model : μ}

theorem Taken.check_eq {u : Turn μ} (h : u.Taken ctx model) (sink : List Violation) :
    u.rule.check ctx model ⟨u.before, sink⟩ = (u.failure, ⟨u.after, sink ++ u.reports⟩) := by
  cases h with
  | skipped hc => simp [Rule.check, Session.poll, hc]
  | performed hc h => simp [Rule.check, Rule.perform, Session.poll, hc, h.runSteps_eq]

theorem exists_taken (ctx : Context) (model : μ) (r : Rule μ) (t : Token) :
    ∃ u : Turn μ, u.rule = r ∧ u.before = t ∧ u.Taken ctx model := by
  by_cases hc : t.poll.cancelled = true
  · exact ⟨_, rfl, rfl, .skipped hc⟩
  · obtain ⟨vs, e, t', h⟩ := Performs.exists_performs ctx r.info.name (r.steps ctx model) t.poll
    exact ⟨_, rfl, rfl, .performed (by simpa using hc) h⟩

/-- A rule that finds the token cancelled reports nothing and leaves it so. -/
theorem Taken.of_cancelled {u : Turn μ} (h : u.Taken ctx model) (hc : u.before.cancelled = true) :
    u.reports = [] ∧ u.after.cancelled = true := by
  have hp := Token.cancelled_poll hc
  cases h with
  | skipped => exact ⟨rfl, hp⟩
  | performed hc' => simp [hp] at hc'

end Turn

/-- Turns one after the other: each rule finds the token that the one before it left. -/
inductive Turns {μ : Type} (ctx : Context) (model : μ) : Token → List (Turn μ) → Token → Prop
  | nil {t : Token} : Turns ctx model t [] t
  | cons {u : Turn μ} {us : List (Turn μ)} {t : Token} (hu : u.Taken ctx model)
      (h : Turns ctx model u.after us t) : Turns ctx model u.before (u :: us) t

namespace Turns

variable {μ : Type} {ctx : Context} {model : μ} {t t' : Token} {us : List (Turn μ)}

theorem taken (h : Turns ctx model t us t') : ∀ u ∈ us, u.Taken ctx model := by
  induction h with
  | nil => simp
  | cons hu _ ih => exact List.forall_mem_cons.2 ⟨hu, ih⟩

theorem checkAll_eq (h : Turns ctx model t us t') (sink : List Violation) :
    Rule.checkAll (us.map (·.rule)) ctx model ⟨t, sink⟩ =
      (Turn.failures us, ⟨t', sink ++ us.flatMap (·.reports)⟩) := by
  induction h generalizing sink with
  | nil => simp [Rule.checkAll, Turn.failures]
  | cons hu _ ih => simp [Rule.checkAll, hu.check_eq, ih, Turn.failures]

theorem exists_turns (ctx : Context) (model : μ) (rules : List (Rule μ)) (t : Token) :
    ∃ us t', us.map (·.rule) = rules ∧ Turns ctx model t us t' := by
  induction rules generalizing t with
  | nil => exact ⟨[], t, rfl, .nil⟩
  | cons r rules ih =>
    obtain ⟨u, rfl, rfl, hu⟩ := Turn.exists_taken ctx model r t
    obtain ⟨us, t', rfl, h⟩ := ih u.after
    exact ⟨u :: us, t', rfl, .cons hu h⟩

theorem reports_of_cancelled (h : Turns ctx model t us t') (hc : t.cancelled = true) :
    ∀ u ∈ us, u.reports = [] := by
  induction h with
  | nil => simp
  | cons hu _ ih =>
    obtain ⟨hreports, hafter⟩ := hu.of_cancelled hc
    exact List.forall_mem_cons.2 ⟨hreports, ih hafter⟩

/-- Once the token is cancelled, no later rule reports anything. -/
theorem pairwise (h : Turns ctx model t us t') :
    us.Pairwise fun u v => u.after.cancelled = true → v.reports = [] := by
  induction h with
  | nil => exact .nil
  | cons _ h ih => exact .cons (fun v hv hc => h.reports_of_cancelled hc v hv) ih

end Turns

/-! ## The check -/

namespace Rule

open CheckError

variable {μ : Type}

theorem checkModel_of_cancelled (rules : List (Rule μ)) (ctx : Context) (model : μ) {s : Session}
    (hc : s.token.poll.cancelled = true) :
    checkModel rules ctx model s = (.error .cancelled, s.poll) := by
  have hp : s.poll.token.cancelled = true := hc
  rw [checkModel, Runner.checkModel, if_pos hp]

/-- How a check ends whose last poll finds the given token. -/
def verdict (last : Token) (failures : List CheckError) : Except AnalyzeError Unit :=
  if last.cancelled then .error .cancelled
  else if failures.isEmpty then .ok ()
  else .error (.ofCheck (.batch failures))

/-- If nobody is stopped at the beginning, the turns say all about a check. -/
theorem checkModel_of_turns {rules : List (Rule μ)} {ctx : Context} {model : μ} {s : Session}
    {us : List (Turn μ)} {last : Token} (hc : s.token.poll.cancelled = false)
    (hrules : us.map (·.rule) = applicable rules ctx model)
    (h : Turns ctx model s.token.poll us last) :
    (checkModel rules ctx model s).1 =
        (if us = [] then .ok () else verdict last.poll (Turn.failures us)) ∧
      (checkModel rules ctx model s).2.sink = s.sink ++ us.flatMap (·.reports) := by
  have hp : ¬ s.poll.token.cancelled = true := by simp [Session.poll, hc]
  rw [checkModel, Runner.checkModel, if_neg hp, ← hrules]
  cases us with
  | nil => simp [Session.poll]
  | cons u us =>
    have hall : Runner.sequential.run ((u :: us).map (·.rule)) ctx model s.poll = _ :=
      h.checkAll_eq s.sink
    rw [List.map_cons] at hall ⊢
    simp only [hall, verdict, if_neg (List.cons_ne_nil u us)]
    by_cases hlast : last.poll.cancelled = true
    · simp [Session.poll, hlast]
    · simp only [Session.poll, hlast, Bool.false_eq_true, if_false]
      split <;> exact ⟨rfl, rfl⟩

theorem verdict_cancelled_iff {last : Token} {failures : List CheckError} :
    verdict last failures = .error .cancelled ↔
      last.cancelled = true ∨ ∃ e ∈ failures, cancelled.Within e := by
  unfold verdict
  by_cases hlast : last.cancelled = true
  · simp [hlast]
  · by_cases hw : ∃ e ∈ failures, cancelled.Within e
    · have hne : failures ≠ [] := by
        rintro rfl
        simp at hw
      simp [hlast, hw, hne, AnalyzeError.ofCheck_batch_cancelled hw]
    · rw [if_neg hlast, AnalyzeError.ofCheck_batch_failed hw (hasLeaves_leaves _)]
      refine ⟨fun h => ?_, fun h => absurd h (not_or.2 ⟨hlast, hw⟩)⟩
      split at h <;> cases h

theorem verdict_of_ne_cancelled {last : Token} {failures causes : List CheckError}
    (hcauses : (batch failures).HasLeaves causes) (h : verdict last failures ≠ .error .cancelled) :
    (verdict last failures = .ok () ↔ failures = []) ∧
      (failures ≠ [] → verdict last failures = .error (.failed (joined causes))) := by
  have hcases := mt verdict_cancelled_iff.2 h
  rw [not_or] at hcases
  obtain ⟨hlast, hw⟩ := hcases
  rw [verdict, if_neg hlast, AnalyzeError.ofCheck_batch_failed hw hcauses]
  cases failures with
  | nil => simp
  | cons e es => simp

/-- **One aggregated check.** If the poll at its beginning finds the token cancelled, no rule takes a
    turn; otherwise all rules do that apply to the model. The reports of the turns are added to what
    has been reported, and each rule reports and fails in its turn as it does alone under the same
    token. The check ends with a cancellation iff the first poll finds one, or some rule applies and
    the last poll finds one or a failure holds one. Otherwise it succeeds iff no rule failed, and
    else fails with all causes, which are the leaves of the failures in the order of the rules. -/
theorem checkModel_aggregates (rules : List (Rule μ)) (ctx : Context) (model : μ) (s : Session) :
    let batch := rules.filter fun r =>
      (!r.info.isvSpecific || ctx.framework.isvSpecificAnalyzers) && r.applies model
    let result := (checkModel rules ctx model s).1
    ∃ (turns : List (Turn μ)) (last : Token) (causes : List CheckError),
      turns.map (·.rule) = (if s.token.poll.cancelled then [] else batch) ∧
      Turns ctx model s.token.poll turns last ∧
      (checkModel rules ctx model s).2.sink = s.sink ++ turns.flatMap (·.reports) ∧
      (turns.Pairwise fun u v => u.after.cancelled = true → v.reports = []) ∧
      (∀ u ∈ turns, u.rule.check ctx model ⟨u.before, []⟩ = (u.failure, ⟨u.after, u.reports⟩)) ∧
      (result = .error .cancelled ↔
        s.token.poll.cancelled = true ∨
          batch ≠ [] ∧
            (last.poll.cancelled = true ∨ ∃ e ∈ Turn.failures turns, cancelled.Within e)) ∧
      (CheckError.batch (Turn.failures turns)).HasLeaves causes ∧
      (result ≠ .error .cancelled →
        (result = .ok () ↔ Turn.failures turns = []) ∧
        (Turn.failures turns ≠ [] → result = .error (.failed (joined causes)))) := by
  intro batch result
  by_cases hc : s.token.poll.cancelled = true
  · have hresult : checkModel rules ctx model s = _ := checkModel_of_cancelled rules ctx model hc
    refine ⟨[], s.token.poll, [], by simp [hc], .nil, ?_, .nil, by simp, ?_, .nil, ?_⟩
    · simp [hresult, Session.poll]
    · simp [result, hresult, hc]
    · simp [result, hresult]
  · obtain ⟨turns, last, hrules, hturns⟩ := Turns.exists_turns ctx model batch s.token.poll
    obtain ⟨hresult, hsink⟩ := checkModel_of_turns (by simpa using hc) hrules hturns
    have hempty : turns = [] ↔ batch = [] := by rw [← hrules, List.map_eq_nil_iff]
    have halone : ∀ u ∈ turns,
        u.rule.check ctx model ⟨u.before, []⟩ = (u.failure, ⟨u.after, u.reports⟩) :=
      fun u hu => (hturns.taken u hu).check_eq []
    obtain ⟨causes, hcauses⟩ :
        ∃ causes, (CheckError.batch (Turn.failures turns)).HasLeaves causes :=
      ⟨_, hasLeaves_leaves _⟩
    refine ⟨turns, last, causes, by simp [hc, hrules], hturns, hsink, hturns.pairwise, halone, ?_⟩
    by_cases hnil : turns = []
    · have hok : result = .ok () := by rw [if_pos hnil] at hresult; exact hresult
      refine ⟨?_, hcauses, ?_⟩
      · simp [hok, hc, hempty.1 hnil]
      · simp [hok, hnil, Turn.failures]
    · have hverdict : result = verdict last.poll (Turn.failures turns) := by
        rw [if_neg hnil] at hresult; exact hresult
      rw [hverdict]
      refine ⟨?_, hcauses, verdict_of_ne_cancelled hcauses⟩
      rw [verdict_cancelled_iff]
      simp [hc, mt hempty.2 hnil]

/-- A rule that breaks off takes neither its own report back nor the one of the next rule. -/
example (ctx : Context) (v w : Violation) :
    let breaking : Rule Unit :=
      { info := { name := "breaking", code := "T1", target := .graph }
        steps := fun _ _ => [.report v, .crash "out of range"] }
    let reporting : Rule Unit :=
      { info := { name := "reporting", code := "T2", target := .graph }
        steps := fun _ _ => [.report w] }
    checkModel [breaking, reporting] ctx () {} =
      (.error (.failed (.panicked "breaking" "out of range")), { sink := [v, w] }) := by
  rfl

end Rule

end SnapshotLint

/-
  Checks under a token that may be cancelled at any poll and at any lookup.

  The run of a check is compared with the run of the same check from the same session under the
  token that nobody cancels (`Session.uninterrupted`). As long as the token is not cancelled the two
  do the same. Once it is cancelled the interrupted run may report what is not there or miss what is,
  but then a later poll ends it with a cancellation, so that nothing of this gets out:
  `analyzeSnapshot_cancelled_or_complete`.
-/
import SnapshotLint.Proofs.InterruptedModel
import SnapshotLint.Proofs.UninterruptedCheck

namespace SnapshotLint

/-! ## Steps -/

namespace Session

/-- An operation that takes no cancellation back. -/
def KeepsCancelled {β : Type} (op : Session → β × Session) : Prop :=
  ∀ s, s.token.cancelled = true → (op s).2.token.cancelled = true

/-- An operation that does the same as without interruption if it leaves an uncancelled token. -/
def TracksUncancelled {β : Type} (op : Session → β × Session) : Prop :=
  ∀ s, (op s).2.token.cancelled = false →
    op s.uninterrupted = ((op s).1, (op s).2.uninterrupted)

/-- An operation that either stops with `stop` or does the same as without interruption. -/
def StopsOrCompletes {ε β : Type} (stop : ε) (op : Session → Except ε β × Session) : Prop :=
  ∀ s, (op s).1 = .error stop ∨ op s.uninterrupted = ((op s).1, (op s).2.uninterrupted)

theorem KeepsCancelled.uncancelled {β : Type} {op : Session → β × Session} (h : KeepsCancelled op)
    {s : Session} (hs : (op s).2.token.cancelled = false) : s.token.cancelled = false := by
  rw [Bool.eq_false_iff]
  intro hc
  rw [h s hc] at hs
  cases hs

theorem StopsOrCompletes.guarded {ε β : Type} {stop : ε} {op : Session → Except ε β × Session}
    (h : StopsOrCompletes stop op) : StopsOrCompletes stop (guarded stop op) := by
  intro s
  simp only [Session.guarded, poll_uninterrupted, cancelled_uninterrupted, Bool.false_eq_true,
    if_false]
  by_cases hp : s.poll.token.cancelled = true
  · exact Or.inl (by rw [if_pos hp])
  · rw [if_neg hp]
    exact h s.poll

theorem StopsOrCompletes.andThen {ε ε' β γ : Type} {stop : ε} {rename : ε → ε'}
    {op : Session → Except ε β × Session} {next : β → Session → Except ε' γ × Session}
    (h : StopsOrCompletes stop op) (hnext : ∀ b, StopsOrCompletes (rename stop) (next b)) :
    StopsOrCompletes (rename stop) (andThen rename op next) := by
  intro s
  have hop := h s
  unfold Session.andThen
  rcases hs : op s with ⟨e | b, s'⟩
  · rw [hs] at hop
    rcases hop with hop | hop
    · cases hop; exact Or.inl rfl
    · exact Or.inr (by rw [hop])
  · rw [hs] at hop
    rcases hop with hop | hop
    · cases hop
    · rw [hop]; exact hnext b s'

theorem stopsOrCompletes_ok {ε β : Type} (stop : ε) (b : β) :
    StopsOrCompletes stop fun s => (.ok b, s) :=
  fun _ => Or.inr rfl

theorem keepsCancelled_runSteps (ctx : Context) (rule : String) (steps : List Step) :
    KeepsCancelled (runSteps ctx rule steps) := by
  induction steps with
  | nil => exact fun s h => h
  | cons step rest ih =>
    intro s h
    cases step with
    | poll =>
      have hp : s.poll.token.cancelled = true := Token.cancelled_poll h
      rw [runSteps, if_pos hp]
      exact hp
    | report v => exact ih (s.report v) h
    | judge finding =>
      have hc : (s.run ctx finding).2.token.cancelled = true := finding.cancelled_run h
      rw [runSteps_judge]
      split
      · exact hc
      · exact ih _ (by rw [token_reportFound]; exact hc)
    | cancel => exact ih _ rfl
    | fail e => exact h
    | crash message => exact h

theorem tracksUncancelled_runSteps (ctx : Context) (rule : String) (steps : List Step) :
    TracksUncancelled (runSteps ctx rule steps) := by
  induction steps with
  | nil => exact fun s _ => rfl
  | cons step rest ih =>
    intro s h
    cases step with
    | poll =>
      simp only [runSteps] at h ⊢
      by_cases hp : s.poll.token.cancelled = true
      · rw [if_pos hp, hp] at h; cases h
      · rw [if_neg hp] at h ⊢
        exact ih s.poll h
    | report v => exact ih (s.report v) h
    | judge finding =>
      rw [runSteps_judge] at h
      -- the question was answered without interruption, or the token would still be cancelled
      have hq : (s.run ctx finding).2.token.cancelled = false := by
        split at h
        · exact h
        · have := (keepsCancelled_runSteps ctx rule rest).uncancelled h
          rwa [token_reportFound] at this
      have hr : (s.run ctx finding).1 = some (finding.answer ctx.snapshot) :=
        Analysis.run_eq_answer hq
      rw [hr] at h
      rw [runSteps_judge, runSteps_judge, run_uninterrupted, hr]
      have := ih _ h
      rwa [uninterrupted_reportFound] at this
    | cancel =>
      rw [runSteps, keepsCancelled_runSteps _ _ _ _ rfl] at h
      cases h
    | fail e => rfl
    | crash message => rfl

end Session

/-! ## Checks of models -/

namespace Rule

open Session Runner

variable {μ : Type}

theorem keepsCancelled_check (r : Rule μ) (ctx : Context) (model : μ) :
    KeepsCancelled (r.check ctx model) := by
  intro s h
  have hp : s.poll.token.cancelled = true := Token.cancelled_poll h
  rw [check, if_pos hp]
  exact hp

theorem tracksUncancelled_check (r : Rule μ) (ctx : Context) (model : μ) :
    TracksUncancelled (r.check ctx model) := by
  intro s h
  simp only [check] at h ⊢
  by_cases hp : s.poll.token.cancelled = true
  · rw [if_pos hp, hp] at h; cases h
  · rw [if_neg hp] at h ⊢
    exact tracksUncancelled_runSteps _ _ _ s.poll h

theorem keepsCancelled_checkAll (rules : List (Rule μ)) (ctx : Context) (model : μ) :
    KeepsCancelled (checkAll rules ctx model) := by
  induction rules with
  | nil => exact fun s h => h
  | cons r rest ih => exact fun s h => ih _ (keepsCancelled_check r ctx model s h)

theorem tracksUncancelled_checkAll (rules : List (Rule μ)) (ctx : Context) (model : μ) :
    TracksUncancelled (checkAll rules ctx model) := by
  induction rules with
  | nil => exact fun s _ => rfl
  | cons r rest ih =>
    intro s h
    have hrest : (checkAll rest ctx model (r.check ctx model s).2).2.token.cancelled = false := h
    have hr := (keepsCancelled_checkAll rest ctx model).uncancelled hrest
    simp only [checkAll, tracksUncancelled_check r ctx model s hr, ih _ hrest]

/-- The poll after the rules sees to it that a model is checked as if nobody had interrupted, or
    not at all. -/
theorem stopsOrCompletes_checkModel (rules : List (Rule μ)) (ctx : Context) (model : μ) :
    StopsOrCompletes .cancelled (checkModel rules ctx model) := by
  intro s
  unfold checkModel Runner.checkModel
  by_cases hp : s.poll.token.cancelled = true
  · exact Or.inl (by rw [if_pos hp])
  · rw [if_neg hp]
    cases applicable rules ctx model with
    | nil => exact Or.inr rfl
    | cons r rest =>
      simp only
      by_cases hq : (sequential.run (r :: rest) ctx model s.poll).2.poll.token.cancelled = true
      · exact Or.inl (by rw [if_pos hq])
      · refine Or.inr ?_
        have huncancelled :
            (sequential.run (r :: rest) ctx model s.poll).2.token.cancelled = false := by
          rw [Bool.eq_false_iff]
          exact fun hc => hq (Token.cancelled_poll hc)
        have hrun : TracksUncancelled (sequential.run (r :: rest) ctx model) :=
          tracksUncancelled_checkAll (r :: rest) ctx model
        have htrack := hrun s.poll huncancelled
        rw [uninterrupted_poll] at htrack
        rw [if_neg hq]
        simp only [poll_uninterrupted, cancelled_uninterrupted, htrack, Bool.false_eq_true, if_false]
        split <;> rfl

theorem stopsOrCompletes_checkModels (rules : List (Rule μ)) (ctx : Context) (models : List μ) :
    StopsOrCompletes .cancelled (sequential.checkModels rules ctx models) := by
  induction models with
  | nil => exact stopsOrCompletes_ok _ ()
  | cons model rest ih =>
    rw [Runner.checkModels]
    exact ((stopsOrCompletes_checkModel rules ctx model).andThen fun _ => ih).guarded

/-- If there are models at all, a cancelled token is noticed before the first one. -/
theorem checkModels_cancelled {rules : List (Rule μ)} {ctx : Context} {models : List μ}
    (hm : models ≠ []) {s : Session} (h : s.token.cancelled = true) :
    ∃ s', sequential.checkModels rules ctx models s = (.error .cancelled, s') := by
  cases models with
  | nil => exact absurd rfl hm
  | cons model rest =>
    have hp : s.poll.token.cancelled = true := Token.cancelled_poll h
    exact ⟨s.poll, by rw [Runner.checkModels, guarded, if_pos hp]⟩

/-- Wrong models are not checked, if there are some whenever they are wrong. -/
theorem stopsOrCompletes_checkInferred (rules : List (Rule μ)) (ctx : Context)
    {models : Analysis (List μ)} (hmodels : models.SoundUnless fun ms => ms ≠ []) :
    StopsOrCompletes .cancelled (checkInferred rules ctx models) := by
  intro s
  rw [checkInferred, checkInferred_eq, checkInferred_eq, run_uninterrupted]
  cases hrun : (s.run ctx models).1 with
  | none => exact Or.inl rfl
  | some ms =>
    by_cases heq : ms = models.answer ctx.snapshot
    · rw [← heq]
      exact ((stopsOrCompletes_checkModels rules ctx ms).andThen fun _ =>
        stopsOrCompletes_ok _ ms.length) (s.run ctx models).2
    · -- a wrong result: the token is cancelled, and there is a model before which it is polled
      have hne : ms ≠ [] := (hmodels _ _ _ hrun).resolve_left heq
      have hcancelled : (s.run ctx models).2.token.cancelled = true := by
        rw [← Bool.not_eq_false]
        intro hc
        have hanswer : (s.run ctx models).1 = some (models.answer ctx.snapshot) :=
          Analysis.run_eq_answer hc
        rw [hrun] at hanswer
        exact heq (Option.some.inj hanswer)
      obtain ⟨s', hstop⟩ := @checkModels_cancelled _ rules ctx _ hne _ hcancelled
      exact Or.inl (by simp only [andThen, hstop, id])

end Rule

/-! ## Analyzers -/

namespace Analyzer

open Session Analysis Runner

variable (a : Analyzer) (ctx : Context) (handlers : InstanceCreatedHandlers)

theorem stopsOrCompletes_checkType (t : TypeSymbol) :
    StopsOrCompletes .cancelled (sequential.checkType a ctx handlers t) := by
  have hgraph : (Option.toList <$> EventModel.explicit ctx handlers ⟨t, .snapshot⟩).SoundUnless
      fun ms => ms ≠ [] := by
    exact Sound.soundUnless <| (EventModel.explicit_sound ctx handlers _).bind fun _ => sound_pure _
  refine (Rule.stopsOrCompletes_checkInferred _ ctx hgraph).andThen fun graphs => ?_
  refine (Rule.stopsOrCompletes_checkInferred _ ctx (DacModel.infer_soundUnless ctx _)).andThen ?_
  exact fun dacs => stopsOrCompletes_ok _ _

theorem stopsOrCompletes_checkTypes (types : List TypeSymbol) :
    StopsOrCompletes .cancelled (sequential.checkTypes a ctx handlers types) := by
  induction types with
  | nil => exact stopsOrCompletes_ok _ 0
  | cons t rest ih =>
    rw [Runner.checkTypes]
    refine StopsOrCompletes.guarded ?_
    split
    · exact ih
    · refine (stopsOrCompletes_checkType a ctx handlers t).andThen fun models => ?_
      exact ih.andThen fun checked => stopsOrCompletes_ok _ _

theorem analyzeTypes_cancelled_or_eq (s : Snapshot) (t : Token) :
    (a.analyzeTypes s t).1 = .error .cancelled ∨
      (a.analyzeTypes s t).1 = (a.analyzeTypes s {}).1 := by
  simp only [Runner.analyzeTypes, run_quiet]
  rcases hrun : (InstanceCreatedHandlers.collect (a.context s)).run s t with ⟨_ | handlers, t'⟩
  · exact Or.inl rfl
  · have hhandlers : handlers = (InstanceCreatedHandlers.collect (a.context s)).answer s :=
      (InstanceCreatedHandlers.collect_sound _).eq_answer (by rw [hrun])
    rw [← hhandlers]
    simp only
    have htypes := stopsOrCompletes_checkTypes a (a.context s) handlers s.types { token := t' }
    rcases hc : sequential.checkTypes a (a.context s) handlers s.types { token := t' } with
      ⟨e | checked, s'⟩
    · rw [hc] at htypes
      rcases htypes with h | h
      · cases h; exact Or.inl rfl
      · refine Or.inr ?_
        rw [show ({} : Session) = Session.uninterrupted { token := t' } from rfl, h]
    · rw [hc] at htypes
      rcases htypes with h | h
      · cases h
      · refine Or.inr ?_
        rw [show ({} : Session) = Session.uninterrupted { token := t' } from rfl, h]
        rfl

/-- With built-in rules, an analysis that nobody interrupts has a result. -/
theorem analyzeTypes_ok (h : a.rules.BuiltIn) (s : Snapshot) :
    ∃ r, (a.analyzeTypes s {}).1 = .ok r :=
  ⟨_, congrArg Prod.fst (analyzeTypes_uninterrupted h.observes s)⟩

/-- **Cancellation leaves no partial result.** Wherever the token becomes cancelled, the analysis of
    a snapshot by built-in rules ends with the cancellation or with the result that it has when
    nobody cancels. -/
theorem analyzeSnapshot_cancelled_or_complete (h : a.rules.BuiltIn) (s : Snapshot) (t : Token) :
    ∃ r, (a.analyzeSnapshot s {}).1 = .ok r ∧
      ((a.analyzeSnapshot s t).1 = .error .cancelled ∨ (a.analyzeSnapshot s t).1 = .ok r) := by
  obtain ⟨r, hr⟩ := analyzeTypes_ok a h s
  have hresult : ∀ t r, (a.analyzeTypes s t).1 = .ok r →
      (a.analyzeSnapshot s t).1 = .ok (withSource s r) := by
    intro t r hr
    rcases ht : a.analyzeTypes s t with ⟨_ | r', t'⟩ <;> rw [ht] at hr <;> cases hr
    simp only [Runner.analyzeSnapshot, ht]
  refine ⟨withSource s r, hresult {} r hr, ?_⟩
  rcases analyzeTypes_cancelled_or_eq a s t with hstop | heq
  · refine Or.inl ?_
    rcases ht : a.analyzeTypes s t with ⟨_ | r', t'⟩ <;> rw [ht] at hstop <;> cases hstop
    simp only [Runner.analyzeSnapshot, ht]
  · exact Or.inr (hresult t r (heq.trans hr))

/-- A class with a reserved field under all rules; the token becomes cancelled at its tenth poll. -/
theorem analyzeSnapshot_cancelled_or_complete_reservedField :
    let a := Analyzer.build "/" {} (Preset.all.rules {})
    let s : Snapshot :=
      { types := [
          { name := "Order"
            interfaces := [{ name := "IBqlTable" }]
            members := [{ name := "CompanyID", kind := .property }] }]
        distinct := by simp }
    a.rules.BuiltIn ∧ ∃ r, (a.analyzeSnapshot s {}).1 = .ok r ∧
      ((a.analyzeSnapshot s { pollsLeft := some 9 }).1 = .error .cancelled ∨
        (a.analyzeSnapshot s { pollsLeft := some 9 }).1 = .ok r) := by
  intro a s
  have h : a.rules.BuiltIn := (Preset.builtIn_rules {} .all).filter _
  exact ⟨h, a.analyzeSnapshot_cancelled_or_complete h s _⟩

end Analyzer

end SnapshotLint

/-
  Checks that run at the same time.

  The checks of a model share the token and the sink. A running check is a tree of actions on them
  (`Task`), and a batch of checks runs by one action of one check at a time, in any order (`Move`).
  As long as the token is not cancelled, no check learns anything of the others: what is left to do
  with the token, how each check ends, and what is reported under each code are the same after every
  action (`Move.quiet`). So all ways to run a batch to its end agree, or all of them end with the
  token cancelled: `Schedules.agree`.
-/
import Mathlib.Logic.Relation
import SnapshotLint.Proofs.ReportOrder
import SnapshotLint.Proofs.UninterruptedCheck

namespace SnapshotLint

/-! ## Tokens -/

namespace Token

theorem poll_lookup (t : Token) : t.lookup.poll = t.poll.lookup := by
  obtain ⟨cancelled, _ | _ | polls, _ | _ | lookups⟩ := t <;> rfl

theorem poll_cancel (t : Token) : t.cancel.poll = t.poll.cancel := by
  obtain ⟨cancelled, _ | _ | polls, lookups⟩ := t <;> rfl

theorem lookup_cancel (t : Token) : t.cancel.lookup = t.lookup.cancel := by
  obtain ⟨cancelled, polls, _ | _ | lookups⟩ := t <;> rfl

end Token

/-! ## Tasks -/

/-- A running check, action by action. -/
inductive Task where
  | done (failure : Option CheckError)
  /-- Goes on with what was seen of the token. -/
  | poll (next : Bool → Task)
  | lookup (next : Task)
  | report (v : Violation) (next : Task)
  | cancel (next : Task)

namespace Task

/-- What the next action does to the token. -/
def touch : Task → Token → Token
  | poll _, t => t.poll
  | lookup _, t => t.lookup
  | cancel _, t => t.cancel
  | done _, t | report _ _, t => t

/-- What the next action reports. -/
def emit : Task → List Violation
  | report v _ => [v]
  | done _ | poll _ | lookup _ | cancel _ => []

/-- What is left after the next action, which finds the token cancelled or not. -/
def rest (cancelled : Bool) : Task → Task
  | done failure => done failure
  | poll next => next cancelled
  | lookup next | report _ next | cancel next => next

def act : Task → Session → Session
  | done _, s => s
  | poll _, s => s.poll
  | lookup _, s => { s with token := s.token.lookup }
  | report v _, s => s.report v
  | cancel _, s => { s with token := s.token.cancel }

theorem token_act (t : Task) (s : Session) : (t.act s).token = t.touch s.token := by
  cases t <;> rfl

theorem sink_act (t : Task) (s : Session) : (t.act s).sink = s.sink ++ t.emit := by
  cases t <;> simp [act, emit, Session.poll, Session.report]

/-- What is left of a task after its next action. -/
def after (t : Task) (s : Session) : Task := t.rest (t.act s).token.cancelled

def run : Task → Session → Option CheckError × Session
  | done failure, s => (failure, s)
  | poll next, s => (next s.poll.token.cancelled).run s.poll
  | lookup next, s => next.run ((lookup next).act s)
  | report v next, s => next.run ((report v next).act s)
  | cancel next, s => next.run ((cancel next).act s)

end Task

/-! ## The tasks of rules -/

/-- A walk as the beginning of a task. -/
def Walk.task {α : Type} (s : Snapshot) : Walk α → (Option α → Task) → Task
  | done a, next => next (some a)
  | poll walk, next => .poll fun cancelled =>
      if cancelled then next none else (walk ()).task s next
  | lookup name walk, next => .lookup ((walk (s.find? name)).task s next)

/-- An analysis as the beginning of a task. -/
def Analysis.task {α : Type} (s : Snapshot) : Analysis α → (Option α → Task) → Task
  | done a, next => next (some a)
  | poll x, next => .poll fun cancelled => if cancelled then next none else (x ()).task s next
  | lookup name x, next => .lookup ((x (s.find? name)).task s next)
  | ask question x, next => question.task s fun b => (x (b.getD false)).task s next

def Task.ofSteps (ctx : Context) (rule : String) : List Step → Task
  | [] => done none
  | .poll :: steps =>
    .poll fun cancelled => if cancelled then done (some .cancelled) else ofSteps ctx rule steps
  | .report v :: steps => report v (ofSteps ctx rule steps)
  | .judge finding :: steps => finding.task ctx.snapshot fun
    | none => done (some .cancelled)
    | some none => ofSteps ctx rule steps
    | some (some v) => report v (ofSteps ctx rule steps)
  | .cancel :: steps => cancel (ofSteps ctx rule steps)
  | .fail e :: _ => done (some e)
  | .crash message :: _ => done (some (.panicked rule message))

def Rule.task {μ : Type} (r : Rule μ) (ctx : Context) (model : μ) : Task :=
  .ofSteps ctx r.info.name (.poll :: r.steps ctx model)

theorem Walk.run_task {α : Type} (s : Snapshot) (walk : Walk α) (next : Option α → Task)
    (session : Session) :
    (walk.task s next).run session =
      (next (walk.run s session.token).1).run
        { session with token := (walk.run s session.token).2 } := by
  induction walk generalizing session with
  | done a => rfl
  | poll walk ih =>
    simp only [task, Task.run, run, Session.poll]
    by_cases h : session.token.poll.cancelled = true
    · simp only [h, if_true]
    · simp only [h, Bool.false_eq_true, if_false]
      exact ih () session.poll
  | lookup name walk ih => exact ih _ { session with token := session.token.lookup }

theorem Analysis.run_task {α : Type} (s : Snapshot) (x : Analysis α) (next : Option α → Task)
    (session : Session) :
    (x.task s next).run session =
      (next (x.run s session.token).1).run { session with token := (x.run s session.token).2 } := by
  induction x generalizing session with
  | done a => rfl
  | poll x ih =>
    simp only [task, Task.run, run, Session.poll]
    by_cases h : session.token.poll.cancelled = true
    · simp only [h, if_true]
    · simp only [h, Bool.false_eq_true, if_false]
      exact ih () session.poll
  | lookup name x ih => exact ih _ { session with token := session.token.lookup }
  | ask question x ih =>
    rw [task, Walk.run_task, ih]
    rfl

namespace Task

theorem run_ofSteps (ctx : Context) (rule : String) (steps : List Step) (s : Session) :
    (ofSteps ctx rule steps).run s = s.runSteps ctx rule steps := by
  induction steps generalizing s with
  | nil => rfl
  | cons step steps ih =>
    cases step with
    | poll =>
      simp only [ofSteps, run, Session.runSteps]
      split
      · rfl
      · exact ih s.poll
    | report v => exact ih (s.report v)
    | judge finding =>
      rw [ofSteps, Analysis.run_task, Session.runSteps, Session.run]
      rcases finding.run ctx.snapshot s.token with ⟨_ | _ | v, token⟩
      · rfl
      · exact ih _
      · exact ih _
    | cancel => exact ih { s with token := s.token.cancel }
    | fail e => rfl
    | crash message => rfl

end Task

/-- The check of a model is its task, run without others. -/
theorem Rule.run_task {μ : Type} (r : Rule μ) (ctx : Context) (model : μ) (s : Session) :
    (r.task ctx model).run s = r.check ctx model s :=
  Task.run_ofSteps ctx r.info.name _ s

/-! ## What a task comes to if the token is never found cancelled -/

namespace Task

/-- How it ends. -/
def failure : Task → Option CheckError
  | done failure => failure
  | poll next => (next false).failure
  | lookup next | report _ next | cancel next => next.failure

/-- What it reports. -/
def reports : Task → List Violation
  | done _ => []
  | poll next => (next false).reports
  | report v next => v :: next.reports
  | lookup next | cancel next => next.reports

/-- What it does to the token. -/
def drain : Task → Token → Token
  | done _, t => t
  | poll next, t => (next false).drain t.poll
  | lookup next, t => next.drain t.lookup
  | report _ next, t => next.drain t
  | cancel next, t => next.drain t.cancel

end Task

theorem Walk.reports_task {α : Type} (s : Snapshot) (walk : Walk α) (next : Option α → Task) :
    (walk.task s next).reports = (next (some (walk.answer s))).reports := by
  induction walk with
  | done a => rfl
  | poll walk ih => exact ih ()
  | lookup name walk ih => exact ih _

theorem Analysis.reports_task {α : Type} (s : Snapshot) (x : Analysis α) (next : Option α → Task) :
    (x.task s next).reports = (next (some (x.answer s))).reports := by
  induction x with
  | done a => rfl
  | poll x ih => exact ih ()
  | lookup name x ih => exact ih _
  | ask question x ih => exact (question.reports_task s _).trans (ih _)

namespace Task

theorem failure_rest (t : Task) : (t.rest false).failure = t.failure := by
  cases t <;> rfl

theorem reports_rest (t : Task) : t.emit ++ (t.rest false).reports = t.reports := by
  cases t <;> rfl

theorem drain_rest (t : Task) (token : Token) :
    (t.rest false).drain (t.touch token) = t.drain token := by
  cases t <;> rfl

theorem touch_touch (t u : Task) (token : Token) :
    t.touch (u.touch token) = u.touch (t.touch token) := by
  cases t <;> cases u <;>
    simp only [touch, Token.poll_lookup, Token.poll_cancel, Token.lookup_cancel]

/-- It does not matter when another task takes an action. -/
theorem drain_touch (t u : Task) (token : Token) :
    t.drain (u.touch token) = u.touch (t.drain token) := by
  induction t generalizing token with
  | done failure => rfl
  | poll next ih =>
    rw [drain, drain, ← ih]
    exact congrArg _ (touch_touch (poll next) u token)
  | lookup next ih =>
    rw [drain, drain, ← ih]
    exact congrArg _ (touch_touch (lookup next) u token)
  | report v next ih => exact ih token
  | cancel next ih =>
    rw [drain, drain, ← ih]
    exact congrArg _ (touch_touch (cancel next) u token)

theorem cancelled_touch (t : Task) {token : Token} (h : token.cancelled = true) :
    (t.touch token).cancelled = true := by
  cases t with
  | poll => exact Token.cancelled_poll h
  | lookup => exact Token.cancelled_lookup h
  | cancel => rfl
  | done | report => exact h

theorem cancelled_drain (t : Task) {token : Token} (h : token.cancelled = true) :
    (t.drain token).cancelled = true := by
  induction t generalizing token with
  | done failure => exact h
  | poll next ih => exact ih false (Token.cancelled_poll h)
  | lookup next ih => exact ih (Token.cancelled_lookup h)
  | report v next ih => exact ih h
  | cancel next ih => exact ih rfl

/-- What several tasks do to the token. -/
def drainAll (ts : List Task) (token : Token) : Token := ts.foldr drain token

theorem drainAll_split (front back : List Task) (t : Task) (token : Token) :
    drainAll (front ++ t :: back) token = drainAll front (t.drain (drainAll back token)) :=
  List.foldr_append

theorem drainAll_touch (ts : List Task) (u : Task) (token : Token) :
    drainAll ts (u.touch token) = u.touch (drainAll ts token) := by
  induction ts with
  | nil => rfl
  | cons t ts ih => exact (congrArg t.drain ih).trans (drain_touch t u _)

theorem cancelled_drainAll (ts : List Task) {token : Token} (h : token.cancelled = true) :
    (drainAll ts token).cancelled = true := by
  induction ts with
  | nil => exact h
  | cons t ts ih => exact cancelled_drain t ih

theorem drainAll_done (ends : List (Option CheckError)) (token : Token) :
    drainAll (ends.map done) token = token := by
  induction ends with
  | nil => rfl
  | cons e ends ih => exact ih

end Task

/-! ## Batches of tasks -/

/-- One action of one task. -/
inductive Move : List Task × Session → List Task × Session → Prop
  | mk (front : List Task) (t : Task) (back : List Task) (s : Session) :
      Move (front ++ t :: back, s) (front ++ t.after s :: back, t.act s)

/-- Tasks of which no two report under the same code. -/
def Apart (ts : List Task) : Prop :=
  ts.Pairwise fun t u => ∀ v ∈ t.reports, ∀ w ∈ u.reports, v.code ≠ w.code

theorem Apart.of_subset {front back : List Task} {t u : Task} (h : Apart (front ++ t :: back))
    (hu : ∀ v ∈ u.reports, v ∈ t.reports) : Apart (front ++ u :: back) := by
  rw [Apart, List.pairwise_append, List.pairwise_cons] at h ⊢
  obtain ⟨hfront, ⟨ht, hback⟩, hcross⟩ := h
  refine ⟨hfront, ⟨fun x hx v hv => ht x hx v (hu v hv), hback⟩, fun x hx y hy v hv => ?_⟩
  rcases List.mem_cons.1 hy with rfl | hy
  · exact fun w hw => hcross x hx t List.mem_cons_self v hv w (hu w hw)
  · exact hcross x hx y (List.mem_cons_of_mem _ hy) v hv

/-- What is reported in the end, the reports of each task as a whole. -/
def total (c : List Task × Session) : List Violation := c.2.sink ++ c.1.flatMap (·.reports)

/-- Nothing changes of what the tasks come to. -/
structure Preserves (c c' : List Task × Session) : Prop where
  apart : Apart c.1 → Apart c'.1
  failures : c'.1.map (·.failure) = c.1.map (·.failure)
  token : Task.drainAll c'.1 c'.2.token = Task.drainAll c.1 c.2.token
  under : Apart c.1 → ∀ code, Violation.under code (total c') = Violation.under code (total c)

namespace Move

variable {c c' : List Task × Session}

theorem cancelled (h : Move c c') (hc : c.2.token.cancelled = true) :
    c'.2.token.cancelled = true := by
  obtain ⟨front, t, back, s⟩ := h
  rw [Task.token_act]
  exact t.cancelled_touch hc

/-- A cancellation was to come in any case. -/
theorem cancelled_drainAll (h : Move c c') (hc : c'.2.token.cancelled = true) :
    (Task.drainAll c.1 c.2.token).cancelled = true := by
  obtain ⟨front, t, back, s⟩ := h
  have hback : (t.touch (Task.drainAll back s.token)).cancelled = true := by
    rw [← Task.drainAll_touch, ← Task.token_act]
    exact Task.cancelled_drainAll back hc
  rw [Task.drainAll_split, ← Task.drain_rest]
  exact Task.cancelled_drainAll front (Task.cancelled_drain _ hback)

theorem quiet (h : Move c c') (hc : c'.2.token.cancelled = false) : Preserves c c' := by
  obtain ⟨front, t, back, s⟩ := h
  have hrest : t.after s = t.rest false := congrArg (fun b => t.rest b) hc
  have hreports := t.reports_rest
  rw [hrest]
  refine ⟨fun hapart => hapart.of_subset fun v hv => ?_, ?_, ?_, fun hapart code => ?_⟩
  · rw [← hreports]
    exact List.mem_append_right _ hv
  · simp only [List.map_append, List.map_cons, Task.failure_rest]
  · rw [Task.drainAll_split, Task.drainAll_split, Task.token_act, Task.drainAll_touch,
      Task.drain_rest]
  · -- what is reported now comes before what the tasks in front of it are still to report
    have hdiffer : ∀ v ∈ t.emit, ∀ w ∈ front.flatMap (·.reports), v.code ≠ w.code := by
      intro v hv w hw
      obtain ⟨u, hu, hw⟩ := List.mem_flatMap.1 hw
      have hcross := (List.pairwise_append.1 hapart).2.2 u hu t List.mem_cons_self
      exact (hcross w hw v (hreports ▸ List.mem_append_left _ hv)).symm
    have hcomm := Violation.under_append_comm hdiffer code
    simp only [Violation.under_append] at hcomm
    simp only [total, Task.sink_act, List.flatMap_append, List.flatMap_cons, Violation.under_append,
      ← hreports, List.append_assoc]
    rw [← List.append_assoc (Violation.under code t.emit), hcomm, List.append_assoc]

end Move

theorem preserves_of_moves {c c' : List Task × Session} (h : Relation.ReflTransGen Move c c')
    (hc : c'.2.token.cancelled = false) : Preserves c c' := by
  induction h with
  | refl => exact ⟨id, rfl, rfl, fun _ _ => rfl⟩
  | @tail d c' hd hmove ih =>
    have hd' : d.2.token.cancelled = false := by
      rw [Bool.eq_false_iff]
      intro hcancelled
      rw [hmove.cancelled hcancelled] at hc
      cases hc
    have ih := ih hd'
    have hquiet := hmove.quiet hc
    exact ⟨fun hapart => hquiet.apart (ih.apart hapart), hquiet.failures.trans ih.failures,
      hquiet.token.trans ih.token,
      fun hapart code => (hquiet.under (ih.apart hapart) code).trans (ih.under hapart code)⟩

theorem cancelled_of_moves {c c' : List Task × Session} (h : Relation.ReflTransGen Move c c')
    (hc : c'.2.token.cancelled = true) : (Task.drainAll c.1 c.2.token).cancelled = true := by
  induction h using Relation.ReflTransGen.head_induction_on with
  | refl => exact Task.cancelled_drainAll _ hc
  | @head c d hmove hd ih =>
    cases hcancelled : d.2.token.cancelled with
    | true => exact hmove.cancelled_drainAll hcancelled
    | false =>
      rw [← (hmove.quiet hcancelled).token]
      exact ih

/-- A batch of tasks may run to its end with these failures, in the order of the tasks, and leave this
    session. -/
def Schedules (ts : List Task) (s : Session) (outcome : List CheckError × Session) : Prop :=
  ∃ ends : List (Option CheckError),
    Relation.ReflTransGen Move (ts, s) (ends.map .done, outcome.2) ∧
      outcome.1 = ends.flatMap Option.toList

/-- Sessions with the same token and the same reports under each code. -/
def Session.Alike (s s' : Session) : Prop :=
  s.token = s'.token ∧ ∀ code, Violation.under code s.sink = Violation.under code s'.sink

theorem Schedules.cases {ts : List Task} {s : Session} {outcome : List CheckError × Session}
    (h : Schedules ts s outcome) (hapart : Apart ts) :
    (outcome.2.token.cancelled = true ∧ (Task.drainAll ts s.token).cancelled = true) ∨
      (outcome.1 = ts.flatMap (·.failure.toList) ∧
        outcome.2.Alike ⟨Task.drainAll ts s.token, total (ts, s)⟩ ∧
        outcome.2.token.cancelled = false) := by
  obtain ⟨ends, hmoves, hfailures⟩ := h
  cases hcancelled : outcome.2.token.cancelled with
  | true => exact Or.inl ⟨rfl, cancelled_of_moves hmoves hcancelled⟩
  | false =>
    have hpreserves := preserves_of_moves hmoves hcancelled
    have hends : ends = ts.map (·.failure) := by
      have := hpreserves.failures
      rwa [List.map_map, show (Task.failure ∘ Task.done) = id from rfl, List.map_id] at this
    have htoken : outcome.2.token = Task.drainAll ts s.token := by
      have := hpreserves.token
      rwa [Task.drainAll_done] at this
    refine Or.inr ⟨?_, ⟨htoken, fun code => ?_⟩, rfl⟩
    · rw [hfailures, hends, List.flatMap_map]
    · have hnone : (ends.map Task.done).flatMap (·.reports) = [] := by
        rw [List.flatMap_map]
        exact List.flatMap_eq_nil_iff.2 fun _ _ => rfl
      have := hpreserves.under hapart code
      rwa [total, hnone, List.append_nil] at this

/-- **All ways to run a batch agree:** on the failures, on the token and on the reports under each
    code, or else on the token being cancelled. -/
theorem Schedules.agree {ts : List Task} (hapart : Apart ts) {s s' : Session} (hs : s.Alike s')
    {outcome outcome' : List CheckError × Session} (h : Schedules ts s outcome)
    (h' : Schedules ts s' outcome') :
    (outcome.2.token.cancelled = true ∧ outcome'.2.token.cancelled = true) ∨
      (outcome.1 = outcome'.1 ∧ outcome.2.Alike outcome'.2) := by
  have htotal : ∀ code,
      Violation.under code (total (ts, s)) = Violation.under code (total (ts, s')) := by
    intro code
    rw [total, total, Violation.under_append, Violation.under_append, hs.2]
  rcases h.cases hapart with ⟨hc, hdrain⟩ | ⟨hfailures, halike, hc⟩ <;>
    rcases h'.cases hapart with ⟨hc', hdrain'⟩ | ⟨hfailures', halike', hc'⟩
  · exact Or.inl ⟨hc, hc'⟩
  -- whether the token ends up cancelled depends on the tasks and not on their order
  · rw [halike'.1, ← hs.1, hdrain] at hc'
    cases hc'
  · rw [halike.1, hs.1, hdrain'] at hc
    cases hc
  · refine Or.inr ⟨hfailures.trans hfailures'.symm, ?_, fun code => ?_⟩
    · rw [halike.1, halike'.1, hs.1]
    · rw [halike.2, halike'.2, htotal]

/-! ## One task after the other -/

theorem Move.cons (t : Task) {c c' : List Task × Session} (h : Move c c') :
    Move (t :: c.1, c.2) (t :: c'.1, c'.2) := by
  obtain ⟨front, u, back, s⟩ := h
  exact .mk (t :: front) u back s

theorem Task.moves_run (t : Task) (front back : List Task) (s : Session) :
    Relation.ReflTransGen Move (front ++ t :: back, s)
      (front ++ .done (t.run s).1 :: back, (t.run s).2) := by
  induction t generalizing s with
  | done failure => exact .refl
  | poll next ih => exact .head (.mk front (poll next) back s) (ih _ _)
  | lookup next ih => exact .head (.mk front (lookup next) back s) (ih _)
  | report v next ih => exact .head (.mk front (report v next) back s) (ih _)
  | cancel next ih => exact .head (.mk front (cancel next) back s) (ih _)

end SnapshotLint

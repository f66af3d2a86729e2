/-
  Checking models. A session holds the token and what has been reported. A check runs its steps
  until one of them ends it; all rules that apply to a model are run, and only then are their
  failures looked at. How they are run is left to a runner, which may take them at the same time;
  the one in use takes them one after the other.
-/
import SnapshotLint.Rule.Basic

namespace SnapshotLint

/-- The state of a running check. -/
structure Session where
  token : Token := {}
  /-- What has been reported, in order. -/
  sink : List Violation := []
deriving DecidableEq

namespace Session

instance : Inhabited Session := ⟨{}⟩

/-- The session after a poll. -/
def poll (s : Session) : Session := { s with token := s.token.poll }

/-- The session after a report. -/
def report (s : Session) (v : Violation) : Session := { s with sink := s.sink ++ [v] }

/-- An analysis within a session. -/
def run {α : Type} (ctx : Context) (x : Analysis α) (s : Session) : Option α × Session :=
  let (result, token) := x.run ctx.snapshot s.token
  (result, { s with token })

/-- The steps of a check by the named rule: the error that ended it, if one did. -/
def runSteps (ctx : Context) (rule : String) : List Step → Session → Option CheckError × Session
  | [], s => (none, s)
  | .poll :: rest, s =>
    if s.poll.token.cancelled then (some .cancelled, s.poll) else runSteps ctx rule rest s.poll
  | .report v :: rest, s => runSteps ctx rule rest (s.report v)
  | .judge finding :: rest, s =>
    match s.run ctx finding with
    | (none, s) => (some .cancelled, s)
    | (some none, s) => runSteps ctx rule rest s
    | (some (some v), s) => runSteps ctx rule rest (s.report v)
  | .cancel :: rest, s => runSteps ctx rule rest { s with token := s.token.cancel }
  | .fail e :: _, s => (some e, s)
  | .crash message :: _, s => (some (.panicked rule message), s)

/-! ## Ways to put operations together -/

/-- An operation with a poll in front of it. -/
def guarded {ε β : Type} (stop : ε) (op : Session → Except ε β × Session) (s : Session) :
    Except ε β × Session :=
  if s.poll.token.cancelled then (.error stop, s.poll) else op s.poll

/-- One operation after another; the failures of the first are renamed. -/
def andThen {ε ε' β γ : Type} (rename : ε → ε') (op : Session → Except ε β × Session)
    (next : β → Session → Except ε' γ × Session) (s : Session) : Except ε' γ × Session :=
  match op s with
  | (.error e, s) => (.error (rename e), s)
  | (.ok b, s) => next b s

end Session

/-! ## One rule -/

namespace Rule

variable {μ : Type}

/-- Whether the framework's switches let a rule run. -/
def isEnabled (r : Rule μ) (f : Framework) : Bool := !r.info.isvSpecific || f.isvSpecificAnalyzers

/-- The rules that run on a model. -/
def applicable (rules : List (Rule μ)) (ctx : Context) (model : μ) : List (Rule μ) :=
  rules.filter fun r => r.isEnabled ctx.framework && r.applies model

/-- The steps of a rule on a model. -/
def perform (r : Rule μ) (ctx : Context) (model : μ) (s : Session) :
    Option CheckError × Session :=
  s.runSteps ctx r.info.name (r.steps ctx model)

/-- The check of a model by a rule; it is not begun if the token is cancelled. -/
def check (r : Rule μ) (ctx : Context) (model : μ) (s : Session) : Option CheckError × Session :=
  if s.poll.token.cancelled then (some .cancelled, s.poll) else r.perform ctx model s.poll

/-- The checks of a model by several rules: the failures, in the order of the rules. -/
def checkAll (rules : List (Rule μ)) (ctx : Context) (model : μ) (s : Session) :
    List CheckError × Session :=
  match rules with
  | [] => ([], s)
  | r :: rest =>
    let (failure, s) := r.check ctx model s
    let (failures, s) := checkAll rest ctx model s
    (failure.toList ++ failures, s)

end Rule

/-! ## Several rules -/

/-- How the checks of a model by several rules are run: the failures, in the order of the rules. -/
structure Runner where
  run : {μ : Type} → List (Rule μ) → Context → μ → Session → List CheckError × Session

namespace Runner

open Session

/-- One check after the other. -/
def sequential : Runner := ⟨Rule.checkAll⟩

variable (p : Runner) {μ : Type} (rules : List (Rule μ)) (ctx : Context)

/-- A model under a set of rules. A cancellation that a poll finds afterwards counts more than what
    the rules said. -/
def checkModel (model : μ) (s : Session) : Except AnalyzeError Unit × Session :=
  if s.poll.token.cancelled then (.error .cancelled, s.poll)
  else match Rule.applicable rules ctx model with
    | [] => (.ok (), s.poll)
    | rules =>
      let (failures, s) := p.run rules ctx model s.poll
      if s.poll.token.cancelled then (.error .cancelled, s.poll)
      else if failures.isEmpty then (.ok (), s.poll)
      else (.error (.ofCheck (.batch failures)), s.poll)

/-- Models one after the other, until one fails. -/
def checkModels : List μ → Session → Except AnalyzeError Unit × Session
  | [] => fun s => (.ok (), s)
  | model :: rest =>
    guarded .cancelled (andThen id (p.checkModel rules ctx model) fun _ => checkModels rest)

/-- The models that an analysis gives, and how many there are. -/
def checkInferred (models : Analysis (List μ)) (s : Session) : Except AnalyzeError Nat × Session :=
  match s.run ctx models with
  | (none, s) => (.error .cancelled, s)
  | (some models, s) =>
    andThen id (p.checkModels rules ctx models) (fun _ s => (.ok models.length, s)) s

end Runner

namespace Rule

variable {μ : Type} (rules : List (Rule μ)) (ctx : Context)

/-- A model under a set of rules, one check after the other. -/
abbrev checkModel (model : μ) : Session → Except AnalyzeError Unit × Session :=
  Runner.sequential.checkModel rules ctx model

/-- The models that an analysis gives, one check after the other. -/
abbrev checkInferred (models : Analysis (List μ)) : Session → Except AnalyzeError Nat × Session :=
  Runner.sequential.checkInferred rules ctx models

end Rule

end SnapshotLint

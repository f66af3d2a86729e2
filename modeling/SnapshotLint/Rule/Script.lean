/-
  Rules given as a list of actions. They show how reports, failures and cancellation play together
  in a check.
-/
import SnapshotLint.Rule.Basic

namespace SnapshotLint

/-- An action of a scripted rule. -/
inductive Script.Action where
  /-- Report a violation at a place. -/
  | report (location : Location) (message : String)
  /-- Report the members that the model puts first: the instance constructors of a graph, the
      declared properties of a data access class. -/
  | members
  /-- Give up with a message. -/
  | fail (message : String)
  /-- Give up with an error. -/
  | error (cause : CheckError)
  /-- Break off with a message. -/
  | crash (message : String)
  /-- Cancel the token. -/
  | cancel
  /-- Stop here if the token is cancelled. -/
  | poll

/-- To which models a scripted rule applies. -/
inductive Script.Scope where
  | always
  | never
  | extensions
deriving DecidableEq, Inhabited

/-- A scripted rule. -/
structure Script where
  info : RuleInfo
  scope : Script.Scope := .always
  /-- The actions in order; one with a name runs only on models of the type with that name. -/
  actions : List (Option String × Script.Action)

namespace Script

/-- What a script needs to know of a model. -/
structure View where
  /-- Name of the analysed type. -/
  symbol : String
  isExtension : Bool
  members : List MemberHandle

/-- A graph as a script sees it. -/
def View.ofEvents (m : EventModel) : View :=
  ⟨m.graph.symbol.name, m.graph.isExtension, m.graph.instanceConstructors⟩

/-- A data access class as a script sees it. -/
def View.ofDac (d : DacModel) : View :=
  ⟨d.symbol.name, d.isExtension, d.declaredProperties.map (·.item.member)⟩

/-- What is said where a rule broke off without a text. -/
def wordlessCrash : String := "non-string panic payload"

/-- The steps of an action. -/
def Action.steps (info : RuleInfo) (v : View) : Action → List Step
  | report location message => [.report ((info.violation location message).withSymbol v.symbol)]
  | members => v.members.map fun m => .report (info.memberViolation m m.name)
  | fail message => [.fail (.failed info.name message)]
  | error cause => [.fail cause]
  | crash message => [.crash message]
  | cancel => [.cancel]
  | poll => [.poll]

/-- Whether a script applies to a model. -/
def applies (s : Script) (v : View) : Bool :=
  match s.scope with
  | .always => true
  | .never => false
  | .extensions => v.isExtension

/-- The steps of a script on a model. -/
def steps (s : Script) (v : View) : List Step :=
  s.actions.flatMap fun (on, action) =>
    if on.all (· == v.symbol) then action.steps s.info v else []

/-- A script as a rule for the models that it is meant for. -/
def toRules (s : Script) : RuleSet :=
  match s.info.target with
  | .graph =>
    ⟨[{ info := s.info, applies := fun m => s.applies (.ofEvents m),
        steps := fun _ m => s.steps (.ofEvents m) }], []⟩
  | .dac =>
    ⟨[], [{ info := s.info, applies := fun d => s.applies (.ofDac d),
            steps := fun _ d => s.steps (.ofDac d) }]⟩

end Script

end SnapshotLint

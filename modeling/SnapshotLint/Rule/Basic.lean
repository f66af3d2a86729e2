/-
  Rules: what a rule is called, to which models it applies, and what it does with one. A check is a
  list of steps, of which each reports something, or polls, or ends the check.
-/
import SnapshotLint.Check.Error
import SnapshotLint.Dac.Model
import SnapshotLint.Graph.Events
import SnapshotLint.Violation

namespace SnapshotLint

/-- The written name of a family. -/
def Family.name : Family → String
  | graph => "graph"
  | dac => "dac"

/-- What is known of a rule without running it. -/
structure RuleInfo where
  name : String
  code : String
  description : String := ""
  severity : Severity := .error
  target : Family
  /-- Whether the rule runs only for certified solutions. -/
  isvSpecific : Bool := false
deriving DecidableEq, Inhabited

namespace RuleInfo

/-- The written form. -/
def toJson (r : RuleInfo) : Json :=
  .record [("name", .text r.name), ("code", .text r.code), ("description", .text r.description),
    ("severity", r.severity.toJson), ("target", .text r.target.name),
    ("isv_specific", .bool r.isvSpecific)]

/-- A violation of the rule. -/
def violation (r : RuleInfo) (location : Location) (message : String) : Violation :=
  { code := r.code, rule := r.name, severity := r.severity, location, message }

/-- A violation of the rule by a member. -/
def memberViolation (r : RuleInfo) (m : MemberHandle) (message : String) : Violation :=
  (r.violation (m.location.getD {}) message).withSymbol m.owner.name

end RuleInfo

/-- A step of a check. -/
inductive Step where
  /-- Stop here if the token is cancelled. -/
  | poll
  /-- Report a violation. -/
  | report (v : Violation)
  /-- Report what an analysis finds, if it finds something. -/
  | judge (finding : Analysis (Option Violation))
  /-- Cancel the token. -/
  | cancel
  /-- Give up. -/
  | fail (e : CheckError)
  /-- Break off. -/
  | crash (message : String)

/-- The steps for each of several things, with a poll before each. -/
def Step.forEach {α : Type} (xs : List α) (steps : α → List Step) : List Step :=
  xs.flatMap fun x => .poll :: steps x

/-- A rule for models of one kind. -/
structure Rule (μ : Type) where
  info : RuleInfo
  /-- Whether the rule has anything to say about a model. -/
  applies : μ → Bool := fun _ => true
  /-- What the rule does with a model. -/
  steps : Context → μ → List Step

/-- A rule for graphs. -/
abbrev GraphRule := Rule EventModel

/-- A rule for data access classes. -/
abbrev DacRule := Rule DacModel

/-- Rules for graphs and for data access classes. -/
structure RuleSet where
  graph : List GraphRule := []
  dac : List DacRule := []

namespace RuleSet

instance : Inhabited RuleSet := ⟨{}⟩

/-- What is known of the rules, those for graphs first. -/
def describe (s : RuleSet) : List RuleInfo := s.graph.map (·.info) ++ s.dac.map (·.info)

/-- The names of the rules, those for graphs first. -/
def names (s : RuleSet) : List String := s.describe.map (·.name)

/-- How many rules there are. -/
def size (s : RuleSet) : Nat := s.graph.length + s.dac.length

/-- Whether there is no rule. -/
def isEmpty (s : RuleSet) : Bool := s.graph.isEmpty && s.dac.isEmpty

/-- The rules of two sets, one after the other. -/
def append (s t : RuleSet) : RuleSet := ⟨s.graph ++ t.graph, s.dac ++ t.dac⟩

instance : Append RuleSet := ⟨append⟩

/-- The rules whose names pass a test. -/
def filter (keep : String → Bool) (s : RuleSet) : RuleSet :=
  ⟨s.graph.filter fun r => keep r.info.name, s.dac.filter fun r => keep r.info.name⟩

end RuleSet

end SnapshotLint

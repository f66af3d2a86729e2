/-
  The rule against default values that records saved earlier do not have.
-/
import SnapshotLint.Rule.Basic

namespace SnapshotLint.Rule

/-- What is known of the rule. -/
def unsafeDefaultInfo (severity : Severity) : RuleInfo where
  name := "dac-extension-default-attribute"
  code := "EL1030"
  description :=
    "Default-value attributes on unbound or extension fields need PersistingCheck = Nothing"
  severity := severity
  target := .dac

/-- What is said of an issue with a field. -/
def unsafeDefaultMessage (field : String) : DefaultIssue → String
  | .unboundField _ =>
    "Unbound field '" ++ field ++
      "' has a default-value attribute without PersistingCheck = Nothing"
  | .boundExtensionField _ =>
    "Extension field '" ++ field ++ "' sets a default value that existing records do not have"

/-- How grave an issue is. -/
def unsafeDefaultSeverity (severity : Severity) : Role → DefaultIssue → Severity
  | .extension, .unboundField _ => severity
  | _, _ => .warning

/-- The violation moved to the attribute, if its place is known; the field is then labelled. -/
def atAttribute (v : Violation) (a : Attribute) : Violation :=
  match a.location with
  | none => v
  | some location => { v with location }.withLabel ⟨v.location, "field declared here"⟩

/-- The violation by a property. -/
def unsafeDefaultViolation (severity : Severity) (d : DacModel) (bound : BoundType)
    (m : MemberHandle) (issue : DefaultIssue) : Violation :=
  let v := (unsafeDefaultInfo severity).memberViolation m (unsafeDefaultMessage m.name issue)
    |>.withProperty "IsBoundField" (if bound = .dbBound then "true" else "false")
    |>.withSuggestion "Set PersistingCheck = PXPersistingCheck.Nothing on the attribute"
  { atAttribute v issue.application with severity := unsafeDefaultSeverity severity d.role issue }

/-- What the rule finds at a property. -/
def judgeDefault (severity : Severity) (ctx : Context) (d : DacModel)
    (p : Overridable DacProperty) : Analysis (Option Violation) := do
  let bound := d.boundType p.name
  let issue ← DefaultIssue.find? ctx DacProperty.attributes d.role bound p
  return issue.map (unsafeDefaultViolation severity d bound p.item.member)

/-- Asks for the check on saving to be turned off where a default value is unsafe. -/
def unsafeDefault (severity : Severity := .error) : DacRule where
  info := unsafeDefaultInfo severity
  steps ctx d := Step.forEach d.declaredProperties fun p => [.judge (judgeDefault severity ctx d p)]

end SnapshotLint.Rule

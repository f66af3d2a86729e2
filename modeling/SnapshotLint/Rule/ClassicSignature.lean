/-
  The rule that prefers generic event hooks to classic ones.
-/
import SnapshotLint.Rule.Basic

namespace SnapshotLint.Rule

/-- What is known of the rule. -/
def classicSignatureInfo (severity : Severity) : RuleInfo where
  name := "generic-event-signature"
  code := "EL1041"
  description := "Suggests the generic event handler signature over the classic one"
  severity := severity
  target := .graph
  isvSpecific := true

/-- The type of the parameter that a hook would take in the generic shape. -/
def genericParameter (h : EventHook) : String :=
  let target := match h.kind.category, h.dac, h.field with
    | .field, some dac, some field => dac ++ "." ++ Text.decapitalize field
    | _, some dac, _ => dac
    | _, none, _ => "..."
  "Events." ++ h.kind.name ++ "<" ++ target ++ ">"

/-- The violation by a classic hook. -/
def classicSignatureViolation (info : RuleInfo) (h : EventHook) : Violation :=
  (info.memberViolation h.member
    ("Event handler '" ++ h.member.name ++ "' uses the classic signature")).withSuggestion
    ("Declare it as `_(" ++ genericParameter h ++ " e)`")

/-- Points out the classic hooks that a type declares itself. -/
def classicSignature (severity : Severity := .info) : GraphRule where
  info := classicSignatureInfo severity
  applies m := 0 < m.eventCount
  steps _ m := Step.forEach m.allEvents fun o =>
    if o.item.descriptor.shape = .classic && o.item.member.owner.same m.graph.symbol then
      [.report (classicSignatureViolation (classicSignatureInfo severity) o.item)]
    else []

end SnapshotLint.Rule

/-
  The rule against instance constructors of graph extensions.
-/
import SnapshotLint.Rule.Basic

namespace SnapshotLint.Rule

/-- What is known of the rule. -/
def extensionConstructorInfo (severity : Severity) : RuleInfo where
  name := "constructor-in-graph-extension"
  code := "EL1040"
  description := "Graph extensions must initialize in Initialize, not in constructors"
  severity := severity
  target := .graph

/-- The violation by a constructor of an extension. -/
def extensionConstructorViolation (info : RuleInfo) (extension : String) (m : MemberHandle) :
    Violation :=
  (info.memberViolation m
    ("Graph extension '" ++ extension ++ "' declares an instance constructor")).withSuggestion
    "Move the initialization logic into an override of Initialize()"

/-- Forbids instance constructors in graph extensions. -/
def extensionConstructor (severity : Severity := .error) : GraphRule where
  info := extensionConstructorInfo severity
  applies m := m.graph.isExtension
  steps _ m := Step.forEach m.graph.instanceConstructors fun c =>
    [.report
      (extensionConstructorViolation (extensionConstructorInfo severity) m.graph.symbol.name c)]

end SnapshotLint.Rule

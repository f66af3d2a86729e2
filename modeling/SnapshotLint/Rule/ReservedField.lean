/-
  The rule against fields whose names the framework keeps for itself.
-/
import SnapshotLint.Rule.Basic

namespace SnapshotLint.Rule

/-- The names that no data access class may use for a field. -/
def reservedFields : List String := ["CompanyID", "CompanyMask"]

/-- The name that only certified solutions may not use. -/
def deletedRecordField : String := "DeletedDatabaseRecord"

/-- How grave the use of a name is, if it is reserved. Case does not matter. -/
def reservedSeverity (severity : Severity) (extra : List String) (f : Framework) (name : String) :
    Option Severity :=
  if Text.eqIgnoreCase name deletedRecordField then
    some (if f.isvSpecificAnalyzers then severity else .warning)
  else if (reservedFields ++ extra).any fun reserved => Text.eqIgnoreCase reserved name then
    some severity
  else none

/-- What is known of the rule. -/
def reservedFieldInfo (severity : Severity) : RuleInfo where
  name := "dac-forbidden-fields"
  code := "EL1027"
  description := "Forbids DAC fields reserved by the framework"
  severity := severity
  target := .dac

/-- The violation by a member. -/
def reservedFieldViolation (info : RuleInfo) (severity : Severity) (m : MemberHandle) : Violation :=
  { (info.memberViolation m
      ("'" ++ m.name ++ "' is reserved by the framework and must not be declared in a DAC")
    ).withSuggestion "Remove the field declaration" with severity := severity }

/-- The fields that a class declares itself: field classes, then properties. -/
def declaredFields (d : DacModel) : List MemberHandle :=
  d.declaredFieldClasses.map (·.item) ++ d.declaredProperties.map (·.item.member)

/-- Forbids fields with a reserved name; further names may be given. -/
def reservedField (severity : Severity := .error) (extra : List String := []) : DacRule where
  info := reservedFieldInfo severity
  steps ctx d := Step.forEach (declaredFields d) fun m =>
    match reservedSeverity severity extra ctx.framework m.name with
    | some s => [.report (reservedFieldViolation (reservedFieldInfo severity) s m)]
    | none => []

end SnapshotLint.Rule

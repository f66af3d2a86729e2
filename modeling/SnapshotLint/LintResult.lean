/-
  Results of an analysis and the order of their violations: by file, line, column and code. The
  sort is stable, so violations that agree in all four keep their order.
-/
import SnapshotLint.Path
import SnapshotLint.Violation

namespace SnapshotLint

namespace Violation

/-- The order of a report. -/
def cmp (a b : Violation) : Ordering :=
  (Path.cmp a.location.file b.location.file).then <|
    (compare a.location.line b.location.line).then <|
      (compare a.location.column b.location.column).then (compare a.code b.code)

/-- Whether a violation may stand before another in a report. -/
def le (a b : Violation) : Bool := a.cmp b != .gt

/-- Violations in the order of a report. -/
def sort (vs : List Violation) : List Violation := vs.mergeSort le

end Violation

/-- What an analysis found and how much it looked at. -/
structure LintResult where
  violations : List Violation := []
  snapshotsChecked : UInt64 := 0
  typesChecked : UInt64 := 0
deriving DecidableEq

namespace LintResult

/-- The result with its violations in order. -/
def sort (r : LintResult) : LintResult := { r with violations := Violation.sort r.violations }

/-- Two results, one after the other. The numbers are words and wrap around. -/
def append (r s : LintResult) : LintResult where
  violations := r.violations ++ s.violations
  snapshotsChecked := r.snapshotsChecked + s.snapshotsChecked
  typesChecked := r.typesChecked + s.typesChecked

/-- The violations of one severity. -/
def bySeverity (r : LintResult) (s : Severity) : List Violation :=
  r.violations.filter (·.severity = s)

/-- How many violations have a severity. -/
def count (r : LintResult) (s : Severity) : Nat := (r.bySeverity s).length

/-- Whether there is a violation of the gravest kind. -/
def hasErrors (r : LintResult) : Bool := r.violations.any (·.severity = .error)

/-- Whether some violation reaches a severity. -/
def reaches (r : LintResult) (s : Severity) : Bool := r.violations.any (·.severity.reaches s)

/-- The written form. -/
def toJson (r : LintResult) : Json :=
  .record [("violations", .list Violation.toJson r.violations),
    ("snapshots_checked", .nat r.snapshotsChecked.toNat),
    ("types_checked", .nat r.typesChecked.toNat)]

/-- Reads the written form. -/
def decode : Json.Decoder LintResult := fun levels j => do
  let levels ← Json.enter levels
  let r ← Json.Record.ofJson ["violations", "snapshots_checked", "types_checked"] j
  return {
    violations := ← r.required "violations" fun j => do
      let levels ← Json.enter levels
      Json.decodeList (Violation.decode levels) j
    snapshotsChecked := ← r.required "snapshots_checked" Json.decodeUInt64
    typesChecked := ← r.required "types_checked" Json.decodeUInt64 }

end LintResult

end SnapshotLint

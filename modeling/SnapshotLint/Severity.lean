/-
  How grave a violation is.
-/
import SnapshotLint.Json.Record

namespace SnapshotLint

/-- The severities in increasing order. -/
inductive Severity where
  | info
  | warning
  | error
deriving DecidableEq, Inhabited

namespace Severity

/-- The position of a severity, the mildest first. -/
def rank : Severity → Nat
  | info => 0
  | warning => 1
  | error => 2

/-- The name of a severity. -/
def name : Severity → String
  | info => "info"
  | warning => "warning"
  | error => "error"

/-- The severity with a name. -/
def ofName? : String → Option Severity
  | "error" => some error
  | "warning" => some warning
  | "info" => some info
  | _ => none

theorem ofName?_name (s : Severity) : ofName? s.name = some s := by cases s <;> rfl

/-- What is said of a name that no severity has. -/
def unknownMessage (name : String) : String :=
  "unknown severity `" ++ name ++ "`. Valid values: error, warning, info"

/-- Whether a severity reaches a threshold. -/
def reaches (s threshold : Severity) : Bool := threshold.rank ≤ s.rank

/-- The written form. -/
def toJson (s : Severity) : Json := .text s.name

/-- Reads the written form. -/
def decode : Json → Json.Decoded Severity := Json.decodeName ofName?

end Severity

end SnapshotLint

/-
  Violations: what a rule found, where, and what to do about it; their written forms.
-/
import SnapshotLint.Location
import SnapshotLint.Severity

namespace SnapshotLint

/-- A further place that a violation refers to. -/
structure Label where
  location : Location
  message : String
deriving DecidableEq

/-- A finding of a rule. -/
structure Violation where
  /-- Code of the rule. -/
  code : String
  /-- Name of the rule. -/
  rule : String
  severity : Severity
  location : Location
  message : String
  /-- Name of the type that was analysed. -/
  symbol : Option String := none
  /-- How to mend it. -/
  suggestion : Option String := none
  labels : List Label := []
  /-- Further facts, by name. -/
  properties : OrderedMap String := .empty
deriving DecidableEq

namespace Label

/-- The written form. -/
def toJson (l : Label) : Json :=
  .record [("location", l.location.toJson), ("message", .text l.message)]

/-- Reads the written form. -/
def decode : Json.Decoder Label := fun levels j => do
  let levels ← Json.enter levels
  let r ← Json.Record.ofJson ["location", "message"] j
  return {
    location := ← r.required "location" (Location.decode levels)
    message := ← r.required "message" Json.decodeText }

end Label

namespace Violation

/-- The written form of a suggestion. -/
def suggestionToJson (message : String) : Json := .record [("message", .text message)]

/-- Reads the written form of a suggestion. -/
def decodeSuggestion : Json.Decoder String := fun levels j => do
  let _ ← Json.enter levels
  (← Json.Record.ofJson ["message"] j).required "message" Json.decodeText

/-- The field names in order. -/
def fieldNames : List String :=
  ["code", "rule", "severity", "location", "message", "symbol", "suggestion", "labels",
    "properties"]

/-- The written form: the symbol is left out where there is none, the properties where there are
    none. -/
def toJson (v : Violation) : Json :=
  .record <|
    [("code", .text v.code), ("rule", .text v.rule), ("severity", v.severity.toJson),
      ("location", v.location.toJson), ("message", .text v.message)] ++
    (match v.symbol with
      | none => []
      | some s => [("symbol", .text s)]) ++
    [("suggestion", .ofOption suggestionToJson v.suggestion),
      ("labels", .list Label.toJson v.labels)] ++
    (if v.properties.isEmpty then []
      else [("properties", .record (v.properties.entries.map fun e => (e.1, .text e.2)))])

/-- Reads the written form. -/
def decode : Json.Decoder Violation := fun levels j => do
  let levels ← Json.enter levels
  let r ← Json.Record.ofJson fieldNames j
  return {
    code := ← r.required "code" Json.decodeText
    rule := ← r.required "rule" Json.decodeText
    severity := ← r.required "severity" Severity.decode
    location := ← r.required "location" (Location.decode levels)
    message := ← r.required "message" Json.decodeText
    symbol := ← r.optional "symbol" Json.decodeText
    suggestion := ← r.nullable "suggestion" (decodeSuggestion levels)
    labels := ← r.required "labels" fun j => do
      let levels ← Json.enter levels
      Json.decodeList (Label.decode levels) j
    properties := ← r.orElse "properties" (fun j => do
      let _ ← Json.enter levels
      Json.decodeMap Json.decodeText j) .empty }

/-- The place of a violation as `file:line:column`. -/
def place (v : Violation) : String :=
  v.location.file ++ ":" ++ toString v.location.line.toNat ++ ":" ++
    toString v.location.column.toNat

/-- A violation on one line. -/
def display (v : Violation) : String :=
  v.place ++ ": " ++ v.severity.name ++ " [" ++ v.code ++ "] " ++ v.message

/-- A violation over several lines, each ended by a line feed. -/
def format (v : Violation) : String :=
  v.code ++ " " ++ v.rule ++ " at " ++ v.place ++ "\n" ++
    "  " ++ v.severity.name ++ ": " ++ v.message ++ "\n" ++
    (match v.symbol with
      | none => ""
      | some s => "  = in: " ++ s ++ "\n") ++
    (match v.suggestion with
      | none => ""
      | some s => "  = help: " ++ s ++ "\n")

/-- The violation that names the analysed type. -/
def withSymbol (v : Violation) (name : String) : Violation := { v with symbol := some name }

/-- The violation with a suggestion. -/
def withSuggestion (v : Violation) (message : String) : Violation :=
  { v with suggestion := some message }

/-- The violation with one more label. -/
def withLabel (v : Violation) (label : Label) : Violation :=
  { v with labels := v.labels ++ [label] }

/-- The violation with a further fact. -/
def withProperty (v : Violation) (name value : String) : Violation :=
  { v with properties := v.properties.insert name value }

/-- The heading of a violation in a rendered report. -/
def headline (v : Violation) : String := "[" ++ v.code ++ "] " ++ v.message

end Violation

end SnapshotLint

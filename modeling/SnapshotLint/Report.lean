/-
  Reports of a result: for people, as cards, as JSON, or one violation to a line. The colours are
  those of a terminal.
-/
import SnapshotLint.Json.Printer
import SnapshotLint.LintResult
import SnapshotLint.Text.Wrap

namespace SnapshotLint

/-- The forms of a report. -/
inductive ReportFormat where
  /-- Several lines for each violation. -/
  | text
  /-- A card for each violation. -/
  | pretty
  /-- The written form of the result. -/
  | json
  /-- One line for each violation. -/
  | compact
deriving DecidableEq, Inhabited

namespace ReportFormat

/-- The name of a form. -/
def name : ReportFormat → String
  | text => "text"
  | pretty => "pretty"
  | json => "json"
  | compact => "compact"

/-- The form with a name. -/
def ofName? (s : String) : Option ReportFormat :=
  [text, pretty, json, compact].find? (·.name == s)

end ReportFormat

namespace Report

/-- The colours in use. -/
inductive Color where
  | red
  | green
  | yellow
  | blue

/-- What switches a colour on. -/
def Color.code : Color → String
  | red => "\x1b[31m"
  | green => "\x1b[32m"
  | yellow => "\x1b[33m"
  | blue => "\x1b[34m"

/-- A text in a colour. -/
def colored (c : Color) (s : String) : String := c.code ++ s ++ "\x1b[0m"

/-- The colour of a severity. -/
def severityColor : Severity → Color
  | .error => .red
  | .warning => .yellow
  | .info => .blue

/-- Lines, each with its end. -/
def lines (ls : List String) : String := String.join (ls.map (· ++ "\n"))

/-- The last line of a report: how much was found, and in how much. -/
def summary (r : LintResult) : String :=
  let color : Color :=
    if 0 < r.count .error then .red else if 0 < r.count .warning then .yellow else .green
  colored color <|
    "Found " ++ toString (r.count .error) ++ " error(s), " ++ toString (r.count .warning) ++
      " warning(s), " ++ toString (r.count .info) ++ " info(s) in " ++
      toString r.typesChecked.toNat ++ " type(s) from " ++ toString r.snapshotsChecked.toNat ++ " snapshot(s)"

/-- A label on a line. -/
def labelLine (l : Label) : String :=
  "  - " ++ l.location.file ++ ":" ++ toString l.location.line.toNat ++ ": " ++ l.message

/-- A violation for people. -/
def paragraph (v : Violation) : String :=
  lines <|
    [v.code ++ " " ++ v.rule ++ " at " ++ v.place ++ (v.symbol.elim "" (" in " ++ ·)),
      "  " ++ colored (severityColor v.severity) v.severity.name ++ ": " ++ v.message] ++
    v.labels.map labelLine ++
    v.suggestion.toList.map ("  = help: " ++ ·) ++ [""]

/-- The columns of a card between its indent and its right edge. -/
def cardColumns (indent : Nat) : Nat := 78 - indent

/-- A violation as a card. -/
def card (v : Violation) : String :=
  lines <|
    [v.place, Text.wrap (cardColumns 4) "  × " "  │ " v.headline] ++
    v.suggestion.toList.map (Text.wrap (cardColumns 8) "  help: " "        ") ++ [""]

/-- The report of a result. -/
def render (r : LintResult) : ReportFormat → String
  | .text => String.join (r.violations.map paragraph) ++ lines [summary r]
  | .pretty => String.join (r.violations.map card) ++ lines [summary r]
  | .json => lines [r.toJson.pretty]
  | .compact => lines (r.violations.map (·.display))

end Report

end SnapshotLint

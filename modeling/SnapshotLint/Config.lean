/-
  Configurations: which rules run and how, what is analysed, and the framework's names. They are
  written in TOML. A part that is a record may also be given as an array of its fields in order.
-/
import SnapshotLint.Framework
import SnapshotLint.Severity
import SnapshotLint.Toml.Document

namespace SnapshotLint

/-- Why there is no configuration, or no threshold. -/
inductive ConfigError where
  /-- The text is not TOML, or a part of it is of the wrong kind. -/
  | malformed
  /-- The threshold is not the name of a severity. -/
  | unknownSeverity (name : String)
deriving DecidableEq

/-- What is said of an error. -/
def ConfigError.message : ConfigError → String
  | malformed => "Failed to parse config"
  | unknownSeverity name => "Failed to parse config: " ++ Severity.unknownMessage name

/-- What is left out of an analysis unless something else is said. -/
def stockExcludes : List String := ["**/bin/**", "**/obj/**"]

/-- What is analysed. -/
structure AnalyzerConfig where
  root : String := "."
  exclude : List String := stockExcludes
  parallelism : Option Nat := none
deriving DecidableEq, Inhabited

/-- What is said of one rule. -/
structure RuleConfig where
  enabled : Option Bool := none
  severity : Option Severity := none
  /-- What only the rule itself knows the meaning of. -/
  options : OrderedMap Toml.Value := .empty
deriving Inhabited

/-- A configuration. -/
structure Config where
  preset : Option String := none
  failOn : Option String := none
  analyzer : AnalyzerConfig := {}
  rules : OrderedMap RuleConfig := .empty
  framework : Framework := {}
deriving Inhabited

/-! ## Reading -/

namespace Toml.Value

/-- A severity: its name, or a table with nothing under its name. -/
def severity? : Value → Option Severity
  | str s => Severity.ofName? s
  | table [(s, arr [])] => Severity.ofName? s
  | table [(s, table [])] => Severity.ofName? s
  | _ => none

/-- A natural number. -/
def nat? (v : Value) : Option Nat := do
  let n ← v.int?
  if 0 ≤ n then return n.toInt.toNat else none

/-- The fields of a record: the entries of a table, or the items of an array in order. -/
def fields? (names : List String) : Value → Option (List (String × Value))
  | arr items => some (names.zip items)
  | v => v.entries?

end Toml.Value

namespace Config

/-- The value of a field, by a reader; the default where there is none. -/
def field {α : Type} (fields : List (String × Toml.Value)) (name : String)
    (read : Toml.Value → Option α) (default : α) : Except ConfigError α :=
  match fields.lookup name with
  | none => .ok default
  | some v => (read v).elim (.error .malformed) .ok

/-- What is analysed. Nothing is left out where the record does not say so. -/
def readAnalyzer (fields : List (String × Toml.Value)) : Except ConfigError AnalyzerConfig := do
  return {
    root := ← field fields "root" (·.text?) "."
    exclude := ← field fields "exclude" (·.texts?) []
    parallelism := ← field fields "parallelism" (fun v => some <$> v.nat?) none }

/-- What is said of a rule. Whatever is not known is an option. -/
def readRule (fields : List (String × Toml.Value)) : Except ConfigError RuleConfig := do
  return {
    enabled := ← field fields "enabled" (fun v => some <$> v.bool?) none
    severity := ← field fields "severity" (fun v => some <$> v.severity?) none
    options := .ofList (fields.filter fun f => f.1 != "enabled" && f.1 != "severity") }

/-- The framework's names. -/
def readFramework (fields : List (String × Toml.Value)) : Except ConfigError Framework :=
  Framework.ofSource {
    text := fun name default => field fields name (·.text?) default
    texts := fun name default => field fields name (·.texts?) default
    integer := fun name default => field fields name (·.int?) default
    flag := fun name default => field fields name (·.bool?) default }

/-- A part of a configuration that is a record; the stock value where it is missing. -/
def part {α : Type} (fields : List (String × Toml.Value)) (name : String) (names : List String)
    (read : List (String × Toml.Value) → Except ConfigError α) (stock : α) :
    Except ConfigError α := do
  match ← field fields name (fun v => some <$> v.fields? names) none with
  | none => return stock
  | some inner => read inner

/-- What is said of the rules. -/
def readRules (fields : List (String × Toml.Value)) :
    Except ConfigError (OrderedMap RuleConfig) := do
  let rules ← field fields "rules" (·.entries?) []
  let read ← rules.mapM fun (name, v) => do
    let inner ← v.entries?.elim (.error .malformed) .ok
    return (name, ← readRule inner)
  return .ofList read

/-- The configuration of a text. -/
def parse (text : String) : Except ConfigError Config := do
  let fields ← (Toml.parse? text).elim (.error .malformed) .ok
  return {
    preset := ← field fields "preset" (fun v => some <$> v.text?) none
    failOn := ← field fields "fail_on" (fun v => some <$> v.text?) none
    analyzer := ← part fields "analyzer" ["root", "exclude", "parallelism"] readAnalyzer {}
    rules := ← readRules fields
    framework := ← part fields "framework" Framework.fieldNames readFramework {} }

/-! ## Questions -/

/-- Whether a rule may run. -/
def isRuleEnabled (c : Config) (rule : String) : Bool :=
  ((c.rules.find? rule).bind (·.enabled)).getD true

/-- The severity that replaces the one of a rule's violations. -/
def ruleSeverity (c : Config) (rule : String) : Option Severity :=
  (c.rules.find? rule).bind (·.severity)

/-- The severity from which on an analysis counts as failed. -/
def failOnSeverity (c : Config) : Except ConfigError Severity :=
  match c.failOn with
  | none => .ok .error
  | some name => (Severity.ofName? name).elim (.error (.unknownSeverity name)) .ok

end Config

/-- The texts of an option that is an array; there are none otherwise. -/
def RuleConfig.texts (c : RuleConfig) (option : String) : List String :=
  match c.options.find? option with
  | some (.arr items) => items.filterMap (·.text?)
  | _ => []

end SnapshotLint

/-
  The texts that commands write: a first configuration, the list of rules, and help.
-/
import SnapshotLint.Command.Settings
import SnapshotLint.Report
import SnapshotLint.Rule.Preset

namespace SnapshotLint.Command

/-- The configuration to start from. -/
def configTemplate : String :=
  Report.lines [
    "# erp-lint configuration",
    "",
    "# Rule preset: \"recommended\", \"strict\", \"minimal\" or \"all\"",
    "preset = \"recommended\"",
    "",
    "# Lowest severity that makes `erp-lint check` exit with status 1",
    "fail_on = \"error\"",
    "",
    "[analyzer]",
    "# Directory holding symbol snapshot JSON files (default: current directory)",
    "# root = \"./snapshots\"",
    "",
    "# Glob patterns to exclude from analysis",
    "exclude = [",
    "    \"**/bin/**\",",
    "    \"**/obj/**\",",
    "]",
    "",
    "# Rule-checker threads (default: available parallelism)",
    "# parallelism = 4",
    "",
    "# Rule configurations",
    "# Each rule can be enabled/disabled and have its severity overridden",
    "",
    "[rules.dac-forbidden-fields]",
    "enabled = true",
    "# extra_forbidden = [\"Tstamp\"]",
    "",
    "[rules.dac-extension-default-attribute]",
    "enabled = true",
    "# severity = \"warning\"",
    "",
    "# [rules.generic-event-signature]",
    "# enabled = false",
    "",
    "[framework]",
    "# Enables rule-checkers aimed at ISV solution certification",
    "isv_specific_analyzers = false",
    "# Types marked with this attribute are skipped",
    "# suppression_attribute = \"PXSuppressAnalysisAttribute\""]

/-- What is said once a configuration has been made. -/
def initText : String :=
  Report.lines ["Created " ++ configFile, "", "Next steps:",
    "  1. Edit " ++ configFile ++ " to configure rules",
    "  2. Run: erp-lint check <snapshot-dir>"]

/-- A line of the list of rules. -/
def ruleLine (code name model severity description : String) : String :=
  Text.padRight 8 code ++ " " ++ Text.padRight 34 name ++ " " ++ Text.padRight 6 model ++ " " ++
    Text.padRight 8 severity ++ " " ++ description

/-- A rule in the list of rules. -/
def ruleEntry (r : RuleInfo) : String :=
  ruleLine r.code r.name r.target.name r.severity.name
    (r.description ++ if r.isvSpecific then " (ISV)" else "")

/-- The list of rules. -/
def rulesText : String :=
  Report.lines <|
    ["Available rules:", "", ruleLine "Code" "Name" "Model" "Severity" "Description",
      String.ofList (List.replicate 100 '-')] ++
    (Preset.rules {} .all).describe.map ruleEntry ++
    ["", "Presets:",
      "  recommended  - EL1027, EL1030, EL1040 (default)",
      "  strict       - recommended plus EL1041 as a warning",
      "  minimal      - EL1027 only (for gradual adoption)",
      "  all          - every rule with default settings",
      "",
      "ISV-specific rules run only with --isv or",
      "  [framework] isv_specific_analyzers = true",
      "",
      "Use --rules to filter specific rules, e.g.:",
      "  erp-lint check --rules dac-forbidden-fields,constructor-in-graph-extension",
      "  erp-lint check --rules EL1027,EL1030"]

/-- The version of the program. -/
def versionText : String := Report.lines ["erp-lint 0.1.0"]

/-- A short help. -/
def helpText : String :=
  Report.lines [
    "CLI tool for the erp-lint static analyzer",
    "",
    "Usage: erp-lint [OPTIONS] <COMMAND>",
    "",
    "Commands:",
    "  check       Run lint checks over the symbol snapshots under PATH",
    "  list-rules  List available rules",
    "  init        Initialize configuration file",
    "  help        Print this message or the help of the given subcommand(s)",
    "",
    "Options:",
    "  -v, --verbose          Enable verbose output",
    "  -c, --config <CONFIG>  Path to configuration file",
    "  -h, --help             Print help",
    "  -V, --version          Print version"]

end SnapshotLint.Command

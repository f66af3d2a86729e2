/-
  Running a command: what it writes, what it leaves behind, and its exit status. A check ends with
  status one if some violation reaches the configured severity; so does every failure. A command
  line that makes no sense has status two.
-/
import SnapshotLint.Analyzer
import SnapshotLint.Command.Invocation
import SnapshotLint.Command.Template
import SnapshotLint.Text.Blank

namespace SnapshotLint.Command

/-- Why a command failed. -/
inductive Failure where
  /-- The configuration file cannot be used. -/
  | config (path : String) (cause : ConfigError)
  /-- The configured threshold makes no sense. -/
  | threshold (cause : ConfigError)
  /-- There is no such preset. -/
  | preset (name : String)
  /-- The analysis has no result. -/
  | analysis (cause : AnalyzerError)
  /-- There is a configuration file already. -/
  | configExists
  /-- The configuration file cannot be written, as a directory has its name. -/
  | configIsDirectory
deriving DecidableEq

/-- What is said of a failure. -/
def Failure.message : Failure → String
  | config path _ => "Failed to load config: " ++ path
  | threshold _ => "Invalid fail_on"
  | preset name => Preset.unknownMessage name
  | analysis _ => "Analysis failed"
  | configExists =>
    "Configuration file already exists at " ++ configFile ++ ". Use --force to overwrite."
  | configIsDirectory => "Is a directory (os error 21)"

/-- What a failure goes back to. -/
def Failure.cause? : Failure → Option String
  | config _ cause => some cause.message
  | threshold cause => some cause.message
  | analysis cause => some cause.message
  | _ => none

/-- The result of a command. -/
structure Outcome where
  status : Nat := 0
  output : String := ""
  failure : Option Failure := none
  /-- The files afterwards. -/
  files : FileSystem

/-- The names in a list with commas between them. -/
def filterNames (filter : String) : List String :=
  ((Text.segments ',' filter).map Text.trim).filter (!·.isEmpty)

/-- The rules that a filter names; unknown names do not count. -/
def filterRules (c : Config) (filter : String) : RuleSet :=
  ((filterNames filter).filterMap (RuleSet.ofName? c)).foldl (· ++ ·) {}

/-- The rules of a check: those that the filter names, else those of the preset. -/
def selectRules (c : Config) (o : CheckOptions) : Except Failure RuleSet :=
  match o.rules with
  | some filter => .ok (filterRules c filter)
  | none =>
    match o.preset <|> c.preset with
    | none => .ok (Preset.rules c .recommended)
    | some name => (Preset.ofName? name).elim (.error (.preset name)) fun p => .ok (p.rules c)

/-- The configuration of a check. -/
def checkConfig (e : Environment) (given : Option String) (o : CheckOptions) :
    Except Failure Config := do
  let path := configPath? e o.path given
  let c ← (loadConfig e path).mapError (.config (path.getD ""))
  return if o.isv then { c with framework := { c.framework with isvSpecificAnalyzers := true } }
    else c

/-- A check: its result, and whether it counts as failed. -/
def runCheck (e : Environment) (given : Option String) (o : CheckOptions) :
    Except Failure (LintResult × Bool) := do
  let c ← checkConfig e given o
  let threshold ← c.failOnSeverity.mapError .threshold
  let rules ← selectRules c o
  let a := Analyzer.build e.files.workingDirectory c rules o.path o.exclude
  let r ← (a.analyze e.files {}).1.mapError .analysis
  return (r, r.reaches threshold)

/-- Makes a configuration file. -/
def runInit (files : FileSystem) (force : Bool) : Except Failure FileSystem :=
  match files.find? configFile with
  | none => .ok (files.put configFile (.file configTemplate.toUTF8))
  | some t =>
    if !force then .error .configExists
    else if t.isFile then .ok (files.put configFile (.file configTemplate.toUTF8))
    else .error .configIsDirectory

/-- The directory that a path with wildcards starts from. -/
def literalRoot (path : String) : String :=
  let plain := (Text.segments '/' path).takeWhile fun s => !s.toList.any ("*?[".toList.contains ·)
  if plain = [""] then "/" else if plain.isEmpty then "." else String.intercalate "/" plain

/-- The files and directories that a command looks at. -/
def Invocation.sources (e : Environment) (i : Invocation) : List String :=
  match i.command with
  | .listRules => []
  | .init _ => [configFile]
  | .check o =>
    literalRoot o.path :: i.config.toList ++ projectConfigs o.path ++ (userConfig? e).toList

/-- Runs a command. -/
def Invocation.run (e : Environment) (i : Invocation) : Outcome :=
  match i.command with
  | .listRules => { output := rulesText, files := e.files }
  | .init force =>
    match runInit e.files force with
    | .ok files => { output := initText, files }
    | .error failure => { status := 1, failure, files := e.files }
  | .check o =>
    match runCheck e i.config o with
    | .ok (r, failed) =>
      { status := if failed then 1 else 0, output := Report.render r o.format, files := e.files }
    | .error failure => { status := 1, failure, files := e.files }

/-- What a command line leads to. -/
def run (e : Environment) (args : List String) : Outcome :=
  match Invocation.read e.value? args with
  | .ok i => i.run e
  | .error .misuse => { status := 2, files := e.files }
  | .error .version => { output := versionText, files := e.files }
  | .error .help => { output := helpText, files := e.files }

end SnapshotLint.Command

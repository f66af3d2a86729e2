/-
  Analyzers: a set of rules with a configuration, applied to the types of a snapshot or to all
  snapshot files below a directory. The types of a snapshot are gone through for any runner of their
  checks.
-/
import SnapshotLint.Check.Session
import SnapshotLint.Config
import SnapshotLint.Glob.Expansion
import SnapshotLint.LintResult

namespace SnapshotLint

/-- Why an analysis has no result. -/
inductive AnalyzerError where
  /-- Cancellation was requested. -/
  | cancelled
  /-- A rule failed at a type. -/
  | rule (symbol : String) (cause : CheckError)
  /-- A snapshot file cannot be used. -/
  | snapshot (path : String) (cause : SnapshotError)
  /-- The root directory makes no glob pattern. -/
  | glob
deriving DecidableEq

namespace AnalyzerError

/-- What becomes of a failure at a type. -/
def ofAnalyze (symbol : String) : AnalyzeError → AnalyzerError
  | .cancelled => cancelled
  | .failed cause => rule symbol cause

/-- What is said of a failure. -/
def message : AnalyzerError → String
  | cancelled => "Analysis was cancelled"
  | rule symbol cause => "Rule-checker failure in " ++ symbol ++ ": " ++ cause.message
  | snapshot path cause => "Invalid snapshot " ++ path ++ ": " ++ cause.message
  | glob => "Invalid glob pattern"

end AnalyzerError

/-- A set of rules ready to be applied. -/
structure Analyzer where
  /-- The directory whose snapshot files are analysed, as an absolute path. -/
  root : String
  rules : RuleSet
  /-- Patterns of files that are left out. -/
  excludes : List String
  config : Config := {}
  /-- Whether a snapshot file that cannot be used ends the analysis. -/
  failOnInvalid : Bool := false

namespace Analyzer

/-- The patterns of files that are left out: those given, then the configured ones, and the stock
    ones if there are none of either. -/
def allExcludes (given : List String) (c : Config) : List String :=
  if (given ++ c.analyzer.exclude).isEmpty then stockExcludes else given ++ c.analyzer.exclude

/-- The analyzer for a configuration. The configured root counts where none is given, and the rules
    that are turned off are dropped. -/
def build (workingDirectory : String) (c : Config) (rules : RuleSet) (root : Option String := none)
    (excludes : List String := []) (failOnInvalid : Bool := false) : Analyzer where
  root := Path.join workingDirectory (root.getD c.analyzer.root)
  rules := rules.filter c.isRuleEnabled
  excludes := allExcludes excludes c
  config := c
  failOnInvalid := failOnInvalid

/-! ## Types and snapshots -/

/-- What an analyzer needs to know of a snapshot. -/
def context (a : Analyzer) (s : Snapshot) : Context := ⟨s, a.config.framework⟩

/-- A violation with the severity that the configuration gives to its rule. -/
def override (a : Analyzer) (v : Violation) : Violation :=
  match a.config.ruleSeverity v.rule with
  | none => v
  | some severity => { v with severity }

/-- A violation without a file, put into one. -/
def inFile (file : String) (v : Violation) : Violation :=
  if v.location.file.isEmpty then { v with location := { v.location with file } } else v

/-- The result for a snapshot: violations without a file are put into its source. -/
def withSource (s : Snapshot) (r : LintResult) : LintResult :=
  match s.source with
  | none => { r with snapshotsChecked := 1 }
  | some file =>
    LintResult.sort { r with violations := r.violations.map (inFile file), snapshotsChecked := 1 }

end Analyzer

namespace Runner

open Session

variable (p : Runner) (a : Analyzer) (ctx : Context) (handlers : InstanceCreatedHandlers)

/-- A type under all rules: the number of models it gave. -/
def checkType (t : TypeSymbol) : Session → Except AnalyzeError Nat × Session :=
  let handle : TypeHandle := ⟨t, .snapshot⟩
  let graphModels := Option.toList <$> EventModel.explicit ctx handlers handle
  andThen id (p.checkInferred a.rules.graph ctx graphModels) fun graphs =>
    andThen id (p.checkInferred a.rules.dac ctx (DacModel.infer ctx handle)) fun dacs s =>
      (.ok (graphs + dacs), s)

/-- Types one after the other, but for the suppressed ones: how many of them gave a model. -/
def checkTypes : List TypeSymbol → Session → Except AnalyzerError Nat × Session
  | [] => fun s => (.ok 0, s)
  | t :: rest =>
    guarded .cancelled
      (if ctx.framework.isSuppressed t then checkTypes rest
      else
        andThen (.ofAnalyze t.name) (p.checkType a ctx handlers t) fun models =>
          andThen id (checkTypes rest) fun checked s =>
            (.ok (checked + if 0 < models then 1 else 0), s))

/-- All types of a snapshot. -/
def analyzeTypes (s : Snapshot) (token : Token) : Except AnalyzerError LintResult × Token :=
  let ctx := a.context s
  match (InstanceCreatedHandlers.collect ctx).run s token with
  | (none, token) => (.error .cancelled, token)
  | (some handlers, token) =>
    match p.checkTypes a ctx handlers s.types { token } with
    | (.error e, session) => (.error e, session.token)
    | (.ok checked, session) =>
      (.ok (LintResult.sort ⟨session.sink.map a.override, 0, .ofNat checked⟩), session.token)

/-- A snapshot. -/
def analyzeSnapshot (s : Snapshot) (token : Token) : Except AnalyzerError LintResult × Token :=
  match p.analyzeTypes a s token with
  | (.error e, token) => (.error e, token)
  | (.ok r, token) => (.ok (Analyzer.withSource s r), token)

end Runner

namespace Analyzer

/-- All types of a snapshot, with one check after the other. -/
abbrev analyzeTypes (a : Analyzer) (s : Snapshot) (token : Token) :
    Except AnalyzerError LintResult × Token :=
  Runner.sequential.analyzeTypes a s token

/-- A snapshot, with one check after the other. -/
abbrev analyzeSnapshot (a : Analyzer) (s : Snapshot) (token : Token) :
    Except AnalyzerError LintResult × Token :=
  Runner.sequential.analyzeSnapshot a s token

/-! ## Files -/

/-- Whether a pattern leaves out a path: as a glob pattern, or as a part of the path once `**` is
    taken out of it. -/
def matchesExclude (path pattern : String) : Bool :=
  (Glob.Pattern.parse? pattern).any (·.accepts path) ||
    (let part := Text.dropDoubleStars pattern.toList
     !part.isEmpty && Text.contains part path.toList)

/-- Whether a path is left out. -/
def isExcluded (a : Analyzer) (path : String) : Bool := a.excludes.any (matchesExclude path)

/-- The snapshot files, in order. -/
def discover (a : Analyzer) (fs : FileSystem) : Except AnalyzerError (List String) :=
  match Glob.paths? fs (a.root ++ "/**/*.json") with
  | none => .error .glob
  | some paths => .ok (paths.filter (!a.isExcluded ·))

/-- The snapshot in a file. -/
def load (fs : FileSystem) (path : String) : Except SnapshotError Snapshot :=
  match fs.read? path with
  | none => .error (.unreadable path)
  | some bytes => Snapshot.ofFile path bytes

/-- Snapshot files one after the other. -/
def analyzeFiles (a : Analyzer) (fs : FileSystem) : List String → Token →
    Except AnalyzerError LintResult × Token
  | [], token => (.ok {}, token)
  | path :: rest, token =>
    if token.poll.cancelled then (.error .cancelled, token.poll)
    else match load fs path with
      | .error cause =>
        if a.failOnInvalid then (.error (.snapshot path cause), token.poll)
        else analyzeFiles a fs rest token.poll
      | .ok s =>
        match a.analyzeSnapshot s token.poll with
        | (.error e, token) => (.error e, token)
        | (.ok r, token) =>
          match analyzeFiles a fs rest token with
          | (.error e, token) => (.error e, token)
          | (.ok others, token) => (.ok (r.append others), token)

/-- All snapshot files below the root. -/
def analyze (a : Analyzer) (fs : FileSystem) (token : Token) :
    Except AnalyzerError LintResult × Token :=
  match a.discover fs with
  | .error e => (.error e, token)
  | .ok paths =>
    match a.analyzeFiles fs paths token with
    | (.error e, token) => (.error e, token)
    | (.ok r, token) => (.ok r.sort, token)

end Analyzer

end SnapshotLint

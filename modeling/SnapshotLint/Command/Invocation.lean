/-
  What a command line asks for.
-/
import SnapshotLint.Command.Switch
import SnapshotLint.Json.Token
import SnapshotLint.Report

namespace SnapshotLint.Command

/-- How a check is to be done. -/
structure CheckOptions where
  path : String := "."
  format : ReportFormat := .text
  /-- Names or codes of the only rules to run, with commas between them. -/
  rules : Option String := none
  preset : Option String := none
  exclude : List String := []
  isv : Bool := false
  jobs : Option Nat := none
deriving DecidableEq

/-- The commands. -/
inductive Request where
  | check (options : CheckOptions)
  | listRules
  | init (force : Bool)
deriving DecidableEq

/-- A command with the settings that all commands take. -/
structure Invocation where
  config : Option String := none
  command : Request
deriving DecidableEq

/-- Why there is no command to be run. -/
inductive Stop where
  /-- The command line makes no sense. -/
  | misuse
  /-- The version is asked for. -/
  | version
  /-- Help is asked for. -/
  | help
deriving DecidableEq

/-- The switches of every command. -/
def commonSwitches : List Switch :=
  [{ name := "verbose", letter := 'v' }, { name := "config", letter := 'c', takesValue := true },
    { name := "help", letter := 'h' }]

/-- The switches before the command. -/
def leadingSwitches : List Switch := { name := "version", letter := 'V' } :: commonSwitches

/-- The switches of a check. -/
def checkSwitches : List Switch :=
  [{ name := "format", letter := 'f', takesValue := true }, { name := "rules", takesValue := true },
    { name := "preset", takesValue := true },
    { name := "exclude", letter := 'e', takesValue := true }, { name := "isv" },
    { name := "jobs", letter := 'j', takesValue := true }] ++ commonSwitches

/-- The switches of the command that makes a configuration. -/
def initSwitches : List Switch := { name := "force" } :: commonSwitches

/-- A number below `2 ^ 64`; a plus sign may precede it. -/
def count? (s : String) : Option Nat :=
  let digits := match s.toList with
    | '+' :: cs => cs
    | cs => cs
  if digits.isEmpty || !digits.all Char.isDigit then none
  else if Json.digitsValue digits < UInt64.size then some (Json.digitsValue digits) else none

/-- What has been read of a command line. -/
structure Draft where
  config : Option String := none
  options : CheckOptions := {}
  force : Bool := false
  /-- Whether the path has been given. -/
  hasPath : Bool := false
  /-- What has been switched on or set. -/
  seen : List String := []

namespace Draft

/-- The draft with something noted as seen; most things can be said once only. -/
def note (d : Draft) (name : String) : Except Stop Draft :=
  if name ∈ d.seen ∧ name ≠ "exclude" then .error .misuse
  else .ok { d with seen := name :: d.seen }

/-- The draft with something set. -/
def set (d : Draft) (name value : String) : Except Stop Draft := do
  let d ← d.note name
  match name with
  | "config" => if value.isEmpty then throw .misuse else return { d with config := value }
  | "format" =>
    let some format := ReportFormat.ofName? value | throw .misuse
    return { d with options := { d.options with format } }
  | "rules" => return { d with options := { d.options with rules := value } }
  | "preset" => return { d with options := { d.options with preset := value } }
  | "exclude" =>
    return { d with options := { d.options with exclude := d.options.exclude ++ [value] } }
  | "jobs" =>
    let some jobs := count? value | throw .misuse
    return { d with options := { d.options with jobs } }
  | _ => throw .misuse

/-- The draft with something switched on. -/
def switchOn (d : Draft) (name : String) : Except Stop Draft := do
  match name with
  | "help" => throw .help
  | "version" => throw .version
  | _ =>
    let d ← d.note name
    match name with
    | "isv" => return { d with options := { d.options with isv := true } }
    | "force" => return { d with force := true }
    | _ => return d

/-- The draft after an item. Only some commands take a path, and only one. -/
def add (takesPath : Bool) (d : Draft) : Item → Except Stop Draft
  | .invalid => .error .misuse
  | .flag name => d.switchOn name
  | .setting name value => d.set name value
  | .word path =>
    if !takesPath || d.hasPath || path.isEmpty then .error .misuse
    else .ok { d with options := { d.options with path }, hasPath := true }

/-- What a command line says. -/
def read (switches : List Switch) (takesPath : Bool) (args : List String) : Except Stop Draft :=
  (items switches args).foldlM (add takesPath) {}

end Draft

/-- The number of jobs: what the command line says, or else the environment. -/
def resolveJobs (fallback : Option String) (given : Option Nat) : Except Stop (Option Nat) :=
  match given, fallback with
  | some n, _ => .ok (some n)
  | none, none => .ok none
  | none, some value => (count? value).elim (.error .misuse) fun n => .ok (some n)

/-- The command with a name, from the arguments after it. The first result is the configuration
    file that they name. -/
def readCommand (bindings : String → Option String) (name : String) (args : List String) :
    Except Stop (Option String × Request) := do
  match name with
  | "check" =>
    let d ← Draft.read checkSwitches true args
    let jobs ← resolveJobs (bindings "ERP_LINT_JOBS") d.options.jobs
    return (d.config, .check { d.options with jobs })
  | "list-rules" =>
    let d ← Draft.read commonSwitches false args
    return (d.config, .listRules)
  | "init" =>
    let d ← Draft.read initSwitches false args
    return (d.config, .init d.force)
  | "help" =>
    match args with
    | [] | ["check"] | ["list-rules"] | ["init"] | ["help"] => throw .help
    | _ => throw .misuse
  | _ => throw .misuse

/-- What a command line asks for. What is said after the command counts more than what is said
    before it. -/
def Invocation.read (bindings : String → Option String) (args : List String) :
    Except Stop Invocation := do
  let (before, after) := splitAtWord leadingSwitches args
  let d ← Draft.read leadingSwitches false before
  match after with
  | [] => throw .misuse
  | name :: rest =>
    let (config, command) ← readCommand bindings name rest
    return { config := config <|> d.config, command }

end SnapshotLint.Command

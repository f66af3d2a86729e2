/-
  Where the configuration of a check comes from: the file that the command line names, else one in
  the checked directory, else the user's own, else none.
-/
import SnapshotLint.Config
import SnapshotLint.FileTree

namespace SnapshotLint.Command

/-- What a command finds around it. -/
structure Environment where
  files : FileSystem := {}
  bindings : List (String × String) := []

/-- The value of a variable. -/
def Environment.value? (e : Environment) (name : String) : Option String :=
  e.bindings.lookup name

/-- The name of a configuration file in a checked directory. -/
def configFile : String := "erp-lint.toml"

/-- The configuration files of a checked directory, in the order of preference. -/
def projectConfigs (path : String) : List String :=
  [configFile, "." ++ configFile].map (Path.join path)

/-- The directory of the user's own configuration. -/
def userDirectory? (e : Environment) : Option String :=
  e.value? "ERP_LINT_CONFIG_DIR" <|> (e.value? "HOME").map (Path.join · ".erp-lint")

/-- The user's own configuration file. -/
def userConfig? (e : Environment) : Option String :=
  (userDirectory? e).map (Path.join · "config.toml")

/-- The configuration file for a checked directory, if there is one. One that the command line
    names need not exist. -/
def configPath? (e : Environment) (path : String) (given : Option String) : Option String :=
  given <|> (projectConfigs path ++ (userConfig? e).toList).find? e.files.isFile

/-- The configuration in a file; the stock one without a file. -/
def loadConfig (e : Environment) : Option String → Except ConfigError Config
  | none => .ok {}
  | some path =>
    match e.files.readText? path with
    | none => .error .malformed
    | some text => Config.parse text

end SnapshotLint.Command

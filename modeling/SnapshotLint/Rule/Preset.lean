/-
  The built-in rules by name, and sets of them for common needs.
-/
import SnapshotLint.Config
import SnapshotLint.Rule.ClassicSignature
import SnapshotLint.Rule.ExtensionConstructor
import SnapshotLint.Rule.ReservedField
import SnapshotLint.Rule.UnsafeDefault

namespace SnapshotLint

/-- The reserved field rule with the further names of a configuration. -/
def Rule.configuredReservedField (c : Config) : DacRule :=
  reservedField .error
    (((c.rules.find? (reservedFieldInfo .error).name).map (·.texts "extra_forbidden")).getD [])

namespace RuleSet

/-- A set with one rule for graphs. -/
def ofGraph (r : GraphRule) : RuleSet := ⟨[r], []⟩

/-- A set with one rule for data access classes. -/
def ofDac (r : DacRule) : RuleSet := ⟨[], [r]⟩

/-- The built-in rules, each with its own severity. -/
def builtIn (c : Config) : List RuleSet :=
  [ofDac (Rule.configuredReservedField c), ofDac Rule.unsafeDefault,
    ofGraph Rule.extensionConstructor, ofGraph Rule.classicSignature]

/-- The built-in rule with a name or code. -/
def ofName? (c : Config) (name : String) : Option RuleSet :=
  (builtIn c).find? fun s => s.describe.any fun r => r.name == name || r.code == name

end RuleSet

/-- The ready-made sets of rules. -/
inductive Preset where
  /-- What every solution should keep to. -/
  | recommended
  /-- What certified solutions should keep to. -/
  | strict
  /-- The least, for a start. -/
  | minimal
  /-- Every rule. -/
  | all
deriving DecidableEq, Inhabited

namespace Preset

/-- The name of a preset. -/
def name : Preset → String
  | recommended => "recommended"
  | strict => "strict"
  | minimal => "minimal"
  | all => "all"

/-- The preset with a name; case does not matter. -/
def ofName? (s : String) : Option Preset :=
  [recommended, strict, minimal, all].find? fun p => Text.eqIgnoreCase p.name s

/-- What is said of a name that no preset has. -/
def unknownMessage (name : String) : String := "Unknown preset: " ++ name

/-- What every solution should keep to. -/
def common (c : Config) : RuleSet :=
  ⟨[Rule.extensionConstructor], [Rule.configuredReservedField c, Rule.unsafeDefault]⟩

/-- The rules of a preset. -/
def rules (c : Config) : Preset → RuleSet
  | recommended => common c
  | strict => common c ++ .ofGraph (Rule.classicSignature .warning)
  | minimal => .ofDac (Rule.configuredReservedField c)
  | all => common c ++ .ofGraph Rule.classicSignature

end Preset

end SnapshotLint

/-
  Descriptions of an analysis for those who trace it: the framework's names, the state of the
  token, and the rules in use.
-/
import SnapshotLint.Analysis
import SnapshotLint.Text.Quoted

namespace SnapshotLint

/-- A record with its fields in order. -/
def describeRecord (name : String) (fields : List (String × String)) : String :=
  name ++ " \x7b " ++ String.intercalate ", " (fields.map fun f => f.1 ++ ": " ++ f.2) ++ " \x7d"

/-- A truth value. -/
def describeBool (b : Bool) : String := if b then "true" else "false"

/-- The framework's names and switches. -/
def Framework.describe (f : Framework) : String :=
  describeRecord "FrameworkContext" <| fieldNames.zip
    [Text.quoted f.graph, Text.quoted f.graphExtension, Text.quoted f.view, Text.quoted f.action,
      Text.quoted f.cache, Text.quoted f.eventsPrefix, Text.quoted f.initializeMethod,
      Text.quoted f.isActiveMethod, Text.quoted f.dac, Text.quoted f.dacExtension,
      Text.quoted f.mappedDacExtension, Text.quoted f.dacField, Text.quoted f.dbFieldAttribute,
      Text.quotedList f.unboundFieldAttributes, Text.quoted f.defaultAttribute,
      Text.quoted f.unboundDefaultAttribute, Text.quoted f.persistingCheckArgument,
      toString f.persistingCheckNothing.toInt, Text.quoted f.isDbFieldArgument,
      describeBool f.isvSpecificAnalyzers, Text.quoted f.suppressionAttribute]

/-- What an analysis knows, but for the types. -/
def Context.describe (ctx : Context) (token : Token) : String :=
  "AnalysisContext \x7b framework: " ++ ctx.framework.describe ++ ", cancelled: " ++
    describeBool token.cancelled ++ ", .. \x7d"

/-- The rules that are run together. -/
def describeRules (names : List String) (threads : Nat) : String :=
  describeRecord "RuleAggregator" [("rules", Text.quotedList names), ("threads", toString threads)]

end SnapshotLint

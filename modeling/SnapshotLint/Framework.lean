/-
  The names by which types and members of the business framework are known. A configuration may
  replace each of them.
-/
import SnapshotLint.Symbol.Basic

namespace SnapshotLint

/-- The framework's names and switches. -/
structure Framework where
  /-- Root of graphs. -/
  graph : String := "PXGraph"
  /-- Root of graph extensions. -/
  graphExtension : String := "PXGraphExtension"
  /-- Base of data views. -/
  view : String := "PXSelectBase"
  /-- Base of actions. -/
  action : String := "PXAction"
  /-- Type of the first parameter of classic event hooks. -/
  cache : String := "PXCache"
  /-- What the names of generic event types start with. -/
  eventsPrefix : String := "Events."
  /-- Name of the initialization method of an extension. -/
  initializeMethod : String := "Initialize"
  /-- Name of the activation predicate of an extension. -/
  isActiveMethod : String := "IsActive"
  /-- Marker interface of data access classes. -/
  dac : String := "IBqlTable"
  /-- Root of data access class extensions. -/
  dacExtension : String := "PXCacheExtension"
  /-- Root of mapping extensions. -/
  mappedDacExtension : String := "PXMappedCacheExtension"
  /-- Marker interface of field classes. -/
  dacField : String := "IBqlField"
  /-- Base of the attributes of fields that are stored. -/
  dbFieldAttribute : String := "PXDBFieldAttribute"
  /-- Bases of the attributes of fields that are not stored. -/
  unboundFieldAttributes : List String :=
    ["PXStringAttribute", "PXIntAttribute", "PXShortAttribute", "PXLongAttribute",
      "PXBoolAttribute", "PXByteAttribute", "PXDecimalAttribute", "PXDoubleAttribute",
      "PXFloatAttribute", "PXDateAttribute", "PXGuidAttribute"]
  /-- Base of default value attributes. -/
  defaultAttribute : String := "PXDefaultAttribute"
  /-- Base of the default value attributes made for fields that are not stored. -/
  unboundDefaultAttribute : String := "PXUnboundDefaultAttribute"
  /-- Name of the argument that says when a value is checked on saving. -/
  persistingCheckArgument : String := "PersistingCheck"
  /-- Value of that argument for no check. -/
  persistingCheckNothing : Int64 := 2
  /-- Name of the argument that says whether a field is stored. -/
  isDbFieldArgument : String := "IsDBField"
  /-- Whether the rules meant for certified solutions run. -/
  isvSpecificAnalyzers : Bool := false
  /-- Types with this attribute are not analysed. -/
  suppressionAttribute : String := "PXSuppressAnalysisAttribute"
deriving DecidableEq, Inhabited

namespace Framework

/-- Name of the arguments type of a classic hook for an event. -/
def eventArgsType (event : String) : String := "PX" ++ event ++ "EventArgs"

/-- Whether a type has opted out of the analysis. -/
def isSuppressed (f : Framework) (t : TypeSymbol) : Bool :=
  t.attributes.any (·.typeName == f.suppressionAttribute)

/-- The field names in order. -/
def fieldNames : List String :=
  ["graph", "graph_extension", "view", "action", "cache", "events_prefix", "initialize_method",
    "is_active_method", "dac", "dac_extension", "mapped_dac_extension", "dac_field",
    "db_field_attribute", "unbound_field_attributes", "default_attribute",
    "unbound_default_attribute", "persisting_check_argument", "persisting_check_nothing",
    "is_db_field_argument", "isv_specific_analyzers", "suppression_attribute"]

/-- Access to the fields of a record in some format: each reader takes the name of a field and the
    value it has if it is missing. -/
structure Source (ε : Type) where
  text : String → String → Except ε String
  texts : String → List String → Except ε (List String)
  integer : String → Int64 → Except ε Int64
  flag : String → Bool → Except ε Bool

/-- The framework that a record describes; what is missing keeps its stock value. -/
def ofSource {ε : Type} (r : Source ε) : Except ε Framework := do
  let stock : Framework := {}
  return {
    graph := ← r.text "graph" stock.graph
    graphExtension := ← r.text "graph_extension" stock.graphExtension
    view := ← r.text "view" stock.view
    action := ← r.text "action" stock.action
    cache := ← r.text "cache" stock.cache
    eventsPrefix := ← r.text "events_prefix" stock.eventsPrefix
    initializeMethod := ← r.text "initialize_method" stock.initializeMethod
    isActiveMethod := ← r.text "is_active_method" stock.isActiveMethod
    dac := ← r.text "dac" stock.dac
    dacExtension := ← r.text "dac_extension" stock.dacExtension
    mappedDacExtension := ← r.text "mapped_dac_extension" stock.mappedDacExtension
    dacField := ← r.text "dac_field" stock.dacField
    dbFieldAttribute := ← r.text "db_field_attribute" stock.dbFieldAttribute
    unboundFieldAttributes := ← r.texts "unbound_field_attributes" stock.unboundFieldAttributes
    defaultAttribute := ← r.text "default_attribute" stock.defaultAttribute
    unboundDefaultAttribute := ← r.text "unbound_default_attribute" stock.unboundDefaultAttribute
    persistingCheckArgument := ← r.text "persisting_check_argument" stock.persistingCheckArgument
    persistingCheckNothing := ← r.integer "persisting_check_nothing" stock.persistingCheckNothing
    isDbFieldArgument := ← r.text "is_db_field_argument" stock.isDbFieldArgument
    isvSpecificAnalyzers := ← r.flag "isv_specific_analyzers" stock.isvSpecificAnalyzers
    suppressionAttribute := ← r.text "suppression_attribute" stock.suppressionAttribute }

/-- The written form. -/
def toJson (f : Framework) : Json :=
  .record [
    ("graph", .text f.graph), ("graph_extension", .text f.graphExtension),
    ("view", .text f.view), ("action", .text f.action), ("cache", .text f.cache),
    ("events_prefix", .text f.eventsPrefix), ("initialize_method", .text f.initializeMethod),
    ("is_active_method", .text f.isActiveMethod), ("dac", .text f.dac),
    ("dac_extension", .text f.dacExtension),
    ("mapped_dac_extension", .text f.mappedDacExtension), ("dac_field", .text f.dacField),
    ("db_field_attribute", .text f.dbFieldAttribute),
    ("unbound_field_attributes", .list .text f.unboundFieldAttributes),
    ("default_attribute", .text f.defaultAttribute),
    ("unbound_default_attribute", .text f.unboundDefaultAttribute),
    ("persisting_check_argument", .text f.persistingCheckArgument),
    ("persisting_check_nothing", .int f.persistingCheckNothing.toInt),
    ("is_db_field_argument", .text f.isDbFieldArgument),
    ("isv_specific_analyzers", .bool f.isvSpecificAnalyzers),
    ("suppression_attribute", .text f.suppressionAttribute)]

/-- Reads the written form; every field may be missing. -/
def decode : Json.Decoder Framework := fun levels j => do
  let levels ← Json.enter levels
  let r ← Json.Record.ofJson fieldNames j
  ofSource {
    text := fun name default => r.orElse name Json.decodeText default
    texts := fun name default => r.orElse name (fun j => do
      let _ ← Json.enter levels
      Json.decodeList Json.decodeText j) default
    integer := fun name default => r.orElse name Json.decodeInt64 default
    flag := fun name default => r.orElse name Json.decodeBool default }

end Framework

end SnapshotLint

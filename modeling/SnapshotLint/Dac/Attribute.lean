/-
  What the attributes of a field say: whether it is stored in the database, and whether it has a
  default value that is checked on saving.
-/
import SnapshotLint.Overriding

namespace SnapshotLint

/-- Whether a field is stored. -/
inductive BoundType where
  /-- Held in memory only. -/
  | unbound
  /-- Stored in a database column. -/
  | dbBound
  /-- No attribute decides it. -/
  | notDefined
deriving DecidableEq, Inhabited

/-- A default value attribute. -/
structure DefaultAttribute where
  application : Attribute
  /-- Whether it turns off the check on saving. -/
  nothing : Bool
deriving DecidableEq, Inhabited

/-- Why a default value is unsafe where it is declared. -/
inductive DefaultIssue where
  /-- The field is not stored, and the check is on. -/
  | unboundField (application : Attribute)
  /-- An extension redeclares a stored field, the check is on, and the nearest default that it
      overrides did not turn it off. -/
  | boundExtensionField (application : Attribute)
deriving DecidableEq

/-- The attribute in question. -/
def DefaultIssue.application : DefaultIssue → Attribute
  | unboundField a => a
  | boundExtensionField a => a

namespace Attribute

/-- What an argument of the attribute itself says on whether the field is stored. -/
def dbFieldOverride? (f : Framework) (a : Attribute) : Option Bool :=
  match a.named.find? f.isDbFieldArgument with
  | some (.bool b) => some b
  | some (.str "true") => some true
  | some (.str "false") => some false
  | _ => none

/-- Whether the attribute makes a field stored. -/
def isBound (ctx : Context) (a : Attribute) : Analysis Bool :=
  match a.dbFieldOverride? ctx.framework with
  | some b => return b
  | none => ctx.derives a.typeName ctx.framework.dbFieldAttribute

/-- Whether the attribute makes a field not stored. -/
def isUnbound (ctx : Context) (a : Attribute) : Analysis Bool :=
  match a.dbFieldOverride? ctx.framework with
  | some b => return !b
  | none => ctx.framework.unboundFieldAttributes.anyM (ctx.derives a.typeName)

/-- Whether an argument turns off the check on saving: the number of the setting, or its name, which
    may be dotted. -/
def checksNothing (f : Framework) (a : Attribute) : Bool :=
  match a.named.find? f.persistingCheckArgument with
  | some (.int n) => n == f.persistingCheckNothing
  | some (.str s) => Text.simpleName s == "Nothing"
  | _ => false

/-- The attribute as a default value attribute, if it is one. Those made for fields that are not
    stored do not count. -/
def asDefault? (ctx : Context) (a : Attribute) : Analysis (Option DefaultAttribute) := do
  if ← ctx.derives a.typeName ctx.framework.defaultAttribute then
    if ← ctx.derives a.typeName ctx.framework.unboundDefaultAttribute then return none
    else return some ⟨a, a.checksNothing ctx.framework⟩
  else return none

/-- The first default value attribute of a list. -/
def findDefault? (ctx : Context) : List Attribute → Analysis (Option DefaultAttribute)
  | [] => return none
  | a :: as => do
    match ← a.asDefault? ctx with
    | some d => return some d
    | none => findDefault? ctx as

end Attribute

namespace BoundType

/-- What the attributes of one declaration decide; being stored prevails. -/
def declared (ctx : Context) (attributes : List Attribute) : Analysis BoundType := do
  if ← attributes.anyM (Attribute.isBound ctx) then return dbBound
  else if ← attributes.anyM (Attribute.isUnbound ctx) then return unbound
  else return notDefined

/-- The first decision among declarations. -/
def firstDecided (ctx : Context) : List (List Attribute) → Analysis BoundType
  | [] => return notDefined
  | attributes :: rest => do
    let b ← declared ctx attributes
    if b = notDefined then firstDecided ctx rest else return b

/-- What holds of a declaration: an entity's own attributes decide, an extension takes the nearest
    decision. -/
def resolve {α : Type} (ctx : Context) (attributes : α → List Attribute) (role : Role)
    (o : Overridable α) : Analysis BoundType :=
  match role with
  | .primary => declared ctx (attributes o.item)
  | .extension => firstDecided ctx (o.thisAndOverridden.map attributes)
  | .unrelated => return notDefined

end BoundType

namespace DefaultIssue

/-- The first default value attribute among declarations. -/
def nearestDefault? (ctx : Context) : List (List Attribute) → Analysis (Option DefaultAttribute)
  | [] => return none
  | attributes :: rest => do
    match ← Attribute.findDefault? ctx attributes with
    | some d => return some d
    | none => nearestDefault? ctx rest

/-- What is unsafe about the default value of a declaration, if anything is. -/
def find? {α : Type} (ctx : Context) (attributes : α → List Attribute) (role : Role)
    (bound : BoundType) (o : Overridable α) : Analysis (Option DefaultIssue) := do
  match ← Attribute.findDefault? ctx (attributes o.item) with
  | none => return none
  | some own =>
    if own.nothing then return none
    match bound, role with
    | .unbound, _ => return some (unboundField own.application)
    | .dbBound, .extension =>
      match ← nearestDefault? ctx (o.justOverridden.map attributes) with
      | some base =>
        return if base.nothing then none else some (boundExtensionField own.application)
      | none => return some (boundExtensionField own.application)
    | _, _ => return none

end DefaultIssue

end SnapshotLint

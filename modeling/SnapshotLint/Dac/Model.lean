/-
  Models of data access classes and their extensions: the properties with what is known of their
  storage, and the field classes.
-/
import SnapshotLint.Dac.Attribute

namespace SnapshotLint

/-- A property of a data access class. -/
structure DacProperty where
  member : MemberHandle
  /-- What the attributes of this declaration decide. -/
  declaredBound : BoundType
deriving DecidableEq, Inhabited

/-- The attributes of the declaration. -/
def DacProperty.attributes (p : DacProperty) : List Attribute := p.member.member.attributes

/-- A data access class or an extension of one. -/
structure DacModel where
  role : Role
  /-- The analysed type. -/
  symbol : TypeHandle
  /-- The class itself, or the one that is extended. -/
  dac : Option TypeHandle := none
  layers : List Layer := []
  properties : Collection DacProperty := {}
  fieldClasses : Collection MemberHandle := {}
  /-- Whether the extension maps one class to another. -/
  isMapping : Bool := false
  /-- What holds of each property. -/
  boundTypes : List (String × BoundType) := []
deriving DecidableEq

namespace DacModel

/-- Whether the model is of an extension. -/
def isExtension (d : DacModel) : Bool := d.role == .extension

/-- What holds of a property; nothing is decided of an unknown one. -/
def boundType (d : DacModel) (property : String) : BoundType :=
  (d.boundTypes.lookup property).getD .notDefined

/-- The properties whose newest declaration stands in the analysed type. -/
def declaredProperties (d : DacModel) : List (Overridable DacProperty) :=
  d.properties.items.filter fun o => o.item.member.owner.same d.symbol

/-- The field classes whose newest declaration stands in the analysed type. -/
def declaredFieldClasses (d : DacModel) : List (Overridable MemberHandle) :=
  d.fieldClasses.items.filter fun o => o.item.owner.same d.symbol

/-- The properties of a layer. -/
def layerProperties (ctx : Context) (layer : Layer) : Analysis (List (String × DacProperty)) :=
  (layer.type.members.filter fun m =>
    m.member.kind = .property && !m.member.isStatic).mapM fun m => do
    let bound ← BoundType.declared ctx m.member.attributes
    return (m.name, ⟨m, bound⟩)

/-- Whether a type marks a field class. -/
def isFieldMarker (ctx : Context) (t : TypeRef) : Analysis Bool := do
  if ← ctx.derives t.name ctx.framework.dacField then return true
  else ctx.implements t.name ctx.framework.dacField

/-- The field classes of a layer. -/
def layerFieldClasses (ctx : Context) (layer : Layer) : Analysis (List (String × MemberHandle)) :=
  layer.type.members.foldlM (fun selected m => do
    match m.member.kind, m.member.type with
    | .nestedType, some t =>
      if ← isFieldMarker ctx t then return selected ++ [(m.name, m)] else return selected
    | _, _ => return selected) []

/-- What holds of each property. -/
def resolveAll (ctx : Context) (role : Role) (properties : Collection DacProperty) :
    Analysis (List (String × BoundType)) :=
  properties.items.mapM fun o => do
    Analysis.pollToken
    let bound ← BoundType.resolve ctx DacProperty.attributes role o
    return (o.name, bound)

/-- The model of a type; it is empty unless the type is a data access class or an extension of
    one. -/
def ofType (ctx : Context) (t : TypeHandle) : Analysis DacModel := do
  let h ← Hierarchy.linearize ctx .dac t
  let d : DacModel := {
    role := h.role
    symbol := t
    dac := h.target
    layers := h.layers
    isMapping := h.root.any (·.name == ctx.framework.mappedDacExtension) }
  if h.role = .unrelated then return d
  let properties ← Collection.build h.layers (layerProperties ctx)
  let fieldClasses ← Collection.build h.layers (layerFieldClasses ctx)
  let boundTypes ← resolveAll ctx h.role properties
  return { d with properties, fieldClasses, boundTypes }

/-- The model of a type, if it is a data access class or an extension of one. -/
def infer (ctx : Context) (t : TypeHandle) : Analysis (List DacModel) := do
  let d ← ofType ctx t
  return if d.role = .unrelated then [] else [d]

end DacModel

end SnapshotLint

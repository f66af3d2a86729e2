/-
  Event hooks: methods that the framework calls when an event is raised. A hook is written in one
  of two shapes. The generic shape takes one parameter whose type names the event and, by its type
  arguments, the record and the field. The classic shape takes the cache and the event's arguments,
  and its name holds the record, the field and a last part, with underscores between them.
-/
import SnapshotLint.Event.Kind
import SnapshotLint.Hierarchy
import SnapshotLint.Text.LetterCase

namespace SnapshotLint

/-- The shapes of a hook's signature. -/
inductive SignatureShape where
  | classic
  | generic
deriving DecidableEq, Inhabited

/-- What a hook is for and how it is written. -/
structure HookDescriptor where
  kind : EventKind
  shape : SignatureShape
deriving DecidableEq, Inhabited

/-- The category of the event. -/
def HookDescriptor.category (d : HookDescriptor) : EventCategory := d.kind.category

/-- A hook with the record and the field that it is for, as far as they are known. -/
structure EventHook where
  member : MemberHandle
  descriptor : HookDescriptor
  dac : Option String
  field : Option String
deriving DecidableEq, Inhabited

namespace EventHook

/-- What the name of a classic hook for an attached cache ends with. -/
def cacheAttachedSuffix : String := "_CacheAttached"

/-- A text without the given beginning, if it begins so. -/
def dropStart? (start s : String) : Option String :=
  if start.toList.isPrefixOf s.toList then some (String.ofList (s.toList.drop start.length))
  else none

/-- The event of a generic hook. -/
def genericKind? (f : Framework) (m : Member) : Option EventKind :=
  match m.parameters with
  | [p] =>
    if p.type.args.isEmpty then none
    else (dropStart? f.eventsPrefix p.type.name).bind EventKind.ofName?
  | _ => none

/-- The event that the parameters of a classic hook speak of. -/
def classicKind? (f : Framework) (m : Member) : Option EventKind :=
  match m.parameters with
  | [sender] =>
    if sender.type.name == f.cache &&
        cacheAttachedSuffix.toList.isSuffixOf m.name.toList then some .cacheAttached
    else none
  | [sender, args] =>
    if sender.type.name == f.cache then
      (EventKind.all.filter (· ≠ .cacheAttached)).find? fun k =>
        args.type.name == Framework.eventArgsType k.name
    else none
  | _ => none

/-- Whether a name is that of a classic hook: as many underscores as the category asks for, and
    none at either end. -/
def hasValidName (category : EventCategory) (name : String) : Bool :=
  name.toList.head? != some '_' && name.toList.getLast? != some '_' &&
    name.toList.count '_' == category.underscores

/-- What a member is as a hook, if it is one. -/
def classify (f : Framework) (m : Member) : Option HookDescriptor :=
  if m.kind ≠ .method ∨ m.isStatic ∨ 2 < m.parameters.length then none
  else match genericKind? f m with
    | some kind => some ⟨kind, .generic⟩
    | none =>
      match classicKind? f m with
      | some kind => if hasValidName kind.category m.name then some ⟨kind, .classic⟩ else none
      | none => none

/-- The record and the field that the type arguments of a generic hook name. -/
def genericTargets (category : EventCategory) (args : List TypeRef) :
    Option String × Option String :=
  match category, args with
  | .row, dac :: _ => (some dac.name, none)
  | .field, [dac, field] => (some dac.name, some field.simpleName)
  | .field, [field] => (field.containingName, some field.simpleName)
  | _, _ => (none, none)

/-- The record and the field that the name of a classic hook holds. -/
def classicTargets (category : EventCategory) (name : String) : Option String × Option String :=
  let parts := Text.segments '_' name
  match category with
  | .row => (parts[0]?, none)
  | .field => (parts[0]?, parts[1]?)

/-- The type arguments of a member's first parameter. -/
def firstArgs (m : Member) : List TypeRef :=
  match m.parameters with
  | p :: _ => p.type.args
  | [] => []

/-- A member as a hook, if it is one. -/
def ofMember? (f : Framework) (m : MemberHandle) : Option EventHook :=
  (classify f m.member).map fun d =>
    let targets := match d.shape with
      | .generic => genericTargets d.category (firstArgs m.member)
      | .classic => classicTargets d.category m.name
    ⟨m, d, targets.1, targets.2⟩

/-- The event of a hook. -/
def kind (h : EventHook) : EventKind := h.descriptor.kind

/-- The name under which a hook is overridden: its own for a classic hook, and for a generic one
    the name that a classic hook for the same record and field would have. -/
def key (h : EventHook) : String :=
  match h.descriptor.shape, h.dac, h.field with
  | .classic, _, _ => h.member.name
  | .generic, some dac, some field => dac ++ "_" ++ Text.capitalize field ++ "_" ++ h.kind.name
  | .generic, some dac, none => dac ++ "_" ++ h.kind.name
  | .generic, none, _ => h.member.name

end EventHook

end SnapshotLint

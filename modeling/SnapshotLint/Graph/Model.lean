/-
  Models of graphs and graph extensions: how they are initialized, their views and actions, and the
  methods named after them.
-/
import SnapshotLint.Overriding

namespace SnapshotLint

/-- The ways in which a graph is initialized. -/
inductive InitializerKind where
  /-- An instance constructor of a graph. -/
  | instanceConstructor
  /-- The initialization method of an extension. -/
  | initializeMethod
  /-- A handler registered for new instances of a graph. -/
  | instanceCreatedDelegate
deriving DecidableEq, Inhabited

/-- A point at which a graph is initialized. -/
structure Initializer where
  kind : InitializerKind
  name : String
  /-- Name of the declaring type. -/
  declaredIn : String
  location : Option Location
deriving DecidableEq, Inhabited

namespace Initializer

/-- The initializer that a member is. -/
def ofMember (kind : InitializerKind) (m : MemberHandle) : Initializer :=
  ⟨kind, m.name, m.owner.name, m.location⟩

/-- The initializer that a registration in a type gives. -/
def ofDelegate (t : TypeSymbol) (d : InitDelegate) : Initializer :=
  ⟨.instanceCreatedDelegate, d.delegate, t.name, d.location <|> t.location⟩

end Initializer

/-- All registrations of a snapshot, each with the graph it is for, in the order of the types. -/
structure InstanceCreatedHandlers where
  registrations : List (String × Initializer) := []
deriving DecidableEq, Inhabited

namespace InstanceCreatedHandlers

/-- The registrations that a type makes. -/
def ofType (t : TypeSymbol) : List (String × Initializer) :=
  t.initDelegates.map fun d => (d.graph, .ofDelegate t d)

/-- The registrations of all types. -/
def collect (ctx : Context) : Analysis InstanceCreatedHandlers := do
  let registrations ← ctx.snapshot.types.foldlM (fun rs t => do
    Analysis.pollToken
    return rs ++ ofType t) []
  return ⟨registrations⟩

/-- The handlers registered for a graph. -/
def forGraph (h : InstanceCreatedHandlers) (graph : String) : List Initializer :=
  (h.registrations.filter (·.1 == graph)).map (·.2)

/-- Whether there is no registration. -/
def isEmpty (h : InstanceCreatedHandlers) : Bool := h.registrations.isEmpty

end InstanceCreatedHandlers

/-- A graph or graph extension. -/
structure GraphModel where
  role : Role
  /-- The analysed type. -/
  symbol : TypeHandle
  /-- The graph itself, or the one that is extended. -/
  graph : Option TypeHandle := none
  layers : List Layer := []
  staticConstructors : List MemberHandle := []
  instanceConstructors : List MemberHandle := []
  initializers : List Initializer := []
  views : Collection MemberHandle := {}
  /-- The methods named after a view. -/
  viewDelegates : Collection MemberHandle := {}
  actions : Collection MemberHandle := {}
  /-- The methods named after an action. -/
  actionHandlers : Collection MemberHandle := {}
  /-- The activation predicate of an extension. -/
  isActive : Option MemberHandle := none
deriving DecidableEq

namespace GraphModel

/-- Whether the model is of an extension. -/
def isExtension (g : GraphModel) : Bool := g.role == .extension

/-- The initializers of one kind. -/
def initializersOf (g : GraphModel) (kind : InitializerKind) : List Initializer :=
  g.initializers.filter (·.kind = kind)

/-- The model with one more member of the analysed type taken into account. -/
def addMember (f : Framework) (g : GraphModel) (m : MemberHandle) : GraphModel :=
  match m.member.kind with
  | .staticConstructor => { g with staticConstructors := g.staticConstructors ++ [m] }
  | .constructor =>
    if m.member.isStatic then g
    else
      { g with
        initializers :=
          if g.role = .primary then g.initializers ++ [.ofMember .instanceConstructor m]
          else g.initializers
        instanceConstructors := g.instanceConstructors ++ [m] }
  | .method =>
    if g.role ≠ .extension ∨ !m.member.parameters.isEmpty then g
    else if m.name == f.initializeMethod && !m.member.isStatic then
      { g with initializers := g.initializers ++ [.ofMember .initializeMethod m] }
    else if m.name == f.isActiveMethod && m.member.isStatic then { g with isActive := some m }
    else g
  | _ => g

/-- A member leaves alone what the model is of. -/
theorem addMember_frame (f : Framework) (g : GraphModel) (m : MemberHandle) :
    (g.addMember f m).role = g.role ∧ (g.addMember f m).symbol = g.symbol ∧
      (g.addMember f m).layers = g.layers := by
  unfold addMember
  repeat' split
  all_goals exact ⟨rfl, rfl, rfl⟩

/-- The fields and properties of a layer whose type derives from `base`. -/
def typedMembers (ctx : Context) (base : String) (layer : Layer) :
    Analysis (List (String × MemberHandle)) :=
  layer.type.members.foldlM (fun selected m => do
    match m.member.kind, m.member.type with
    | .field, some t | .property, some t =>
      if ← ctx.derives t.name base then return selected ++ [(m.name, m)] else return selected
    | _, _ => return selected) []

/-- The methods of a layer that are called like one of `names`, up to case. -/
def methodsNamedAfter (names : List String) (layer : Layer) : List (String × MemberHandle) :=
  (layer.type.members.filter fun m =>
    m.member.kind = .method && !m.member.isStatic &&
      names.any fun name => Text.eqIgnoreCase name m.name).map fun m => (m.name, m)

/-- The model of a type; it is empty unless the type is a graph or a graph extension. -/
def ofType (ctx : Context) (t : TypeHandle) : Analysis GraphModel := do
  let h ← Hierarchy.linearize ctx .graph t
  let g : GraphModel := { role := h.role, symbol := t, graph := h.target, layers := h.layers }
  if h.role = .unrelated then return g
  let g ← t.members.foldlM (fun g m => do
    Analysis.pollToken
    return g.addMember ctx.framework m) g
  let views ← Collection.build h.layers (typedMembers ctx ctx.framework.view)
  let actions ← Collection.build h.layers (typedMembers ctx ctx.framework.action)
  let viewDelegates ← Collection.build h.layers fun l => return methodsNamedAfter views.names l
  let actionHandlers ← Collection.build h.layers fun l => return methodsNamedAfter actions.names l
  return { g with views, actions, viewDelegates, actionHandlers }

/-- The model with one more initializer. -/
def addInitializer (g : GraphModel) (i : Initializer) : GraphModel :=
  { g with initializers := g.initializers ++ [i] }

/-- Whether the model is of the graph with a name. -/
def isGraph (g : GraphModel) (name : String) : Bool :=
  g.role == .primary && g.symbol.name == name

/-- The models with a change made to the first one that is of the graph with a name. -/
def updateFirst (name : String) (change : GraphModel → GraphModel) :
    List GraphModel → List GraphModel
  | [] => []
  | g :: gs => if g.isGraph name then change g :: gs else g :: updateFirst name change gs

/-- The models after one registration: the handler goes to the model of its graph, which is made if
    there is none yet and the graph is known and not suppressed. -/
def register (ctx : Context) (t : TypeHandle) (models : List GraphModel) (d : InitDelegate) :
    Analysis (List GraphModel) := do
  Analysis.pollToken
  let initializer := Initializer.ofDelegate t.symbol d
  if models.any (·.isGraph d.graph) then
    return updateFirst d.graph (·.addInitializer initializer) models
  match ← Analysis.find? d.graph with
  | none => return models
  | some target =>
    if ctx.framework.isSuppressed target then return models
    let g ← ofType ctx ⟨target, .snapshot⟩
    if g.role = .primary then return models ++ [g.addInitializer initializer]
    else return models

/-- The model of a type, and those of the graphs that it registers handlers for. -/
def infer (ctx : Context) (t : TypeHandle) : Analysis (List GraphModel) := do
  let g ← ofType ctx t
  let models := if g.role = .unrelated then [] else [g]
  t.symbol.initDelegates.foldlM (register ctx t) models

/-- The model of a type with all handlers registered for it. -/
def withHandlers (ctx : Context) (handlers : InstanceCreatedHandlers) (t : TypeHandle) :
    Analysis GraphModel := do
  let g ← ofType ctx t
  if g.role = .primary then
    return { g with initializers := g.initializers ++ handlers.forGraph t.name }
  else return g

end GraphModel

end SnapshotLint

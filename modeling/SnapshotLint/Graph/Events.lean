/-
  The event hooks of a graph: for each event, the hooks of all layers, chained by their keys.
-/
import SnapshotLint.Event.Hook
import SnapshotLint.Graph.Model

namespace SnapshotLint

/-- A graph model with its event hooks. -/
structure EventModel where
  graph : GraphModel
  /-- The hooks of each event that has any, in the order of the catalog. -/
  events : List (EventKind × Collection EventHook) := []
deriving DecidableEq

namespace EventModel

/-- The hooks of a layer, one poll for each member. -/
def layerHooks (f : Framework) (layer : Layer) : Analysis (List (Nat × EventHook)) :=
  layer.type.members.foldlM (fun hooks m => do
    Analysis.pollToken
    match EventHook.ofMember? f m with
    | some hook => return hooks ++ [(layer.index, hook)]
    | none => return hooks) []

/-- The hooks of all layers, each with the position of its layer. -/
def allHooks (f : Framework) (layers : List Layer) : Analysis (List (Nat × EventHook)) :=
  layers.foldlM (fun hooks layer => do
    Analysis.pollToken
    return hooks ++ (← layerHooks f layer)) []

/-- The hooks of one event, chained by their keys. -/
def chains (hooks : List (Nat × EventHook)) (kind : EventKind) : Collection EventHook :=
  .ofList ((hooks.filter (·.2.kind = kind)).map fun h => (h.2.key, h.1, h.2))

/-- The hooks of every event that has any. -/
def group (hooks : List (Nat × EventHook)) : List (EventKind × Collection EventHook) :=
  (EventKind.all.map fun kind => (kind, chains hooks kind)).filter (!·.2.isEmpty)

/-- The event model of a graph model. -/
def ofGraph (ctx : Context) (graph : GraphModel) : Analysis EventModel := do
  if graph.role = .unrelated then return ⟨graph, []⟩
  let hooks ← allHooks ctx.framework graph.layers
  return ⟨graph, group hooks⟩

/-- The event models of all graph models that a type gives rise to. -/
def infer (ctx : Context) (t : TypeHandle) : Analysis (List EventModel) := do
  (← GraphModel.infer ctx t).mapM (ofGraph ctx)

/-- The event model of a type with all handlers registered for it, if the type is a graph or a graph
    extension. -/
def explicit (ctx : Context) (handlers : InstanceCreatedHandlers) (t : TypeHandle) :
    Analysis (Option EventModel) := do
  let graph ← GraphModel.withHandlers ctx handlers t
  if graph.role = .unrelated then return none
  return some (← ofGraph ctx graph)

/-- The newest declaration of every hook, event by event. -/
def allEvents (m : EventModel) : List (Overridable EventHook) := m.events.flatMap (·.2.items)

/-- How many different hooks there are. -/
def eventCount (m : EventModel) : Nat := m.events.foldl (fun n e => n + e.2.size) 0

end EventModel

end SnapshotLint

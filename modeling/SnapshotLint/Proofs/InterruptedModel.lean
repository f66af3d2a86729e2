/-
  Models built under a token that may be cancelled on the way. Linearization asks no questions, so
  the role and the layers of a type are always right. What is then collected from the layers may be
  wrong, as long as no poll follows.

  * `linearize_sound`: a hierarchy is never wrong.
  * `Collection.build_sound`: neither is a collection, if a selection from a layer that may be wrong
    selects something.
  * `GraphModel.ofType_sound`: the questions about views and actions are followed by polls, since a
    graph has layers. So the models of graphs are never wrong, nor is anything built from them:
    `graphModels_allOrNothing`.
  * `DacModel.infer_soundUnless`: if the models of a data access class are wrong, there are some.
-/
import SnapshotLint.Graph.Events
import SnapshotLint.Dac.Model
import SnapshotLint.Proofs.LayerOrder

namespace SnapshotLint

open Analysis

/-! ## Hierarchies -/

theorem BaseChain.walk_sound (roots : List String) (fuel : Nat) (visited : List String)
    (current : TypeHandle) : (walk roots fuel visited current).Sound := by
  induction fuel generalizing visited current with
  | zero => exact sound_pure _
  | succ fuel ih =>
    unfold walk
    refine sound_pollToken.bind fun _ => ?_
    split
    · exact sound_pure _
    · split
      · exact sound_pure _
      · refine (sound_find? _).bind fun next => ?_
        split
        · exact sound_pure _
        · split
          · exact sound_pure _
          · exact (ih _ _).bind fun _ => sound_pure _

theorem BaseChain.walk_yields (roots : List String) (fuel : Nat) (visited : List String)
    (current : TypeHandle) : (walk roots fuel visited current).Yields fun c => c.types ≠ [] := by
  cases fuel with
  | zero => exact yields_pure (List.cons_ne_nil _ _)
  | succ fuel =>
    unfold walk
    refine yields_bind fun _ => ?_
    split
    · exact yields_pure (List.cons_ne_nil _ _)
    · split
      · exact yields_pure (List.cons_ne_nil _ _)
      · refine yields_bind fun next => ?_
        split
        · exact yields_pure (List.cons_ne_nil _ _)
        · split
          · exact yields_pure (List.cons_ne_nil _ _)
          · exact yields_bind fun _ => yields_pure (List.cons_ne_nil _ _)

theorem addLayers_ne_nil {ts : List TypeHandle} (ls : List Layer) (h : ts ≠ []) :
    addLayers ls ts ≠ [] := by
  obtain ⟨t, rest, rfl⟩ := List.exists_cons_of_ne_nil h
  have hname : t.name ∈ Layer.names (addLayers ls (t :: rest)) :=
    mem_names_addLayers.2 (Or.inr (by simp))
  intro hnil
  rw [hnil] at hname
  cases hname

namespace Hierarchy

variable {ctx : Context} {roots : List String}

theorem addLower_sound (layers : List Layer) (lower : List TypeRef) :
    (addLower ctx roots layers lower).Sound := by
  refine sound_foldlM fun layers arg => sound_pollToken.bind fun _ => ?_
  refine (sound_find? _).bind fun t => ?_
  split
  · exact sound_pure _
  · exact (BaseChain.walk_sound _ _ _ _).bind fun _ => sound_pure _

theorem ofExtension_sound (chain : BaseChain) : (ofExtension ctx roots chain).Sound := by
  refine Sound.bind ?_ fun target => Sound.bind ?_ fun layers =>
    (addLower_sound _ _).bind fun _ => sound_pure _
  · unfold findTarget
    split
    · exact sound_pure _
    · exact sound_find? _
  · cases target with
    | none => exact sound_pure _
    | some t => exact (BaseChain.walk_sound _ _ _ _).bind fun _ => sound_pure _

theorem linearize_sound (ctx : Context) (family : Family) (t : TypeHandle) :
    (linearize ctx family t).Sound := by
  refine (BaseChain.walk_sound _ _ _ _).bind fun chain => ?_
  split
  · exact ofExtension_sound chain
  · refine Sound.bind ?_ fun primary => ?_
    · unfold isPrimary
      split
      · exact sound_pure _
      · exact sound_ofWalk _
    · split <;> exact sound_pure _

/-- What is not unrelated has layers. -/
theorem linearize_yields (ctx : Context) (family : Family) (t : TypeHandle) :
    (linearize ctx family t).Yields fun h => h.role ≠ .unrelated → h.layers ≠ [] := by
  refine (BaseChain.walk_yields _ _ _ _).bind fun chain hchain => ?_
  have htypes : chain.types.reverse ≠ [] := by simpa using hchain
  split
  · exact yields_bind fun _ => yields_bind fun _ => yields_bind fun _ =>
      yields_pure fun _ => addLayers_ne_nil _ htypes
  · refine yields_bind fun primary => ?_
    split
    · exact yields_pure fun _ => addLayers_ne_nil _ htypes
    · exact yields_pure fun h => absurd rfl h

end Hierarchy

/-! ## Collections -/

namespace Collection

variable {α : Type} {layers : List Layer} {select : Layer → Analysis (List (String × α))}

/-- The token is polled for the first layer. -/
theorem build_stops (h : layers ≠ []) : (build layers select).Stops :=
  stops_foldlM h fun _ _ => stops_pollToken.bind _

/-- A selection that may be wrong does no harm if it is not empty: the token is polled for what is
    selected. -/
theorem build_sound (h : ∀ l, (select l).SoundUnless fun selected => selected ≠ []) :
    (build layers select).Sound := by
  refine sound_foldlM fun c l => sound_pollToken.bind fun _ => ?_
  refine (h l).bind (fun selected => ?_) fun selected hne => Stops.late ?_
  · exact sound_foldlM fun c s => sound_pollToken.bind fun _ => sound_pure _
  · exact stops_foldlM hne fun c s => stops_pollToken.bind _

end Collection

/-! ## Graphs -/

namespace GraphModel

theorem ofType_sound (ctx : Context) (t : TypeHandle) : (ofType ctx t).Sound := by
  refine (Hierarchy.linearize_sound ctx .graph t).bind_of_yields
    (Hierarchy.linearize_yields ctx .graph t) fun h hlayers => ?_
  split
  · exact sound_pure _
  · next hrole =>
    refine Sound.bind ?_ fun g => ?_
    · exact sound_foldlM fun g m => sound_pollToken.bind fun _ => sound_pure _
    -- views and actions may be wrong, but what comes next begins with a poll
    · refine bind_soundUnless_of_stops (fun views => ?_) fun views => ?_
      · refine bind_soundUnless_of_stops (fun actions => ?_) fun actions => ?_
        · refine Sound.bind (Collection.build_sound fun l => (sound_pure _).soundUnless) fun _ => ?_
          refine Sound.bind (Collection.build_sound fun l => (sound_pure _).soundUnless) fun _ => ?_
          exact sound_pure _
        · exact (Collection.build_stops (hlayers hrole)).bind _
      · exact (Collection.build_stops (hlayers hrole)).bind _

theorem withHandlers_sound (ctx : Context) (handlers : InstanceCreatedHandlers) (t : TypeHandle) :
    (withHandlers ctx handlers t).Sound := by
  refine (ofType_sound ctx t).bind fun g => ?_
  split <;> exact sound_pure _

theorem register_sound (ctx : Context) (t : TypeHandle) (models : List GraphModel)
    (d : InitDelegate) : (register ctx t models d).Sound := by
  refine sound_pollToken.bind fun _ => ?_
  split
  · exact sound_pure _
  · refine (sound_find? _).bind fun target => ?_
    split
    · exact sound_pure _
    · split
      · exact sound_pure _
      · refine (ofType_sound ctx _).bind fun g => ?_
        split <;> exact sound_pure _

theorem infer_sound (ctx : Context) (t : TypeHandle) : (infer ctx t).Sound :=
  (ofType_sound ctx t).bind fun _ => sound_foldlM (register_sound ctx t)

end GraphModel

namespace EventModel

theorem ofGraph_sound (ctx : Context) (g : GraphModel) : (ofGraph ctx g).Sound := by
  unfold ofGraph
  split
  · exact sound_pure _
  · refine Sound.bind ?_ fun hooks => sound_pure _
    refine sound_foldlM fun hooks l => sound_pollToken.bind fun _ => ?_
    refine Sound.bind ?_ fun _ => sound_pure _
    refine sound_foldlM fun hooks m => sound_pollToken.bind fun _ => ?_
    split <;> exact sound_pure _

theorem infer_sound (ctx : Context) (t : TypeHandle) : (infer ctx t).Sound :=
  (GraphModel.infer_sound ctx t).bind fun _ => sound_mapM (ofGraph_sound ctx)

theorem explicit_sound (ctx : Context) (handlers : InstanceCreatedHandlers) (t : TypeHandle) :
    (explicit ctx handlers t).Sound := by
  refine (GraphModel.withHandlers_sound ctx handlers t).bind fun g => ?_
  split
  · exact sound_pure _
  · exact (ofGraph_sound ctx g).bind fun _ => sound_pure _

end EventModel

/-- **The models of graphs are all or nothing.** Wherever the token becomes cancelled, at a poll or at
    a lookup, building them ends with the cancellation or with the models that are built when nobody
    cancels. -/
theorem graphModels_allOrNothing (ctx : Context) (handlers : InstanceCreatedHandlers)
    (t : TypeHandle) :
    (GraphModel.ofType ctx t).AllOrNothing ctx.snapshot ∧
      (GraphModel.infer ctx t).AllOrNothing ctx.snapshot ∧
      (GraphModel.withHandlers ctx handlers t).AllOrNothing ctx.snapshot ∧
      (EventModel.infer ctx t).AllOrNothing ctx.snapshot ∧
      (EventModel.explicit ctx handlers t).AllOrNothing ctx.snapshot :=
  ⟨(GraphModel.ofType_sound ctx t).allOrNothing _, (GraphModel.infer_sound ctx t).allOrNothing _,
    (GraphModel.withHandlers_sound ctx handlers t).allOrNothing _,
    (EventModel.infer_sound ctx t).allOrNothing _,
    (EventModel.explicit_sound ctx handlers t).allOrNothing _⟩

theorem InstanceCreatedHandlers.collect_sound (ctx : Context) : (collect ctx).Sound :=
  (sound_foldlM fun _ _ => sound_pollToken.bind fun _ => sound_pure _).bind fun _ => sound_pure _

/-! ## Data access classes -/

/-- The model of a data access class may be wrong, but not whether there is one. -/
theorem DacModel.infer_soundUnless (ctx : Context) (t : TypeHandle) :
    (infer ctx t).SoundUnless fun models => models ≠ [] := by
  have hmodel : (ofType ctx t).SoundUnless fun d => d.role ≠ .unrelated := by
    refine (Hierarchy.linearize_sound ctx .dac t).bind fun h => ?_
    split
    · exact (sound_pure _).soundUnless
    · next hrole =>
      exact Yields.soundUnless <| yields_bind fun _ => yields_bind fun _ => yields_bind fun _ =>
        yields_pure hrole
  refine hmodel.bind (fun d => (sound_pure _).soundUnless) fun d hd =>
    (yields_pure ?_).late
  rw [if_neg hd]
  exact List.cons_ne_nil _ _

end SnapshotLint

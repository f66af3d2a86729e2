/-
  What models collect from their layers.

  A collection that is built layer by layer depends on the layers and on what is selected from each
  of them, and on nothing else (`Collection.answer_build`). So the collections of a model are known
  once its layers are: `GraphModel.collected_ofType`, `DacModel.collected_ofType`.
-/
import SnapshotLint.Dac.Model
import SnapshotLint.Proofs.EventChain

namespace SnapshotLint

theorem Collection.answer_build {α : Type} {s : Snapshot} (layers : List Layer)
    (select : Layer → Analysis (List (String × α))) :
    (build layers select).answer s = .ofLayers layers fun l => (select l).answer s := by
  simp only [build, Analysis.answer_foldlM, Analysis.answer_bind, Analysis.answer_pure]
  rfl

/-! ## Graphs -/

namespace GraphModel

variable {ctx : Context}

/-- The collections of a model hold what its layers declare. -/
structure Collected (ctx : Context) (g : GraphModel) : Prop where
  views_eq : g.views = .ofLayers g.layers fun l =>
    (typedMembers ctx ctx.framework.view l).answer ctx.snapshot
  actions_eq : g.actions = .ofLayers g.layers fun l =>
    (typedMembers ctx ctx.framework.action l).answer ctx.snapshot
  viewDelegates_eq : g.viewDelegates = .ofLayers g.layers (methodsNamedAfter g.views.names)
  actionHandlers_eq : g.actionHandlers = .ofLayers g.layers (methodsNamedAfter g.actions.names)

theorem collected_ofType (ctx : Context) (t : TypeHandle) :
    ((ofType ctx t).answer ctx.snapshot).Collected ctx := by
  obtain ⟨hsymbol, hlinearized⟩ := linearized_ofType ctx t
  obtain ⟨hrole, hlayers⟩ := linearized_iff.1 hlinearized
  rw [hsymbol] at hrole hlayers
  set h := (Hierarchy.linearize ctx .graph t).answer ctx.snapshot with hh
  by_cases hunrelated : h.role = .unrelated
  · have hnil := hlinearized.layers_eq_nil (hrole.trans hunrelated)
    have hmodel : (ofType ctx t).answer ctx.snapshot =
        { role := h.role, symbol := t, graph := h.target, layers := h.layers } := by
      simp only [ofType, Analysis.answer_bind, ← hh, if_pos hunrelated, Analysis.answer_pure]
    rw [hmodel] at hnil ⊢
    refine ⟨?_, ?_, ?_, ?_⟩ <;> rw [hnil] <;> rfl
  · simp only [ofType, Analysis.answer_bind, ← hh, if_neg hunrelated, Analysis.answer_pure,
      Analysis.answer_foldlM, Collection.answer_build] at hlayers ⊢
    refine ⟨?_, ?_, ?_, ?_⟩ <;> rw [hlayers]

end GraphModel

/-! ## Data access classes -/

namespace DacModel

variable {ctx : Context}

/-- A model has the role and the layers of the type that it is of. -/
def Linearized (ctx : Context) (d : DacModel) : Prop :=
  d.role = ((Hierarchy.linearize ctx .dac d.symbol).answer ctx.snapshot).role ∧
    d.layers = ((Hierarchy.linearize ctx .dac d.symbol).answer ctx.snapshot).layers

/-- The collections of a model hold what its layers declare. -/
structure Collected (ctx : Context) (d : DacModel) : Prop where
  properties_eq : d.properties = .ofLayers d.layers fun l =>
    (layerProperties ctx l).answer ctx.snapshot
  fieldClasses_eq : d.fieldClasses = .ofLayers d.layers fun l =>
    (layerFieldClasses ctx l).answer ctx.snapshot

theorem collected_ofType (ctx : Context) (t : TypeHandle) :
    ((ofType ctx t).answer ctx.snapshot).symbol = t ∧
      ((ofType ctx t).answer ctx.snapshot).Linearized ctx ∧
      ((ofType ctx t).answer ctx.snapshot).Collected ctx := by
  set h := (Hierarchy.linearize ctx .dac t).answer ctx.snapshot with hh
  by_cases hunrelated : h.role = .unrelated
  · have hnil : h.layers = [] := Hierarchy.layers_eq_nil ctx .dac t hunrelated
    simp only [ofType, Analysis.answer_bind, ← hh, if_pos hunrelated, Analysis.answer_pure]
    exact ⟨trivial, ⟨rfl, rfl⟩, by rw [hnil]; rfl, by rw [hnil]; rfl⟩
  · simp only [ofType, Analysis.answer_bind, ← hh, if_neg hunrelated, Analysis.answer_pure,
      Collection.answer_build]
    exact ⟨trivial, ⟨rfl, rfl⟩, rfl, rfl⟩

end DacModel

end SnapshotLint

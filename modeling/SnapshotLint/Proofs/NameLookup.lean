/-
  What analyses read of their context: the names of the framework, the types by their names, and how
  many types there are, which bounds every walk. None of them looks at the list of types, but for the
  collection of handlers.

  Contexts that agree in this (`Context.Alike`) have the same analyses, from the questions about
  derivation up to the models of a type (`Context.Alike.explicit`, `Context.Alike.inferDacs`), and an
  analysis runs alike in their snapshots, whatever the token does (`Analysis.run_congr`).
-/
import SnapshotLint.Graph.Events
import SnapshotLint.Dac.Model
import SnapshotLint.Proofs.Interruption

namespace SnapshotLint

/-! ## Lookups -/

section
variable {α : Type} {s s' : Snapshot} (h : s.find? = s'.find?)
include h

theorem Walk.run_congr (w : Walk α) (t : Token) : w.run s t = w.run s' t := by
  induction w generalizing t with
  | done a => rfl
  | poll next ih =>
    simp only [run]
    split
    · rfl
    · exact ih () t.poll
  | lookup name next ih =>
    simp only [run, h]
    exact ih _ t.lookup

theorem Analysis.run_congr (x : Analysis α) (t : Token) : x.run s t = x.run s' t := by
  induction x generalizing t with
  | done a => rfl
  | poll next ih =>
    simp only [run]
    split
    · rfl
    · exact ih () t.poll
  | lookup name next ih =>
    simp only [run, h]
    exact ih _ t.lookup
  | ask question next ih =>
    simp only [run, question.run_congr h]
    exact ih _ _

theorem Analysis.answer_congr (x : Analysis α) : x.answer s = x.answer s' := by
  have hrun := x.run_congr h {}
  rw [x.run_quiet, x.run_quiet, Prod.mk.injEq, Option.some.injEq] at hrun
  exact hrun.1

end

/-- Contexts with the same names, the same types by their names, and as many types. -/
structure Context.Alike (ctx ctx' : Context) : Prop where
  framework : ctx.framework = ctx'.framework
  find? : ctx.snapshot.find? = ctx'.snapshot.find?
  size : ctx.snapshot.types.length = ctx'.snapshot.types.length

namespace Context.Alike

variable {ctx ctx' : Context} (h : ctx.Alike ctx')
include h

theorem walkBound : ctx.walkBound = ctx'.walkBound := congrArg (· + 1) h.size

theorem derives : ctx.derives = ctx'.derives := by
  funext name base
  simp only [Context.derives, derivesWalk, h.walkBound]

theorem implementsWalk : ctx.implementsWalk = ctx'.implementsWalk := by
  funext name interface
  simp only [Context.implementsWalk, h.walkBound]

theorem implements : ctx.implements = ctx'.implements := by
  funext name interface
  simp only [Context.implements, h.implementsWalk]

/-! ## Hierarchies -/

theorem baseChain : BaseChain.ofType ctx = BaseChain.ofType ctx' := by
  funext roots t
  simp only [BaseChain.ofType, h.walkBound]

theorem ofExtension : Hierarchy.ofExtension ctx = Hierarchy.ofExtension ctx' := by
  have hlower : Hierarchy.addLower ctx = Hierarchy.addLower ctx' := by
    funext roots layers lower
    simp only [Hierarchy.addLower, h.baseChain]
  have htarget : Hierarchy.targetLayers ctx = Hierarchy.targetLayers ctx' := by
    funext roots target
    cases target with
    | none => rfl
    | some t => simp only [Hierarchy.targetLayers, h.baseChain]
  funext roots chain
  simp only [Hierarchy.ofExtension, hlower, htarget]

theorem isPrimary : Hierarchy.isPrimary ctx = Hierarchy.isPrimary ctx' := by
  funext family t chain
  cases family with
  | graph => simp only [Hierarchy.isPrimary, h.framework]
  | dac => simp only [Hierarchy.isPrimary, h.framework, h.implementsWalk]

theorem linearize : Hierarchy.linearize ctx = Hierarchy.linearize ctx' := by
  funext family t
  simp only [Hierarchy.linearize, h.framework, h.baseChain, h.ofExtension, h.isPrimary]

/-! ## Graphs -/

theorem graphOfType : GraphModel.ofType ctx = GraphModel.ofType ctx' := by
  have htyped : GraphModel.typedMembers ctx = GraphModel.typedMembers ctx' := by
    funext base layer
    simp only [GraphModel.typedMembers, h.derives]
  funext t
  simp only [GraphModel.ofType, h.framework, h.linearize, htyped]

theorem ofGraph : EventModel.ofGraph ctx = EventModel.ofGraph ctx' := by
  funext g
  simp only [EventModel.ofGraph, h.framework]

theorem inferGraphs : EventModel.infer ctx = EventModel.infer ctx' := by
  have hregister : GraphModel.register ctx = GraphModel.register ctx' := by
    funext t models d
    simp only [GraphModel.register, h.framework, h.graphOfType]
  funext t
  simp only [EventModel.infer, GraphModel.infer, h.graphOfType, hregister, h.ofGraph]

theorem explicit : EventModel.explicit ctx = EventModel.explicit ctx' := by
  funext handlers t
  simp only [EventModel.explicit, GraphModel.withHandlers, h.graphOfType, h.ofGraph]

/-! ## Attributes -/

theorem declared : BoundType.declared ctx = BoundType.declared ctx' := by
  have hbound : Attribute.isBound ctx = Attribute.isBound ctx' := by
    funext a
    simp only [Attribute.isBound, h.framework, h.derives]
  have hunbound : Attribute.isUnbound ctx = Attribute.isUnbound ctx' := by
    funext a
    simp only [Attribute.isUnbound, h.framework, h.derives]
  funext attributes
  simp only [BoundType.declared, hbound, hunbound]

theorem resolve {α : Type} : @BoundType.resolve α ctx = BoundType.resolve ctx' := by
  have hfirst : BoundType.firstDecided ctx = BoundType.firstDecided ctx' := by
    funext declarations
    induction declarations with
    | nil => rfl
    | cons attributes rest ih => simp only [BoundType.firstDecided, h.declared, ih]
  funext attributes role o
  simp only [BoundType.resolve.eq_def, h.declared, hfirst]

theorem findDefault? : Attribute.findDefault? ctx = Attribute.findDefault? ctx' := by
  have hdefault : Attribute.asDefault? ctx = Attribute.asDefault? ctx' := by
    funext a
    simp only [Attribute.asDefault?, h.framework, h.derives]
  funext attributes
  induction attributes with
  | nil => rfl
  | cons a as ih => simp only [Attribute.findDefault?, hdefault, ih]

theorem findIssue? {α : Type} : @DefaultIssue.find? α ctx = DefaultIssue.find? ctx' := by
  have hnearest : DefaultIssue.nearestDefault? ctx = DefaultIssue.nearestDefault? ctx' := by
    funext declarations
    induction declarations with
    | nil => rfl
    | cons attributes rest ih => simp only [DefaultIssue.nearestDefault?, h.findDefault?, ih]
  funext attributes role bound o
  simp only [DefaultIssue.find?, h.findDefault?, hnearest]

/-! ## Data access classes -/

theorem dacOfType : DacModel.ofType ctx = DacModel.ofType ctx' := by
  have hproperties : DacModel.layerProperties ctx = DacModel.layerProperties ctx' := by
    funext layer
    simp only [DacModel.layerProperties, h.declared]
  have hmarker : DacModel.isFieldMarker ctx = DacModel.isFieldMarker ctx' := by
    funext t
    simp only [DacModel.isFieldMarker, h.framework, h.derives, h.implements]
  have hfieldClasses : DacModel.layerFieldClasses ctx = DacModel.layerFieldClasses ctx' := by
    funext layer
    simp only [DacModel.layerFieldClasses, hmarker]
  have hresolve : DacModel.resolveAll ctx = DacModel.resolveAll ctx' := by
    funext role properties
    simp only [DacModel.resolveAll, h.resolve]
  funext t
  simp only [DacModel.ofType, h.framework, h.linearize, hproperties, hfieldClasses, hresolve]

theorem inferDacs : DacModel.infer ctx = DacModel.infer ctx' := by
  funext t
  simp only [DacModel.infer, h.dacOfType]

end Context.Alike

end SnapshotLint

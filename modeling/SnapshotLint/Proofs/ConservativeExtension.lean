/-
  The models of extensions beside those of what they extend.

  The layers of an entity come first among those of its extensions (`Hierarchy.layers_prefix`), and
  what a layer declares is the same for both. So each chain of the entity begins the chain of the
  same name in the extension (`Collection.extends_ofLayers`). Methods named after a view or an action
  are no exception: an extension adds names, and a method that was selected stays so
  (`filter_methodsNamedAfter`). Altogether, extensions add to a model and change nothing in it:
  `Hierarchy.models_extend_target`.
-/
import SnapshotLint.Proofs.LayeredModel

namespace SnapshotLint

/-! ## Layers -/

namespace Hierarchy

variable {ctx : Context} {family : Family}

/-- The layers of an entity, with their positions, come first in each of its extensions. -/
theorem layers_prefix {e d : TypeHandle} {h k : Hierarchy} {r : TypeRef}
    (he : (linearize ctx family e).answer ctx.snapshot = h) (hrole : h.role = .extension)
    (hr : h.rootArgs.getLast? = some r) (hd : ctx.resolve r = some d)
    (hk : (linearize ctx family d).answer ctx.snapshot = k) (hprimary : k.role = .primary) :
    k.layers <+: h.layers := by
  -- the entity has the layers of its base walk
  have hentity : k.layers = addLayers [] (ctx.walkOf (family.roots ctx.framework) r).reverse := by
    rcases linearize_cases ctx family d hk with rfl | ⟨w, hw, -, ⟨-, hlayers⟩ | ⟨hrole', -⟩⟩
    · cases hprimary
    · rw [hlayers, (Context.isBaseWalk_walkOf hd).unique hw]
    · rw [hprimary] at hrole'
      cases hrole'
  -- the extension begins with the same walk
  rcases linearize_cases ctx family e he with rfl | ⟨w, -, -, ⟨hrole', -⟩ | ⟨-, -, hlayers⟩⟩
  · cases hrole
  · rw [hrole] at hrole'
    cases hrole'
  · obtain ⟨front, hfront⟩ := List.getLast?_eq_some_iff.1 hr
    rw [hlayers, hentity, hfront, List.reverse_append, List.reverse_singleton,
      List.singleton_append, List.flatMap_cons, List.append_assoc, addLayers_append]
    exact prefix_addLayers _ _

end Hierarchy

/-! ## Collections -/

namespace Collection

variable {α : Type} {c base : Collection α}

/-- Every chain of a collection begins the chain of the same name in another one. -/
def Extends (c base : Collection α) : Prop :=
  ∀ n o, base.get? n = some o → ∃ o', c.get? n = some o' ∧ o.layered <+: o'.layered

theorem Extends.names_subset (h : c.Extends base) : base.names ⊆ c.names := by
  intro n hn
  cases hget : base.get? n with
  | none => exact absurd hn (get?_eq_none_iff.1 hget)
  | some o =>
    obtain ⟨o', ho', -⟩ := h n o hget
    obtain ⟨hmem, hname⟩ := mem_of_get? ho'
    exact hname ▸ List.mem_map_of_mem hmem

theorem layered_of_get? {n : String} {o : Overridable α} (h : c.get? n = some o) :
    o.layered = c.chain n := by
  rw [chain, h, Option.map_some, Option.getD_some]

theorem extends_of_chain_prefix (h : ∀ n ∈ base.names, base.chain n <+: c.chain n) :
    c.Extends base := by
  intro n o ho
  have hmem : n ∈ base.names := by
    obtain ⟨hmem, hname⟩ := mem_of_get? ho
    exact hname ▸ List.mem_map_of_mem hmem
  have hpre := h n hmem
  cases hget : c.get? n with
  | none =>
    -- a name that is missing has an empty chain, and so it would be missing in the base
    rw [chain_eq_nil_iff.2 (get?_eq_none_iff.1 hget), List.prefix_nil, chain_eq_nil_iff] at hpre
    exact absurd hmem hpre
  | some o' =>
    rw [← layered_of_get? ho, ← layered_of_get? hget] at hpre
    exact ⟨o', rfl, hpre⟩

/-- Further layers, and selections that agree on the names already there, extend a collection. -/
theorem extends_ofLayers {layers baseLayers : List Layer}
    {select baseSelect : Layer → List (String × α)} (hpre : baseLayers <+: layers)
    (hlayers : layers.Pairwise (·.index < ·.index))
    (hselect : ∀ n ∈ (ofLayers baseLayers baseSelect).names, ∀ l,
      (select l).filter (·.1 = n) = (baseSelect l).filter (·.1 = n)) :
    (ofLayers layers select).Extends (ofLayers baseLayers baseSelect) := by
  refine extends_of_chain_prefix fun n hn => ?_
  rw [chain_ofLayers hlayers, chain_ofLayers (hlayers.sublist hpre.sublist)]
  simp only [hselect n hn]
  obtain ⟨more, rfl⟩ := hpre
  rw [List.filterMap_append]
  exact List.prefix_append _ _

end Collection

/-! ## Models -/

namespace GraphModel

variable {ctx : Context} {g base : GraphModel}

/-- Whether a method of some name is selected depends on the name only. -/
theorem filter_methodsNamedAfter {names : List String} {n : String}
    (h : ∃ name ∈ names, Text.eqIgnoreCase name n = true) (l : Layer) :
    (methodsNamedAfter names l).filter (·.1 = n) =
      (l.type.members.filter fun m =>
        m.member.kind = .method && !m.member.isStatic && m.name = n).map fun m => (m.name, m) := by
  have hany : names.any (fun name => Text.eqIgnoreCase name n) = true := List.any_eq_true.2 h
  rw [methodsNamedAfter, List.filter_map, List.filter_filter]
  congr 1
  refine List.filter_congr fun m _ => ?_
  by_cases hname : m.name = n
  · simp [hname, hany]
  · simp [hname]

theorem exists_eqIgnoreCase_of_mem {layers : List Layer}
    (hlayers : layers.Pairwise (·.index < ·.index)) {names : List String} {n : String}
    (h : n ∈ (Collection.ofLayers layers (methodsNamedAfter names)).names) :
    ∃ name ∈ names, Text.eqIgnoreCase name n = true := by
  obtain ⟨l, -, s, hs, rfl⟩ := (Collection.mem_names_ofLayers hlayers).1 h
  obtain ⟨m, hm, rfl⟩ := List.mem_map.1 hs
  have hselected := (List.mem_filter.1 hm).2
  rw [Bool.and_eq_true] at hselected
  exact List.any_eq_true.1 hselected.2

/-- More layers and more names extend the collection of the methods that are named after them. -/
theorem extends_methodsNamedAfter {layers baseLayers : List Layer} {names baseNames : List String}
    (hpre : baseLayers <+: layers) (hlayers : layers.Pairwise (·.index < ·.index))
    (hnames : baseNames ⊆ names) :
    (Collection.ofLayers layers (methodsNamedAfter names)).Extends
      (.ofLayers baseLayers (methodsNamedAfter baseNames)) := by
  refine Collection.extends_ofLayers hpre hlayers fun n hn l => ?_
  obtain ⟨name, hmem, heq⟩ :=
    exists_eqIgnoreCase_of_mem (hlayers.sublist hpre.sublist) hn
  rw [filter_methodsNamedAfter ⟨name, hmem, heq⟩,
    filter_methodsNamedAfter ⟨name, hnames hmem, heq⟩]

/-- A model adds to another one and changes nothing in it. -/
structure Extends (g base : GraphModel) : Prop where
  layers : base.layers <+: g.layers
  views : g.views.Extends base.views
  actions : g.actions.Extends base.actions
  viewDelegates : g.viewDelegates.Extends base.viewDelegates
  actionHandlers : g.actionHandlers.Extends base.actionHandlers

theorem Collected.extends (hg : g.Collected ctx) (hbase : base.Collected ctx)
    (hpre : base.layers <+: g.layers) (hlayers : g.layers.Pairwise (·.index < ·.index)) :
    g.Extends base := by
  have hviews : g.views.Extends base.views := by
    rw [hg.views_eq, hbase.views_eq]
    exact Collection.extends_ofLayers hpre hlayers fun _ _ _ => rfl
  have hactions : g.actions.Extends base.actions := by
    rw [hg.actions_eq, hbase.actions_eq]
    exact Collection.extends_ofLayers hpre hlayers fun _ _ _ => rfl
  refine ⟨hpre, hviews, hactions, ?_, ?_⟩
  · rw [hg.viewDelegates_eq, hbase.viewDelegates_eq]
    exact extends_methodsNamedAfter hpre hlayers hviews.names_subset
  · rw [hg.actionHandlers_eq, hbase.actionHandlers_eq]
    exact extends_methodsNamedAfter hpre hlayers hactions.names_subset

end GraphModel

namespace EventModel

/-- Every chain of hooks of a model begins the chain of the same event and key in another one. -/
def Extends (m base : EventModel) : Prop :=
  ∀ kind key o, base.get? kind key = some o →
    ∃ o', m.get? kind key = some o' ∧ o.layered <+: o'.layered

theorem extends_ofHooks {f : Framework} {g base : GraphModel} (hpre : base.layers <+: g.layers)
    (hlayers : g.layers.Pairwise (·.index < ·.index)) :
    (ofHooks f g).Extends (ofHooks f base) := by
  intro kind key o ho
  rw [get?_ofHooks] at ho ⊢
  exact Collection.extends_ofLayers hpre hlayers (fun _ _ _ => rfl) key o ho

end EventModel

namespace DacModel

variable {ctx : Context} {d base : DacModel}

/-- A model adds to another one and changes nothing in it. -/
structure Extends (d base : DacModel) : Prop where
  layers : base.layers <+: d.layers
  properties : d.properties.Extends base.properties
  fieldClasses : d.fieldClasses.Extends base.fieldClasses

theorem Collected.extends (hd : d.Collected ctx) (hbase : base.Collected ctx)
    (hpre : base.layers <+: d.layers) (hlayers : d.layers.Pairwise (·.index < ·.index)) :
    d.Extends base := by
  refine ⟨hpre, ?_, ?_⟩
  · rw [hd.properties_eq, hbase.properties_eq]
    exact Collection.extends_ofLayers hpre hlayers fun _ _ _ => rfl
  · rw [hd.fieldClasses_eq, hbase.fieldClasses_eq]
    exact Collection.extends_ofLayers hpre hlayers fun _ _ _ => rfl

end DacModel

/-- The models of a type exist and extend those of another type. -/
def Family.ModelsExtend (ctx : Context) (e d : TypeHandle) : Family → Prop
  | graph => ∃ g base m mbase,
      (GraphModel.ofType ctx e).run ctx.snapshot {} = (some g, {}) ∧
      (GraphModel.ofType ctx d).run ctx.snapshot {} = (some base, {}) ∧
      (EventModel.ofGraph ctx g).run ctx.snapshot {} = (some m, {}) ∧
      (EventModel.ofGraph ctx base).run ctx.snapshot {} = (some mbase, {}) ∧
      g.Extends base ∧ m.Extends mbase
  | dac => ∃ c base,
      (DacModel.ofType ctx e).run ctx.snapshot {} = (some c, {}) ∧
      (DacModel.ofType ctx d).run ctx.snapshot {} = (some base, {}) ∧ c.Extends base

namespace Hierarchy

variable {ctx : Context}

theorem graphModels_extend {e d : TypeHandle}
    (h : ((linearize ctx .graph d).answer ctx.snapshot).layers <+:
      ((linearize ctx .graph e).answer ctx.snapshot).layers) :
    Family.ModelsExtend ctx e d .graph := by
  obtain ⟨hsymbol, hg⟩ := GraphModel.linearized_ofType ctx e
  obtain ⟨hsymbol', hbase⟩ := GraphModel.linearized_ofType ctx d
  have hpre : ((GraphModel.ofType ctx d).answer ctx.snapshot).layers <+:
      ((GraphModel.ofType ctx e).answer ctx.snapshot).layers := by
    rw [(GraphModel.linearized_iff.1 hg).2, (GraphModel.linearized_iff.1 hbase).2, hsymbol, hsymbol']
    exact h
  refine ⟨_, _, _, _, Analysis.run_quiet _, Analysis.run_quiet _, Analysis.run_quiet _,
    Analysis.run_quiet _, ?_, ?_⟩
  · exact (GraphModel.collected_ofType ctx e).extends (GraphModel.collected_ofType ctx d) hpre
      hg.pairwise
  · rw [EventModel.answer_ofGraph hg, EventModel.answer_ofGraph hbase]
    exact EventModel.extends_ofHooks hpre hg.pairwise

theorem dacModels_extend {e d : TypeHandle}
    (h : ((linearize ctx .dac d).answer ctx.snapshot).layers <+:
      ((linearize ctx .dac e).answer ctx.snapshot).layers) :
    Family.ModelsExtend ctx e d .dac := by
  obtain ⟨hsymbol, hc, hcollected⟩ := DacModel.collected_ofType ctx e
  obtain ⟨hsymbol', hbase, hcollected'⟩ := DacModel.collected_ofType ctx d
  refine ⟨_, _, Analysis.run_quiet _, Analysis.run_quiet _, hcollected.extends hcollected' ?_ ?_⟩
  · rw [hc.2, hbase.2, hsymbol, hsymbol']
    exact h
  · rw [hc.2]
    exact pairwise_index ctx .dac _

/-- **An extension adds to the model of its target and changes nothing in it.** The target is the
    type that the last argument of the root names, if it is an entity itself. -/
theorem models_extend_target {family : Family} {e d : TypeHandle} {h k : Hierarchy} {r : TypeRef}
    (he : (linearize ctx family e).run ctx.snapshot {} = (some h, {})) (hrole : h.role = .extension)
    (hr : h.rootArgs.getLast? = some r) (hd : ctx.resolve r = some d)
    (hk : (linearize ctx family d).run ctx.snapshot {} = (some k, {}))
    (hprimary : k.role = .primary) :
    k.layers <+: h.layers ∧ family.ModelsExtend ctx e d := by
  rw [Analysis.run_quiet, Prod.mk.injEq, Option.some.injEq] at he hk
  have hpre := layers_prefix he.1 hrole hr hd hk.1 hprimary
  refine ⟨hpre, ?_⟩
  rw [← he.1, ← hk.1] at hpre
  cases family with
  | graph => exact graphModels_extend hpre
  | dac => exact dacModels_extend hpre

/-- A graph with a view and its delegate, and an extension that adds a view and declares the delegate
    anew. -/
theorem models_extend_target_orderEntry :
    let graph : TypeSymbol :=
      { name := "OrderEntry"
        base := some { name := "PXGraph" }
        members := [
          { name := "Orders", kind := .field, type := some { name := "PXSelectBase" } },
          { name := "orders", kind := .method }] }
    let extension : TypeSymbol :=
      { name := "OrderEntryExt"
        base := some { name := "PXGraphExtension", args := [{ name := "OrderEntry" }] }
        members := [
          { name := "Lines", kind := .field, type := some { name := "PXSelectBase" } },
          { name := "orders", kind := .method }] }
    let ctx : Context := { snapshot := { types := [extension, graph], distinct := by decide } }
    ∃ h k, (linearize ctx .graph ⟨extension, .snapshot⟩).run ctx.snapshot {} = (some h, {}) ∧
      h.role = .extension ∧
      (linearize ctx .graph ⟨graph, .snapshot⟩).run ctx.snapshot {} = (some k, {}) ∧
      k.role = .primary ∧ k.layers <+: h.layers ∧
      Family.graph.ModelsExtend ctx ⟨extension, .snapshot⟩ ⟨graph, .snapshot⟩ := by
  intro graph extension ctx
  exact ⟨_, _, rfl, rfl, rfl, rfl,
    models_extend_target (r := { name := "OrderEntry" }) rfl rfl rfl rfl rfl rfl⟩

end Hierarchy

end SnapshotLint

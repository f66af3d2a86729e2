/-
  The chains of event hooks.

  A layer contributes to the chain of an event and a key the last of its members that is such a hook
  (`Layer.hook?`). `EventModel.Complete` says that a model holds these chains and nothing else, and
  that it lists every event and key once. It holds of the model of every graph model whose layers
  ascend (`complete_ofHooks`), and thus of all models that types give rise to:
  `complete_explicit_infer`.
-/
import Mathlib.Data.Finset.Card
import SnapshotLint.Graph.Events
import SnapshotLint.Proofs.LayerOrder
import SnapshotLint.Proofs.OverrideChain

namespace SnapshotLint

namespace Layer

/-- The hooks among the members of a layer, in the order of their declarations. -/
def hooks (f : Framework) (l : Layer) : List EventHook :=
  l.type.members.filterMap (EventHook.ofMember? f)

/-- The last hook of a layer for an event under a key. -/
def hook? (f : Framework) (kind : EventKind) (key : String) (l : Layer) : Option EventHook :=
  ((l.hooks f).filter fun h => h.kind = kind ∧ h.key = key).getLast?

end Layer

namespace EventModel

/-- What a model holds for an event under a key. -/
def get? (m : EventModel) (kind : EventKind) (key : String) : Option (Overridable EventHook) :=
  (m.events.lookup kind).bind (·.get? key)

/-- The events and keys that a model lists. -/
def listed (m : EventModel) : List (EventKind × String) :=
  m.allEvents.map fun o => (o.item.kind, o.name)

/-- A model holds the hooks of its layers, each event and key with its chain, and lists them. -/
structure Complete (f : Framework) (m : EventModel) : Prop where
  /-- A chain holds the last hook of each layer that has one; empty chains are not stored. -/
  layered_eq : ∀ kind key, ∀ chain, (m.get? kind key).map Overridable.layered = some chain ↔
    chain ≠ [] ∧ chain = m.graph.layers.filterMap fun l => (l.hook? f kind key).map (l.index, ·)
  /-- The events present are those that some layer has a hook of. -/
  isSome_lookup : ∀ kind, (m.events.lookup kind).isSome ↔
    ∃ l ∈ m.graph.layers, ∃ h ∈ l.hooks f, h.kind = kind
  /-- What is listed is what is stored. -/
  get?_of_mem : ∀ o ∈ m.allEvents, m.get? o.item.kind o.name = some o
  /-- Nothing is listed twice. -/
  nodup_listed : m.listed.Nodup
  /-- An event and a key are listed if some layer has a hook of them. -/
  mem_listed : ∀ kind key, (kind, key) ∈ m.listed ↔
    ∃ l ∈ m.graph.layers, ∃ h ∈ l.hooks f, h.kind = kind ∧ h.key = key
  /-- Events are listed in the order of the catalog. -/
  ordered : m.listed.Pairwise fun a b => EventKind.all.idxOf a.1 ≤ EventKind.all.idxOf b.1
  /-- The count is that of the different pairs of an event and a key. -/
  eventCount_eq : m.eventCount =
    ((m.graph.layers.flatMap (·.hooks f)).map fun h => (h.kind, h.key)).toFinset.card

/-! ## The hooks of layers -/

section
variable {f : Framework} {s : Snapshot}

theorem answer_layerHooks (l : Layer) :
    (layerHooks f l).answer s = (l.hooks f).map (l.index, ·) := by
  rw [Layer.hooks, List.filterMap_eq_flatMap_toList, List.map_flatMap]
  refine Analysis.answer_foldlM_append ?_ l.type.members []
  intro hooks m
  rw [Analysis.answer_bind]
  cases EventHook.ofMember? f m with
  | none => exact (List.append_nil hooks).symm
  | some hook => rfl

theorem answer_allHooks (layers : List Layer) :
    (allHooks f layers).answer s = layers.flatMap fun l => (l.hooks f).map (l.index, ·) := by
  refine Analysis.answer_foldlM_append ?_ layers []
  intro hooks l
  simp only [Analysis.answer_bind, Analysis.answer_pure, answer_layerHooks]

end

/-- The hooks of an event in a layer, each under its key. -/
def keyed (f : Framework) (kind : EventKind) (l : Layer) : List (String × EventHook) :=
  ((l.hooks f).filter (·.kind = kind)).map fun h => (h.key, h)

theorem chains_eq_ofLayers (f : Framework) (layers : List Layer) (kind : EventKind) :
    chains (layers.flatMap fun l => (l.hooks f).map (l.index, ·)) kind =
      .ofLayers layers (keyed f kind) := by
  rw [Collection.ofLayers_eq_ofList, chains, List.filter_flatMap, List.map_flatMap]
  simp only [keyed, List.filter_map, List.map_map]
  rfl

theorem getLast?_keyed (f : Framework) (kind : EventKind) (key : String) (l : Layer) :
    (((keyed f kind l).filter (·.1 = key)).getLast?.map fun s => (l.index, s.2)) =
      (l.hook? f kind key).map (l.index, ·) := by
  rw [keyed, List.filter_map, List.getLast?_map, List.filter_filter, Option.map_map, Layer.hook?]
  simp only [Function.comp_def, and_comm, Bool.decide_and]

/-! ## The hooks of a graph -/

theorem lookup_filter {β : Type} (g : EventKind → β) (p : β → Bool) (kinds : List EventKind)
    (kind : EventKind) :
    ((kinds.map fun k => (k, g k)).filter (p ·.2)).lookup kind =
      if kind ∈ kinds ∧ p (g kind) then some (g kind) else none := by
  induction kinds with
  | nil => rfl
  | cons k kinds ih =>
    rw [List.map_cons, List.filter_cons]
    by_cases hk : kind = k
    · subst hk
      cases hp : p (g kind) with
      | true => simp
      | false => simp [hp, ih]
    · have hbeq : (kind == k) = false := beq_eq_false_iff_ne.2 hk
      split <;> simp [List.lookup_cons, hbeq, ih, hk]

theorem lookup_group (hooks : List (Nat × EventHook)) (kind : EventKind) :
    (group hooks).lookup kind =
      if (chains hooks kind).items = [] then none else some (chains hooks kind) := by
  refine (lookup_filter (chains hooks) (!·.isEmpty) EventKind.all kind).trans ?_
  cases h : (chains hooks kind).items <;> simp [EventKind.mem_all, Collection.isEmpty, h]

theorem get?_group (graph : GraphModel) (hooks : List (Nat × EventHook)) (kind : EventKind)
    (key : String) : get? ⟨graph, group hooks⟩ kind key = (chains hooks kind).get? key := by
  rw [get?, lookup_group]
  split
  · next h => simp [Collection.get?, h]
  · rfl

theorem allEvents_group (graph : GraphModel) (hooks : List (Nat × EventHook)) :
    allEvents ⟨graph, group hooks⟩ = EventKind.all.flatMap fun k => (chains hooks k).items := by
  have hall : ∀ kinds : List EventKind,
      ((kinds.map fun k => (k, chains hooks k)).filter (!·.2.isEmpty)).flatMap (·.2.items) =
        kinds.flatMap fun k => (chains hooks k).items := by
    intro kinds
    induction kinds with
    | nil => rfl
    | cons k kinds ih =>
      rw [List.map_cons, List.filter_cons, List.flatMap_cons, ← ih]
      split
      · rw [List.flatMap_cons]
      · next h =>
        have hempty : (chains hooks k).items = [] := by simpa [Collection.isEmpty] using h
        rw [hempty, List.nil_append]
  exact hall EventKind.all

theorem eventCount_eq_length (m : EventModel) : m.eventCount = m.allEvents.length := by
  rw [eventCount, allEvents, List.length_flatMap, List.sum_eq_foldl, List.foldl_map]
  rfl

/-! ## Complete models -/

section
variable {f : Framework} {layers : List Layer} (hlayers : layers.Pairwise (·.index < ·.index))
  {kind : EventKind} {key : String}
include hlayers

theorem chain_keyed :
    (Collection.ofLayers layers (keyed f kind)).chain key =
      layers.filterMap fun l => (l.hook? f kind key).map (l.index, ·) := by
  rw [Collection.chain_ofLayers hlayers]
  simp only [getLast?_keyed]

theorem mem_names_keyed :
    key ∈ (Collection.ofLayers layers (keyed f kind)).names ↔
      ∃ l ∈ layers, ∃ h ∈ l.hooks f, h.kind = kind ∧ h.key = key := by
  rw [Collection.mem_names_ofLayers hlayers]
  simp [keyed, and_assoc]

/-- Hooks come from a layer, and are stored under their event and their key. -/
theorem mem_hooks_of_mem_keyed {o : Overridable EventHook}
    (ho : o ∈ (Collection.ofLayers layers (keyed f kind)).items) :
    (∃ l ∈ layers, o.item ∈ l.hooks f) ∧ o.item.kind = kind ∧ o.item.key = o.name := by
  obtain ⟨l, hl, hmem⟩ := Collection.mem_select_of_mem hlayers ho
  obtain ⟨hook, hhook, heq⟩ := List.mem_map.1 hmem
  obtain ⟨hhook, hkind⟩ := List.mem_filter.1 hhook
  rw [Prod.mk.injEq] at heq
  rw [← heq.2]
  exact ⟨⟨l, hl, hhook⟩, of_decide_eq_true hkind, heq.1⟩

end

/-- The event model of a graph model, made of the hooks of its layers. -/
def ofHooks (f : Framework) (graph : GraphModel) : EventModel :=
  ⟨graph, group (graph.layers.flatMap fun l => (l.hooks f).map (l.index, ·))⟩

section
variable {f : Framework} {graph : GraphModel}

theorem get?_ofHooks (kind : EventKind) (key : String) :
    (ofHooks f graph).get? kind key =
      (Collection.ofLayers graph.layers (keyed f kind)).get? key := by
  rw [ofHooks, get?_group, chains_eq_ofLayers]

theorem allEvents_ofHooks : (ofHooks f graph).allEvents =
    EventKind.all.flatMap fun k => (Collection.ofLayers graph.layers (keyed f k)).items := by
  rw [ofHooks, allEvents_group]
  simp only [chains_eq_ofLayers]

variable (hlayers : graph.layers.Pairwise (·.index < ·.index))
include hlayers

theorem isSome_lookup_ofHooks (kind : EventKind) :
    ((ofHooks f graph).events.lookup kind).isSome ↔
      ∃ l ∈ graph.layers, ∃ h ∈ l.hooks f, h.kind = kind := by
  have hsome : ∀ c : Collection EventHook,
      (if c.items = [] then none else some c).isSome = true ↔ ∃ key, key ∈ c.names := by
    intro c
    cases h : c.items with
    | nil => simp [Collection.names, h]
    | cons o items => simp [Collection.names, h]
  rw [ofHooks, lookup_group, chains_eq_ofLayers, hsome]
  simp only [mem_names_keyed hlayers]
  constructor
  · rintro ⟨key, l, hl, h, hh, hkind, -⟩
    exact ⟨l, hl, h, hh, hkind⟩
  · rintro ⟨l, hl, h, hh, hkind⟩
    exact ⟨h.key, l, hl, h, hh, hkind, rfl⟩

theorem listed_ofHooks : (ofHooks f graph).listed =
    EventKind.all.flatMap fun k =>
      (Collection.ofLayers graph.layers (keyed f k)).names.map (k, ·) := by
  rw [listed, allEvents_ofHooks, List.map_flatMap]
  refine List.flatMap_congr fun k _ => ?_
  rw [Collection.names, List.map_map]
  refine List.map_congr_left fun o ho => ?_
  rw [(mem_hooks_of_mem_keyed hlayers ho).2.1]
  rfl

theorem mem_listed_ofHooks (kind : EventKind) (key : String) :
    (kind, key) ∈ (ofHooks f graph).listed ↔
      ∃ l ∈ graph.layers, ∃ h ∈ l.hooks f, h.kind = kind ∧ h.key = key := by
  rw [← mem_names_keyed hlayers, listed_ofHooks hlayers]
  simp [EventKind.mem_all]

theorem nodup_listed_ofHooks : (ofHooks f graph).listed.Nodup := by
  rw [listed_ofHooks hlayers, List.nodup_flatMap]
  refine ⟨fun k _ => ?_, ?_⟩
  · have hproper := Collection.proper_ofLayers graph.layers (keyed f k)
    exact hproper.distinct.map (Prod.mk_right_injective k)
  · refine List.Pairwise.imp ?_ (by decide : EventKind.all.Nodup)
    intro a b hab e ha hb
    obtain ⟨_, -, rfl⟩ := List.mem_map.1 ha
    obtain ⟨_, -, heq⟩ := List.mem_map.1 hb
    exact hab (congrArg Prod.fst heq).symm

theorem ordered_listed_ofHooks : (ofHooks f graph).listed.Pairwise fun a b =>
    EventKind.all.idxOf a.1 ≤ EventKind.all.idxOf b.1 := by
  have hcatalog : EventKind.all.Pairwise fun a b =>
      EventKind.all.idxOf a ≤ EventKind.all.idxOf b := by decide
  rw [listed_ofHooks hlayers, List.pairwise_flatMap]
  refine ⟨fun k _ => ?_, hcatalog.imp ?_⟩
  · rw [List.pairwise_map]
    exact List.pairwise_of_forall fun _ _ => Nat.le_refl _
  · intro a b hab x hx y hy
    obtain ⟨_, -, rfl⟩ := List.mem_map.1 hx
    obtain ⟨_, -, rfl⟩ := List.mem_map.1 hy
    exact hab

theorem eventCount_ofHooks : (ofHooks f graph).eventCount =
    ((graph.layers.flatMap (·.hooks f)).map fun h => (h.kind, h.key)).toFinset.card := by
  have hsame : (ofHooks f graph).listed.toFinset =
      ((graph.layers.flatMap (·.hooks f)).map fun h => (h.kind, h.key)).toFinset := by
    ext ⟨kind, key⟩
    rw [List.mem_toFinset, mem_listed_ofHooks hlayers]
    simp only [List.mem_toFinset, List.mem_map, List.mem_flatMap, Prod.mk.injEq]
    constructor
    · rintro ⟨l, hl, h, hh, hkk⟩
      exact ⟨h, ⟨l, hl, hh⟩, hkk⟩
    · rintro ⟨h, ⟨l, hl, hh⟩, hkk⟩
      exact ⟨l, hl, h, hh, hkk⟩
  rw [← hsame, List.toFinset_card_of_nodup (nodup_listed_ofHooks hlayers), eventCount_eq_length,
    listed, List.length_map]

theorem complete_ofHooks : (ofHooks f graph).Complete f := by
  refine ⟨?_, isSome_lookup_ofHooks hlayers, ?_, nodup_listed_ofHooks hlayers,
    mem_listed_ofHooks hlayers, ordered_listed_ofHooks hlayers, eventCount_ofHooks hlayers⟩
  · intro kind key chain
    rw [get?_ofHooks, Collection.layered_eq_some_iff, chain_keyed hlayers]
    rfl
  · intro o ho
    rw [allEvents_ofHooks] at ho
    obtain ⟨k, -, ho⟩ := List.mem_flatMap.1 ho
    rw [get?_ofHooks, (mem_hooks_of_mem_keyed hlayers ho).2.1]
    exact (Collection.proper_ofLayers graph.layers (keyed f k)).get?_of_mem ho

end

end EventModel

/-! ## The graph models of a type -/

namespace GraphModel

variable {ctx : Context}

/-- A model has the role and the layers of the type that it is of. -/
def Linearized (ctx : Context) (g : GraphModel) : Prop :=
  ∃ h, (Hierarchy.linearize ctx .graph g.symbol).run ctx.snapshot {} = (some h, {}) ∧
    g.role = h.role ∧ g.layers = h.layers

theorem linearized_iff {g : GraphModel} : g.Linearized ctx ↔
    g.role = ((Hierarchy.linearize ctx .graph g.symbol).answer ctx.snapshot).role ∧
      g.layers = ((Hierarchy.linearize ctx .graph g.symbol).answer ctx.snapshot).layers := by
  rw [Linearized, Analysis.run_quiet]
  constructor
  · rintro ⟨h, heq, hg⟩
    cases heq
    exact hg
  · intro hg
    exact ⟨_, rfl, hg⟩

theorem Linearized.pairwise {g : GraphModel} (h : g.Linearized ctx) :
    g.layers.Pairwise (·.index < ·.index) := by
  rw [(linearized_iff.1 h).2]
  exact Hierarchy.pairwise_index ctx .graph g.symbol

theorem Linearized.layers_eq_nil {g : GraphModel} (h : g.Linearized ctx)
    (hrole : g.role = .unrelated) : g.layers = [] := by
  obtain ⟨hr, hl⟩ := linearized_iff.1 h
  rw [hl]
  exact Hierarchy.layers_eq_nil ctx .graph g.symbol (hr.symm.trans hrole)

theorem foldl_addMember_frame (f : Framework) (ms : List MemberHandle) (g : GraphModel) :
    (ms.foldl (·.addMember f ·) g).role = g.role ∧
      (ms.foldl (·.addMember f ·) g).symbol = g.symbol ∧
      (ms.foldl (·.addMember f ·) g).layers = g.layers := by
  induction ms generalizing g with
  | nil => exact ⟨rfl, rfl, rfl⟩
  | cons m ms ih =>
    obtain ⟨hrole, hsymbol, hlayers⟩ := addMember_frame f g m
    rw [List.foldl_cons, (ih _).1, (ih _).2.1, (ih _).2.2, hrole, hsymbol, hlayers]
    exact ⟨rfl, rfl, rfl⟩

theorem linearized_ofType (ctx : Context) (t : TypeHandle) :
    ((ofType ctx t).answer ctx.snapshot).symbol = t ∧
      ((ofType ctx t).answer ctx.snapshot).Linearized ctx := by
  set h := (Hierarchy.linearize ctx .graph t).answer ctx.snapshot with hh
  have hframe : ((ofType ctx t).answer ctx.snapshot).role = h.role ∧
      ((ofType ctx t).answer ctx.snapshot).symbol = t ∧
      ((ofType ctx t).answer ctx.snapshot).layers = h.layers := by
    simp only [ofType, Analysis.answer_bind, ← hh]
    split
    · exact ⟨rfl, rfl, rfl⟩
    · simp only [Analysis.answer_bind, Analysis.answer_pure, Analysis.answer_foldlM]
      exact foldl_addMember_frame ctx.framework t.members _
  obtain ⟨hrole, hsymbol, hlayers⟩ := hframe
  refine ⟨hsymbol, linearized_iff.2 ?_⟩
  rw [hsymbol, hrole, hlayers]
  exact ⟨rfl, rfl⟩

/-- Initializers leave alone what a model is of. -/
theorem Linearized.addInitializer {g : GraphModel} (h : g.Linearized ctx) (i : Initializer) :
    (g.addInitializer i).Linearized ctx := h

theorem linearized_withHandlers (ctx : Context) (handlers : InstanceCreatedHandlers)
    (t : TypeHandle) :
    ((withHandlers ctx handlers t).answer ctx.snapshot).symbol = t ∧
      ((withHandlers ctx handlers t).answer ctx.snapshot).Linearized ctx := by
  simp only [withHandlers, Analysis.answer_bind]
  split <;> exact linearized_ofType ctx t

/-! ### Models for registered handlers -/

/-- Models with the layers of their types, none of them unrelated. -/
def AllLinearized (ctx : Context) (gs : List GraphModel) : Prop :=
  ∀ g ∈ gs, g.Linearized ctx ∧ g.role ≠ .unrelated

theorem updateFirst_eq {gs : List GraphModel} {name : String}
    (h : gs.any (·.isGraph name) = true) (change : GraphModel → GraphModel) :
    ∃ front g back, gs = front ++ g :: back ∧ g.isGraph name = true ∧
      updateFirst name change gs = front ++ change g :: back := by
  induction gs with
  | nil => simp at h
  | cons g gs ih =>
    by_cases hg : g.isGraph name = true
    · exact ⟨[], g, gs, rfl, hg, by rw [updateFirst, if_pos hg]; rfl⟩
    · rw [List.any_cons, Bool.or_eq_true, or_iff_right hg] at h
      obtain ⟨front, g', back, rfl, hg', hupdate⟩ := ih h
      exact ⟨g :: front, g', back, rfl, hg', by rw [updateFirst, if_neg hg, hupdate]; rfl⟩

/-- What a registration can do: the handler goes to a model of its graph, or to a new one if there is
    none and the graph is known, not suppressed, and really a graph; otherwise nothing happens. -/
theorem register_cases (ctx : Context) (t : TypeHandle) (gs : List GraphModel) (d : InitDelegate) :
    (∃ front g back, gs = front ++ g :: back ∧ g.isGraph d.graph = true ∧
      (register ctx t gs d).answer ctx.snapshot =
        front ++ g.addInitializer (.ofDelegate t.symbol d) :: back) ∨
    (∀ g ∈ gs, g.isGraph d.graph = false) ∧
      ((∃ target, ctx.snapshot.find? d.graph = some target ∧
          ctx.framework.isSuppressed target = false ∧
          ((ofType ctx ⟨target, .snapshot⟩).answer ctx.snapshot).role = .primary ∧
          (register ctx t gs d).answer ctx.snapshot =
            gs ++ [((ofType ctx ⟨target, .snapshot⟩).answer ctx.snapshot).addInitializer
              (.ofDelegate t.symbol d)]) ∨
        (register ctx t gs d).answer ctx.snapshot = gs ∧
          ∀ target, ctx.snapshot.find? d.graph = some target →
            ctx.framework.isSuppressed target = false →
            ((ofType ctx ⟨target, .snapshot⟩).answer ctx.snapshot).role ≠ .primary) := by
  simp only [register, Analysis.answer_bind]
  by_cases hany : gs.any (·.isGraph d.graph) = true
  · obtain ⟨front, g, back, hgs, hg, hupdate⟩ :=
      updateFirst_eq hany (·.addInitializer (.ofDelegate t.symbol d))
    rw [if_pos hany, Analysis.answer_pure]
    exact Or.inl ⟨front, g, back, hgs, hg, hupdate⟩
  · refine Or.inr ⟨by simpa using hany, ?_⟩
    rw [if_neg hany, Analysis.answer_bind, Analysis.answer_find?]
    cases hfind : ctx.snapshot.find? d.graph with
    | none => exact Or.inr ⟨rfl, by simp⟩
    | some target =>
      dsimp only
      by_cases hsuppressed : ctx.framework.isSuppressed target = true
      · exact Or.inr ⟨by rw [if_pos hsuppressed, Analysis.answer_pure], by simp [hsuppressed]⟩
      · rw [if_neg hsuppressed, Analysis.answer_bind]
        by_cases hrole : ((ofType ctx ⟨target, .snapshot⟩).answer ctx.snapshot).role = .primary
        · rw [if_pos hrole]
          exact Or.inl ⟨target, rfl, by simpa using hsuppressed, hrole, rfl⟩
        · rw [if_neg hrole]
          exact Or.inr ⟨rfl, by simp [hrole]⟩

/-- A registration keeps the models linearized, and no model is lost. -/
theorem allLinearized_register {gs : List GraphModel} (h : AllLinearized ctx gs) (t : TypeHandle)
    (d : InitDelegate) :
    AllLinearized ctx ((register ctx t gs d).answer ctx.snapshot) ∧
      gs.map (·.symbol) <+: ((register ctx t gs d).answer ctx.snapshot).map (·.symbol) := by
  rcases register_cases ctx t gs d with ⟨front, g, back, rfl, -, hregister⟩ |
    ⟨-, ⟨target, -, -, hprimary, hregister⟩ | ⟨hregister, -⟩⟩
  · obtain ⟨hfront, hrest⟩ := List.forall_mem_append.1 h
    obtain ⟨hg, hback⟩ := List.forall_mem_cons.1 hrest
    rw [hregister, List.map_append, List.map_append]
    refine ⟨List.forall_mem_append.2 ⟨hfront, ?_⟩, List.prefix_rfl⟩
    exact List.forall_mem_cons.2 ⟨⟨hg.1.addInitializer _, hg.2⟩, hback⟩
  · have hrole : ((ofType ctx ⟨target, .snapshot⟩).answer ctx.snapshot).role ≠ .unrelated := by
      rw [hprimary]
      decide
    rw [hregister, List.map_append]
    refine ⟨List.forall_mem_append.2 ⟨h, ?_⟩, List.prefix_append _ _⟩
    exact List.forall_mem_singleton.2
      ⟨(linearized_ofType ctx ⟨target, .snapshot⟩).2.addInitializer _, hrole⟩
  · rw [hregister]
    exact ⟨h, List.prefix_rfl⟩

theorem allLinearized_infer (ctx : Context) (t : TypeHandle) :
    AllLinearized ctx ((infer ctx t).answer ctx.snapshot) ∧
      (((ofType ctx t).answer ctx.snapshot).role ≠ .unrelated →
        t ∈ ((infer ctx t).answer ctx.snapshot).map (·.symbol)) := by
  obtain ⟨hsymbol, hlinearized⟩ := linearized_ofType ctx t
  -- registrations keep the models linearized, and the model of the type stays among them
  have hrun : ∀ (ds : List InitDelegate) (gs : List GraphModel), AllLinearized ctx gs →
      AllLinearized ctx ((ds.foldlM (register ctx t) gs).answer ctx.snapshot) ∧
        gs.map (·.symbol) <+:
          ((ds.foldlM (register ctx t) gs).answer ctx.snapshot).map (·.symbol) := by
    intro ds
    induction ds with
    | nil => exact fun gs h => ⟨h, List.prefix_rfl⟩
    | cons d ds ih =>
      intro gs h
      obtain ⟨hstep, hkept⟩ := allLinearized_register h t d
      obtain ⟨hrest, hkept'⟩ := ih _ hstep
      rw [List.foldlM_cons, Analysis.answer_bind]
      exact ⟨hrest, hkept.trans hkept'⟩
  simp only [infer, Analysis.answer_bind]
  split
  · next h =>
    exact ⟨(hrun _ [] (by simp [AllLinearized])).1, fun hne => absurd h hne⟩
  · next h =>
    obtain ⟨hall, hkept⟩ := hrun t.symbol.initDelegates [(ofType ctx t).answer ctx.snapshot]
      (List.forall_mem_singleton.2 ⟨hlinearized, h⟩)
    exact ⟨hall, fun _ => hkept.subset (by simp [hsymbol])⟩

end GraphModel

namespace EventModel

variable {ctx : Context}

theorem answer_ofGraph {g : GraphModel} (h : g.Linearized ctx) :
    (ofGraph ctx g).answer ctx.snapshot = ofHooks ctx.framework g := by
  unfold ofGraph
  split
  · next hrole =>
    rw [Analysis.answer_pure, ofHooks, h.layers_eq_nil hrole]
    rfl
  · rw [Analysis.answer_bind, Analysis.answer_pure, answer_allHooks, ofHooks]

/-- Every graph and graph extension has event models, and all event models are complete. -/
theorem complete_explicit_infer (ctx : Context) (handlers : InstanceCreatedHandlers)
    (t : TypeHandle) :
    ∃ h, (Hierarchy.linearize ctx .graph t).run ctx.snapshot {} = (some h, {}) ∧
      (∃ r, (explicit ctx handlers t).run ctx.snapshot {} = (some r, {}) ∧
        (r.isSome ↔ h.role ≠ .unrelated) ∧
        ∀ m ∈ r, m.graph.symbol = t ∧ m.graph.Linearized ctx ∧ m.Complete ctx.framework) ∧
      ∃ ms, (infer ctx t).run ctx.snapshot {} = (some ms, {}) ∧
        (h.role ≠ .unrelated → ∃ m ∈ ms, m.graph.symbol = t) ∧
        ∀ m ∈ ms, m.graph.role ≠ .unrelated ∧ m.graph.Linearized ctx ∧ m.Complete ctx.framework := by
  refine ⟨_, Analysis.run_quiet _, ⟨_, Analysis.run_quiet _, ?_⟩, _, Analysis.run_quiet _, ?_⟩
  · obtain ⟨hsymbol, hlinearized⟩ := GraphModel.linearized_withHandlers ctx handlers t
    obtain ⟨hrole, -⟩ := GraphModel.linearized_iff.1 hlinearized
    rw [hsymbol] at hrole
    simp only [explicit, Analysis.answer_bind]
    split
    · next h =>
      rw [Analysis.answer_pure, ← hrole]
      exact ⟨by simp [h], by simp⟩
    · next h =>
      rw [Analysis.answer_bind, Analysis.answer_pure, answer_ofGraph hlinearized, ← hrole]
      refine ⟨by simp [h], ?_⟩
      rintro m ⟨⟩
      exact ⟨hsymbol, hlinearized, complete_ofHooks hlinearized.pairwise⟩
  · obtain ⟨hsymbol, hlinearized⟩ := GraphModel.linearized_ofType ctx t
    obtain ⟨hrole, -⟩ := GraphModel.linearized_iff.1 hlinearized
    rw [hsymbol] at hrole
    obtain ⟨hall, hmem⟩ := GraphModel.allLinearized_infer ctx t
    simp only [infer, Analysis.answer_bind, Analysis.answer_mapM, List.mem_map]
    constructor
    · intro h
      obtain ⟨g, hg, hgt⟩ := List.mem_map.1 (hmem (hrole ▸ h))
      refine ⟨_, ⟨g, hg, rfl⟩, ?_⟩
      rw [answer_ofGraph (hall g hg).1]
      exact hgt
    · rintro m ⟨g, hg, rfl⟩
      obtain ⟨hlinearized, hne⟩ := hall g hg
      rw [answer_ofGraph hlinearized]
      exact ⟨hne, hlinearized, complete_ofHooks hlinearized.pairwise⟩

end EventModel

end SnapshotLint

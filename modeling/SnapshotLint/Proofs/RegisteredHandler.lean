/-
  Handlers for new instances of a graph, attached in two ways: type by type, each type to the models
  of the graphs that it registers handlers for (`GraphModel.infer`), and graph by graph, each with all
  handlers registered for it anywhere (`GraphModel.withHandlers`).

  Whatever a type registers, its models stay those of different types, and each is the model of its
  type with handlers attached to it (`Attached`). A registration adds one handler to the model of its
  graph and none to any other (`handlersIn_register`). So both ways attach the same handlers in the
  same order: `infer_agrees_withHandlers`.
-/
import SnapshotLint.Proofs.EventChain

namespace SnapshotLint

namespace GraphModel

variable {ctx : Context} {t : TypeHandle}

/-- The model of a type alone. -/
def plain (ctx : Context) (t : TypeHandle) : GraphModel := (ofType ctx t).answer ctx.snapshot

def attach (g : GraphModel) (handlers : List Initializer) : GraphModel :=
  { g with initializers := g.initializers ++ handlers }

/-- The handlers for new instances of a model. -/
def handlers (g : GraphModel) : List Initializer := g.initializersOf .instanceCreatedDelegate

theorem handlers_addInitializer (g : GraphModel) (s : TypeSymbol) (d : InitDelegate) :
    (g.addInitializer (.ofDelegate s d)).handlers = g.handlers ++ [.ofDelegate s d] := by
  simp only [handlers, initializersOf, addInitializer, List.filter_append]
  rfl

theorem handlers_addMember (f : Framework) (g : GraphModel) (m : MemberHandle) :
    (g.addMember f m).handlers = g.handlers := by
  unfold addMember
  repeat' split
  all_goals simp [handlers, initializersOf, Initializer.ofMember]

/-- The members of a type are no handlers. -/
theorem handlers_plain (ctx : Context) (t : TypeHandle) : (plain ctx t).handlers = [] := by
  have hfold : ∀ (ms : List MemberHandle) (g : GraphModel),
      (ms.foldl (·.addMember ctx.framework ·) g).handlers = g.handlers := by
    intro ms
    induction ms with
    | nil => exact fun g => rfl
    | cons m ms ih => exact fun g => (ih _).trans (handlers_addMember ctx.framework g m)
  simp only [plain, ofType, Analysis.answer_bind]
  split
  · rfl
  · simp only [Analysis.answer_bind, Analysis.answer_pure, Analysis.answer_foldlM]
    exact hfold t.members _

theorem symbol_plain (ctx : Context) (t : TypeHandle) : (plain ctx t).symbol = t :=
  (linearized_ofType ctx t).1

/-! ## The models of a type and of the graphs that it registers handlers for -/

/-- The model is that of its type alone, up to handlers attached to it. -/
def IsPlain (ctx : Context) (g : GraphModel) : Prop :=
  g = (plain ctx g.symbol).attach g.handlers

theorem isPlain_plain (ctx : Context) (t : TypeHandle) : (plain ctx t).IsPlain ctx := by
  rw [IsPlain, symbol_plain, handlers_plain, attach, List.append_nil]

theorem IsPlain.addInitializer {g : GraphModel} (h : g.IsPlain ctx) (s : TypeSymbol)
    (d : InitDelegate) : (g.addInitializer (.ofDelegate s d)).IsPlain ctx := by
  rw [IsPlain, handlers_addInitializer]
  conv_lhs => rw [h]
  simp only [GraphModel.addInitializer, attach, List.append_assoc]

theorem IsPlain.role_eq {g : GraphModel} (h : g.IsPlain ctx) :
    g.role = (plain ctx g.symbol).role := by
  rw [h]
  exact congrArg (fun t => (plain ctx t).role) (symbol_plain ctx g.symbol).symm

/-- Models of different types, each that of its type alone, up to handlers attached to it. -/
structure Attached (ctx : Context) (t : TypeHandle) (gs : List GraphModel) : Prop where
  distinct : (gs.map (·.symbol)).Nodup
  isPlain : ∀ g ∈ gs, g.IsPlain ctx
  /-- All types but the one that is analysed come from the snapshot. -/
  known : ∀ g ∈ gs, g.symbol = t ∨ ctx.Knows g.symbol

theorem Attached.start (ctx : Context) (t : TypeHandle) :
    Attached ctx t (if (plain ctx t).role = .unrelated then [] else [plain ctx t]) := by
  split
  · exact ⟨List.nodup_nil, by simp, by simp⟩
  · exact ⟨List.nodup_singleton _, List.forall_mem_singleton.2 (isPlain_plain ctx t),
      List.forall_mem_singleton.2 (Or.inl (symbol_plain ctx t))⟩

theorem Attached.register {gs : List GraphModel} (h : Attached ctx t gs) (d : InitDelegate) :
    Attached ctx t ((register ctx t gs d).answer ctx.snapshot) := by
  rcases register_cases ctx t gs d with ⟨front, g, back, rfl, -, hregister⟩ |
    ⟨hnone, ⟨target, hfind, -, hprimary, hregister⟩ | ⟨hregister, -⟩⟩
  · obtain ⟨hdistinct, hplain, hknown⟩ := h
    simp only [List.forall_mem_append, List.forall_mem_cons] at hplain hknown
    rw [hregister]
    refine ⟨?_, ?_, ?_⟩
    · rwa [List.map_append, List.map_cons] at hdistinct ⊢
    · simp only [List.forall_mem_append, List.forall_mem_cons]
      exact ⟨hplain.1, hplain.2.1.addInitializer t.symbol d, hplain.2.2⟩
    · simp only [List.forall_mem_append, List.forall_mem_cons]
      exact hknown
  · have hsymbol := symbol_plain ctx ⟨target, .snapshot⟩
    rw [hregister]
    refine ⟨?_, ?_, ?_⟩
    · rw [List.map_append, List.map_singleton, List.nodup_append]
      refine ⟨h.distinct, List.nodup_singleton _, fun u hu v hv huv => ?_⟩
      -- a model of the target would have been found
      obtain ⟨g, hg, rfl⟩ := List.mem_map.1 hu
      have hg' : g.symbol = ⟨target, .snapshot⟩ :=
        huv.trans ((List.mem_singleton.1 hv).trans hsymbol)
      have hrole : g.role = .primary := by
        rw [(h.isPlain g hg).role_eq, hg']
        exact hprimary
      have hfound : g.isGraph d.graph = true := by
        simp [isGraph, hrole, hg', TypeHandle.name, Snapshot.find?_name hfind]
      rw [hnone g hg] at hfound
      cases hfound
    · exact List.forall_mem_append.2 ⟨h.isPlain,
        List.forall_mem_singleton.2 ((isPlain_plain ctx _).addInitializer t.symbol d)⟩
    · refine List.forall_mem_append.2 ⟨h.known, List.forall_mem_singleton.2 (Or.inr ?_)⟩
      exact hsymbol.symm ▸ Context.knows_of_find? hfind
  · rw [hregister]
    exact h

theorem Attached.registrations {gs : List GraphModel} (h : Attached ctx t gs)
    (ds : List InitDelegate) :
    Attached ctx t ((ds.foldlM (GraphModel.register ctx t) gs).answer ctx.snapshot) := by
  induction ds generalizing gs with
  | nil => exact h
  | cons d ds ih =>
    rw [List.foldlM_cons, Analysis.answer_bind]
    exact ih (h.register d)

/-! ## The handlers of one graph -/

/-- The handlers for new instances in the models of a type. -/
def handlersIn (gs : List GraphModel) (graph : TypeHandle) : List Initializer :=
  (gs.filter (·.symbol = graph)).flatMap (·.handlers)

/-- The handlers for a graph that some registrations of a type ask for. -/
def registered (s : TypeSymbol) (ds : List InitDelegate) (graph : String) : List Initializer :=
  (ds.filter (·.graph = graph)).map (.ofDelegate s)

theorem handlersIn_append (gs gs' : List GraphModel) (graph : TypeHandle) :
    handlersIn (gs ++ gs') graph = handlersIn gs graph ++ handlersIn gs' graph := by
  simp only [handlersIn, List.filter_append, List.flatMap_append]

theorem handlersIn_cons_of_ne {g : GraphModel} {graph : TypeHandle} (h : g.symbol ≠ graph)
    (gs : List GraphModel) : handlersIn (g :: gs) graph = handlersIn gs graph := by
  simp only [handlersIn, List.filter_cons, h, decide_false, Bool.false_eq_true, if_false]

theorem handlersIn_cons_of_eq {g : GraphModel} {graph : TypeHandle} (h : g.symbol = graph)
    (gs : List GraphModel) : handlersIn (g :: gs) graph = g.handlers ++ handlersIn gs graph := by
  simp only [handlersIn, List.filter_cons, h, decide_true, if_true, List.flatMap_cons]

theorem handlersIn_eq_nil {gs : List GraphModel} {graph : TypeHandle}
    (h : graph ∉ gs.map (·.symbol)) : handlersIn gs graph = [] := by
  have hnone : gs.filter (·.symbol = graph) = [] := by
    refine List.filter_eq_nil_iff.2 fun g hg hsymbol => h ?_
    exact List.mem_map.2 ⟨g, hg, by simpa using hsymbol⟩
  rw [handlersIn, hnone, List.flatMap_nil]

/-- A graph of the snapshot that is analysed. -/
structure Analysed (ctx : Context) (graph : TypeHandle) : Prop where
  known : ctx.Knows graph
  unsuppressed : ctx.framework.isSuppressed graph.symbol = false
  primary : (plain ctx graph).role = .primary

variable {graph : TypeHandle}

/-- A registration adds its handler to its graph, and no handler to any other graph. -/
theorem handlersIn_register (ht : ctx.Knows t) (hgraph : Analysed ctx graph) {gs : List GraphModel}
    (h : Attached ctx t gs) (d : InitDelegate) :
    handlersIn ((register ctx t gs d).answer ctx.snapshot) graph =
      handlersIn gs graph ++ registered t.symbol [d] graph.name := by
  have hknown : ∀ g ∈ gs, ctx.Knows g.symbol := by
    intro g hg
    rcases h.known g hg with heq | hg
    · rw [heq]; exact ht
    · exact hg
  rcases register_cases ctx t gs d with ⟨front, g, back, rfl, hisGraph, hregister⟩ |
    ⟨-, ⟨target, hfind, -, -, hregister⟩ | ⟨hregister, hother⟩⟩
  · have hname : g.symbol.name = d.graph := by
      simp only [isGraph, Bool.and_eq_true, beq_iff_eq] at hisGraph
      exact hisGraph.2
    have hg : g ∈ front ++ g :: back := List.mem_append_right _ List.mem_cons_self
    rw [hregister, handlersIn_append, handlersIn_append]
    by_cases hd : d.graph = graph.name
    · have hsymbol : g.symbol = graph := (hknown g hg).eq_of_name hgraph.known (hname.trans hd)
      -- it is the only model of the graph
      have hback : handlersIn back graph = [] := by
        refine handlersIn_eq_nil fun hmem => ?_
        have hdistinct := h.distinct
        rw [List.map_append, List.map_cons, List.nodup_append] at hdistinct
        exact (List.nodup_cons.1 hdistinct.2.1).1 (hsymbol ▸ hmem)
      rw [handlersIn_cons_of_eq hsymbol, handlersIn_cons_of_eq (g := g.addInitializer _) hsymbol,
        handlers_addInitializer, hback]
      simp [registered, hd]
    · have hsymbol : g.symbol ≠ graph := fun heq => hd (by rw [← hname, heq])
      rw [handlersIn_cons_of_ne hsymbol, handlersIn_cons_of_ne (g := g.addInitializer _) hsymbol]
      simp [registered, hd]
  · have hname : target.name = d.graph := Snapshot.find?_name hfind
    have hsymbol : ((plain ctx ⟨target, .snapshot⟩).addInitializer
        (.ofDelegate t.symbol d)).symbol = ⟨target, .snapshot⟩ := symbol_plain ctx _
    rw [hregister, handlersIn_append, ← plain]
    by_cases hd : d.graph = graph.name
    · have heq : (⟨target, .snapshot⟩ : TypeHandle) = graph :=
        (Context.knows_of_find? hfind).eq_of_name hgraph.known (hname.trans hd)
      rw [handlersIn_cons_of_eq (hsymbol.trans heq), handlers_addInitializer, handlers_plain]
      simp [registered, hd, handlersIn]
    · have hne : (⟨target, .snapshot⟩ : TypeHandle) ≠ graph := by
        rintro rfl
        exact hd hname.symm
      rw [handlersIn_cons_of_ne fun heq => hne (hsymbol.symm.trans heq)]
      simp [registered, hd, handlersIn]
  · rw [hregister]
    by_cases hd : d.graph = graph.name
    · -- the graph is known, not suppressed and primary, so the handler was not left out
      obtain ⟨symbol, hfind, rfl⟩ := Option.map_eq_some_iff.1 hgraph.known
      rw [← hd] at hfind
      exact absurd hgraph.primary (hother symbol hfind hgraph.unsuppressed)
    · simp [registered, hd]

theorem handlersIn_registrations (ht : ctx.Knows t) (hgraph : Analysed ctx graph)
    (ds : List InitDelegate) {gs : List GraphModel} (h : Attached ctx t gs) :
    handlersIn ((ds.foldlM (register ctx t) gs).answer ctx.snapshot) graph =
      handlersIn gs graph ++ registered t.symbol ds graph.name := by
  induction ds generalizing gs with
  | nil => simp [registered]
  | cons d ds ih =>
    rw [List.foldlM_cons, Analysis.answer_bind, ih (h.register d), handlersIn_register ht hgraph h,
      List.append_assoc]
    simp only [registered, ← List.map_append, ← List.filter_append, List.singleton_append]

theorem answer_infer (ctx : Context) (t : TypeHandle) :
    (infer ctx t).answer ctx.snapshot =
      (t.symbol.initDelegates.foldlM (register ctx t)
        (if (plain ctx t).role = .unrelated then [] else [plain ctx t])).answer ctx.snapshot := by
  rw [infer, Analysis.answer_bind]
  rfl

theorem attached_infer (ctx : Context) (t : TypeHandle) :
    Attached ctx t ((infer ctx t).answer ctx.snapshot) := by
  rw [answer_infer]
  exact (Attached.start ctx t).registrations t.symbol.initDelegates

/-- A type attaches to the model of a graph the handlers that it registers for it. -/
theorem handlersIn_infer (ht : ctx.Knows t) (hgraph : Analysed ctx graph) :
    handlersIn ((infer ctx t).answer ctx.snapshot) graph =
      registered t.symbol t.symbol.initDelegates graph.name := by
  have hstart : handlersIn (if (plain ctx t).role = .unrelated then [] else [plain ctx t]) graph =
      [] := by
    split
    · rfl
    · simp [handlersIn, List.filter_cons, apply_ite, handlers_plain]
  rw [answer_infer, handlersIn_registrations ht hgraph _ (Attached.start ctx t), hstart,
    List.nil_append]

end GraphModel

namespace InstanceCreatedHandlers

theorem answer_collect (ctx : Context) :
    ((collect ctx).answer ctx.snapshot).registrations = ctx.snapshot.types.flatMap ofType := by
  rw [collect, Analysis.answer_bind]
  exact Analysis.answer_foldlM_append (fun _ _ => rfl) ctx.snapshot.types []

/-- The handlers collected for a graph, type by type. -/
theorem forGraph_collect (ctx : Context) (graph : String) :
    ((collect ctx).answer ctx.snapshot).forGraph graph =
      ctx.snapshot.types.flatMap fun s => GraphModel.registered s s.initDelegates graph := by
  rw [forGraph, answer_collect, List.filter_flatMap, List.map_flatMap]
  refine List.flatMap_congr fun s _ => ?_
  rw [ofType, List.filter_map, List.map_map, GraphModel.registered]
  rfl

end InstanceCreatedHandlers

namespace GraphModel

variable {ctx : Context}

/-- What the types of a snapshot attach to the models of a graph (`models`), and the model of the
    graph with all handlers registered for it (`g`), agree on the graph. -/
structure Agrees (ctx : Context) (graph : TypeHandle) (base g : GraphModel)
    (models : TypeHandle → List GraphModel) : Prop where
  /-- No type has two models. -/
  distinct : ∀ s, ((models s).map (·.symbol)).Nodup
  /-- The models of the graph differ from that of the graph alone in the handlers only. -/
  isPlain : ∀ s, ∀ m ∈ models s, m.symbol = graph → m = base.attach m.handlers
  handlers_eq : (ctx.snapshot.types.flatMap fun s => handlersIn (models ⟨s, .snapshot⟩) graph) =
    g.handlers
  /-- No handler is left out. -/
  complete : g.handlers =
    ctx.snapshot.types.flatMap fun s => registered s s.initDelegates graph.name

theorem handlers_withHandlers {handlers : InstanceCreatedHandlers} {t : TypeHandle}
    (hprimary : (plain ctx t).role = .primary)
    (hkind : ∀ i ∈ handlers.forGraph t.name, i.kind = .instanceCreatedDelegate) :
    ((withHandlers ctx handlers t).answer ctx.snapshot).handlers = handlers.forGraph t.name := by
  have hall : (handlers.forGraph t.name).filter (·.kind = .instanceCreatedDelegate) =
      handlers.forGraph t.name := List.filter_eq_self.2 fun i hi => decide_eq_true (hkind i hi)
  have hplain := handlers_plain ctx t
  rw [GraphModel.handlers, initializersOf] at hplain
  rw [withHandlers, Analysis.answer_bind, ← plain, if_pos hprimary, Analysis.answer_pure,
    GraphModel.handlers, initializersOf, List.filter_append, hplain, hall, List.nil_append]

/-- **Type by type and graph by graph, the same handlers are attached to a graph.** -/
theorem infer_agrees_withHandlers {t : TypeSymbol} {h : Hierarchy} (ht : t ∈ ctx.snapshot.types)
    (hunsuppressed : ctx.framework.isSuppressed t = false)
    (hlinearize : (Hierarchy.linearize ctx .graph ⟨t, .snapshot⟩).run ctx.snapshot {} =
      (some h, {})) (hprimary : h.role = .primary) :
    ∃ handlers base g, ∃ models : TypeHandle → List GraphModel,
      (InstanceCreatedHandlers.collect ctx).run ctx.snapshot {} = (some handlers, {}) ∧
      (ofType ctx ⟨t, .snapshot⟩).run ctx.snapshot {} = (some base, {}) ∧
      (withHandlers ctx handlers ⟨t, .snapshot⟩).run ctx.snapshot {} = (some g, {}) ∧
      (∀ s, (infer ctx s).run ctx.snapshot {} = (some (models s), {})) ∧
      Agrees ctx ⟨t, .snapshot⟩ base g models := by
  rw [Analysis.run_quiet, Prod.mk.injEq, Option.some.injEq] at hlinearize
  have hgraph : Analysed ctx ⟨t, .snapshot⟩ := by
    refine ⟨Context.knows_of_mem ht, hunsuppressed, ?_⟩
    obtain ⟨hsymbol, hlinearized⟩ := linearized_ofType ctx ⟨t, .snapshot⟩
    rw [plain, (linearized_iff.1 hlinearized).1, hsymbol, hlinearize.1, hprimary]
  have hforGraph := InstanceCreatedHandlers.forGraph_collect ctx t.name
  have hcomplete : ((withHandlers ctx ((InstanceCreatedHandlers.collect ctx).answer ctx.snapshot)
      ⟨t, .snapshot⟩).answer ctx.snapshot).handlers =
        ctx.snapshot.types.flatMap fun s => registered s s.initDelegates t.name := by
    rw [handlers_withHandlers hgraph.primary]
    · exact hforGraph
    · intro i hi
      rw [TypeHandle.name, hforGraph] at hi
      obtain ⟨s, -, hi⟩ := List.mem_flatMap.1 hi
      obtain ⟨d, -, rfl⟩ := List.mem_map.1 hi
      rfl
  refine ⟨_, _, _, _, Analysis.run_quiet _, Analysis.run_quiet _, Analysis.run_quiet _,
    fun s => Analysis.run_quiet _, ?_⟩
  refine ⟨fun s => (attached_infer ctx s).distinct, ?_, ?_, hcomplete⟩
  · intro s m hm hsymbol
    have hm := (attached_infer ctx s).isPlain m hm
    rw [IsPlain, hsymbol] at hm
    exact hm
  · rw [hcomplete]
    exact List.flatMap_congr fun s hs => handlersIn_infer (Context.knows_of_mem hs) hgraph

/-- A graph that registers a handler for itself, and a type that registers two handlers for it and
    one for a graph that is not there. -/
theorem infer_agrees_withHandlers_orderEntry :
    let graph : TypeSymbol :=
      { name := "OrderEntry"
        base := some { name := "PXGraph" }
        initDelegates := [{ graph := "OrderEntry", delegate := "OnOrder" }] }
    let setup : TypeSymbol :=
      { name := "Setup"
        initDelegates := [
          { graph := "OrderEntry", delegate := "OnFirst" },
          { graph := "InvoiceEntry", delegate := "OnInvoice" },
          { graph := "OrderEntry", delegate := "OnSecond" }] }
    let ctx : Context := { snapshot := { types := [setup, graph], distinct := by decide } }
    ∃ h, (Hierarchy.linearize ctx .graph ⟨graph, .snapshot⟩).run ctx.snapshot {} = (some h, {}) ∧
      h.role = .primary ∧ ctx.framework.isSuppressed graph = false ∧
      ∃ handlers base g, ∃ models : TypeHandle → List GraphModel,
        (InstanceCreatedHandlers.collect ctx).run ctx.snapshot {} = (some handlers, {}) ∧
        (ofType ctx ⟨graph, .snapshot⟩).run ctx.snapshot {} = (some base, {}) ∧
        (withHandlers ctx handlers ⟨graph, .snapshot⟩).run ctx.snapshot {} = (some g, {}) ∧
        (∀ s, (infer ctx s).run ctx.snapshot {} = (some (models s), {})) ∧
        Agrees ctx ⟨graph, .snapshot⟩ base g models ∧
        g.handlers.map (·.name) = ["OnFirst", "OnSecond", "OnOrder"] := by
  intro graph setup ctx
  obtain ⟨handlers, base, g, models, hcollect, hbase, hg, hmodels, hagrees⟩ :=
    infer_agrees_withHandlers (show graph ∈ ctx.snapshot.types from by decide) rfl rfl rfl
  refine ⟨_, rfl, rfl, rfl, handlers, base, g, models, hcollect, hbase, hg, hmodels, hagrees, ?_⟩
  rw [hagrees.complete]
  rfl

end GraphModel

end SnapshotLint

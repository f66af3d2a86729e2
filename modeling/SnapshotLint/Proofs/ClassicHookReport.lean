/-
  What the rule on classic hooks reports of a type.

  * `TypeHandle.lastHooks`: the hooks of a type that no later member of the type replaces.
  * `EventModel.IsModelOf.mem_own_iff`: these are the hooks that the model of a graph has of the
    graph itself, if the graph does not extend itself.
  * `Rule.classicSignature_reports_last`: the rule reports the classic ones among them, whatever the
    layers below hold.
-/
import SnapshotLint.Proofs.TopLayer
import SnapshotLint.Proofs.TypeReport

namespace SnapshotLint

/-! ## The last hooks of a type -/

/-- The last element that passes a test is the one that no later element follows which passes it. -/
theorem getLast?_filter_eq_some_iff {α : Type} {xs : List α} {position : α → Nat}
    (hxs : xs.Pairwise (position · < position ·)) {p : α → Prop} [DecidablePred p] {x : α} :
    (xs.filter (p ·)).getLast? = some x ↔
      x ∈ xs ∧ p x ∧ ∀ y ∈ xs, position x < position y → ¬ p y := by
  have hfilter := hxs.filter (p ·)
  constructor
  · intro hlast
    have hx : x ∈ xs ∧ p x := by simpa using List.mem_filter.1 (List.mem_of_getLast? hlast)
    refine ⟨hx.1, hx.2, fun y hy hlt hp => ?_⟩
    obtain ⟨front, hfront⟩ := List.getLast?_eq_some_iff.1 hlast
    have hmem : y ∈ xs.filter (p ·) := List.mem_filter.2 ⟨hy, decide_eq_true hp⟩
    rw [hfront] at hmem hfilter
    rcases List.mem_append.1 hmem with hmem | hmem
    · have hgt := (List.pairwise_append.1 hfilter).2.2 y hmem x List.mem_cons_self
      omega
    · rw [List.mem_singleton.1 hmem] at hlt
      omega
  · rintro ⟨hx, hp, hlater⟩
    have hmem : x ∈ xs.filter (p ·) := List.mem_filter.2 ⟨hx, decide_eq_true hp⟩
    obtain ⟨front, back, heq⟩ := List.append_of_mem hmem
    cases back with
    | nil => rw [heq, List.getLast?_concat]
    | cons y back =>
      -- an element behind it passes the test and stands later
      have hy : y ∈ xs ∧ p y := by
        have hmem : y ∈ xs.filter (p ·) := by simp [heq]
        simpa using List.mem_filter.1 hmem
      rw [heq] at hfilter
      have hlt := List.rel_of_pairwise_cons (List.pairwise_append.1 hfilter).2.1 List.mem_cons_self
      exact absurd hy.2 (hlater y hy.1 hlt)

namespace TypeHandle

/-- The hooks among the members of a type, in the order of their declarations. -/
def hooks (f : Framework) (t : TypeHandle) : List EventHook :=
  t.members.filterMap (EventHook.ofMember? f)

/-- The hooks of a type that no later member replaces: none is a hook for the same event under the
    same key. -/
def lastHooks (f : Framework) (t : TypeHandle) : List EventHook :=
  (t.hooks f).filter fun h => ∀ h' ∈ t.hooks f, h.member.index < h'.member.index →
    ¬ (h'.kind = h.kind ∧ h'.key = h.key)

variable {f : Framework} {t : TypeHandle} {h : EventHook}

theorem member_of_mem_hooks (hh : h ∈ t.hooks f) :
    h.member ∈ t.members ∧ EventHook.ofMember? f h.member = some h := by
  obtain ⟨m, hm, hhook⟩ := List.mem_filterMap.1 hh
  have hmember : h.member = m := by
    obtain ⟨d, -, rfl⟩ := Option.map_eq_some_iff.1 hhook
    rfl
  rw [hmember]
  exact ⟨hm, hhook⟩

theorem pairwise_hooks (f : Framework) (t : TypeHandle) :
    (t.hooks f).Pairwise (·.member.index < ·.member.index) := by
  rw [hooks, List.pairwise_filterMap]
  refine t.pairwise_members.imp fun {m m'} hlt h hh h' hh' => ?_
  obtain ⟨d, -, rfl⟩ := Option.map_eq_some_iff.1 hh
  obtain ⟨d', -, rfl⟩ := Option.map_eq_some_iff.1 hh'
  exact hlt

theorem nodup_lastHooks (f : Framework) (t : TypeHandle) : (t.lastHooks f).Nodup := by
  have hnodup : (t.hooks f).Nodup :=
    (pairwise_hooks f t).imp fun hlt heq => by
      rw [heq] at hlt
      omega
  exact hnodup.filter _

theorem mem_lastHooks_iff {l : Layer} :
    h ∈ l.type.lastHooks f ↔ l.hook? f h.kind h.key = some h := by
  have hhooks : l.hooks f = l.type.hooks f := rfl
  rw [Layer.hook?, hhooks, getLast?_filter_eq_some_iff (pairwise_hooks f l.type), lastHooks,
    List.mem_filter, decide_eq_true_eq]
  simp only [and_self, true_and]

end TypeHandle

/-! ## The hooks that a model has of its type -/

namespace EventModel

variable {ctx : Context} {t : TypeSymbol}

theorem exists_modelsOf (ht : t ∈ ctx.snapshot.types)
    (hfamily : ctx.InFamily .graph ⟨t, .snapshot⟩) (handlers : InstanceCreatedHandlers) :
    ∃ m, modelsOf ctx handlers t = [m] ∧ IsModelOf ctx t m := by
  obtain ⟨hsymbol, hlinearized⟩ := GraphModel.linearized_withHandlers ctx handlers ⟨t, .snapshot⟩
  have hrole := Context.inFamily_iff.1 hfamily
  rw [← hsymbol, ← (GraphModel.linearized_iff.1 hlinearized).1] at hrole
  have hmodel : ∃ m, modelsOf ctx handlers t = [m] := by
    simp [modelsOf, explicit, Analysis.answer_bind, hrole]
  obtain ⟨m, hm⟩ := hmodel
  exact ⟨m, hm, isModelOf_of_mem ht (hm ▸ List.mem_cons_self)⟩

theorem hook?_eq_map_snd (f : Framework) (kind : EventKind) (key : String) (l : Layer) :
    ((keyed f kind l).filter (·.1 = key)).getLast?.map (·.2) = l.hook? f kind key := by
  have hkeyed := congrArg (Option.map Prod.snd) (getLast?_keyed f kind key l)
  simpa [Option.map_map, Function.comp_def] using hkeyed

/-- The hooks whose owner is the analysed type are the last ones of that type. -/
theorem IsModelOf.mem_own_iff {m : EventModel} (hm : IsModelOf ctx t m)
    (hfamily : ctx.InFamily .graph ⟨t, .snapshot⟩)
    (hself : ¬ ctx.ExtendsItself .graph ⟨t, .snapshot⟩) {h : EventHook} :
    (∃ o ∈ m.allEvents, o.item.member.owner.same m.graph.symbol = true ∧ o.item = h) ↔
      h ∈ TypeHandle.lastHooks ctx.framework ⟨t, .snapshot⟩ := by
  obtain ⟨below, top, hlayers, htop, hbelow⟩ := Hierarchy.exists_top hm.known hfamily hself
  rw [← htop] at hbelow ⊢
  have hpairwise := hm.linearized.pairwise
  have hgraph : m.graph.layers = below ++ [top] := by
    rw [(GraphModel.linearized_iff.1 hm.linearized).2, hm.symbol_eq, hlayers]
  rw [hgraph] at hpairwise
  -- what is stored for an event under a key and owned by the type is its last hook of that kind
  have hstored : ∀ k n x, (∃ o ∈ (Collection.ofLayers (below ++ [top])
      (keyed ctx.framework k)).items, o.name = n ∧ o.item = x ∧
        x.member.owner.same top.type = true) ↔ top.hook? ctx.framework k n = some x := by
    intro k n x
    rw [← hook?_eq_map_snd]
    refine Collection.mem_top_iff hpairwise hbelow (fun h : EventHook => h.member.owner) ?_
    intro l s hs
    obtain ⟨hook, hhook, rfl⟩ := List.mem_map.1 hs
    have hmember := TypeHandle.member_of_mem_hooks (List.mem_filter.1 hhook).1
    exact (TypeHandle.mem_members_iff.1 hmember.1).1
  rw [TypeHandle.mem_lastHooks_iff, ← hstored, hm.symbol_eq, ← htop, hm.eq_ofHooks,
    allEvents_ofHooks, hgraph]
  constructor
  · rintro ⟨o, ho, hsame, rfl⟩
    obtain ⟨k, -, ho⟩ := List.mem_flatMap.1 ho
    obtain ⟨-, hkind, hkey⟩ := mem_hooks_of_mem_keyed hpairwise ho
    rw [hkind, hkey]
    exact ⟨o, ho, rfl, rfl, hsame⟩
  · rintro ⟨o, ho, -, rfl, hsame⟩
    exact ⟨o, List.mem_flatMap.2 ⟨_, EventKind.mem_all _, ho⟩, hsame, rfl⟩

end EventModel

/-! ## What is reported -/

namespace Rule

/-- The classic hooks of a model whose owner is the analysed type. -/
def ownClassicHooks (m : EventModel) : List EventHook :=
  (m.allEvents.filter fun o => o.item.descriptor.shape = .classic &&
    o.item.member.owner.same m.graph.symbol).map (·.item)

theorem found_classicSignature (severity : Severity) (ctx : Context) (m : EventModel) :
    (classicSignature severity).found ctx m =
      (ownClassicHooks m).map (classicSignatureViolation (classicSignatureInfo severity)) := by
  rw [ownClassicHooks, List.map_map, ← List.filterMap_eq_map, List.filterMap_filter]
  refine found_forEach fun o => ?_
  split <;> rfl

theorem found_eq_nil_of_not_applies (severity : Severity) (ctx : Context) {m : EventModel}
    (h : (classicSignature severity).applies m = false) :
    (classicSignature severity).found ctx m = [] := by
  have hempty : m.allEvents = [] := by
    simpa [classicSignature, EventModel.eventCount_eq_length] using h
  rw [found_classicSignature, ownClassicHooks, hempty]
  rfl

theorem perm_ownClassicHooks {ctx : Context} {t : TypeSymbol} {m : EventModel}
    (hm : EventModel.IsModelOf ctx t m) (hfamily : ctx.InFamily .graph ⟨t, .snapshot⟩)
    (hself : ¬ ctx.ExtendsItself .graph ⟨t, .snapshot⟩) :
    (ownClassicHooks m).Perm ((TypeHandle.lastHooks ctx.framework ⟨t, .snapshot⟩).filter
      (·.descriptor.shape = .classic)) := by
  have hnodup : (ownClassicHooks m).Nodup := by
    refine List.Nodup.of_map (·.member) ?_
    rw [ownClassicHooks, List.map_map]
    exact hm.nodup_hooks.sublist (List.filter_sublist.map _)
  rw [List.perm_ext_iff_of_nodup hnodup ((TypeHandle.nodup_lastHooks _ _).filter _)]
  intro h
  rw [List.mem_filter, ← hm.mem_own_iff hfamily hself, decide_eq_true_eq]
  simp only [ownClassicHooks, List.mem_map, List.mem_filter, Bool.and_eq_true, decide_eq_true_eq]
  constructor
  · rintro ⟨o, ⟨ho, hclassic, hsame⟩, rfl⟩
    exact ⟨⟨o, ho, hsame, rfl⟩, hclassic⟩
  · rintro ⟨⟨o, ho, hsame, rfl⟩, hclassic⟩
    exact ⟨o, ⟨ho, hclassic, hsame⟩, rfl⟩

/-- The violations by the last hooks of a type that are classic. Each stands where its hook is
    declared, and names the type. -/
def classicHookViolations (severity : Severity) (f : Framework) (t : TypeHandle) : List Violation :=
  ((t.lastHooks f).filter (·.descriptor.shape = .classic)).map fun h =>
    { code := "EL1041"
      rule := "generic-event-signature"
      severity
      location := h.member.location.getD {}
      message := "Event handler '" ++ h.member.name ++ "' uses the classic signature"
      symbol := some h.member.owner.name
      suggestion := some ("Declare it as `_(" ++ genericParameter h ++ " e)`") }

/-- **The classic hooks that a type declares last are reported, each once.** If a graph or an
    extension of one does not extend itself, the rule reports a member of it if and only if the
    member is a classic hook and no later member of the type is a hook for the same event under the
    same key. Neither what other types declare nor the registered handlers matter. The same is what
    the analysis of the whole snapshot by this rule has to say of the type, unless it is
    suppressed. -/
theorem classicSignature_reports_last (severity : Severity) {ctx : Context} {t : TypeSymbol}
    (ht : t ∈ ctx.snapshot.types) (hfamily : ctx.InFamily .graph ⟨t, .snapshot⟩)
    (hself : ¬ ctx.ExtendsItself .graph ⟨t, .snapshot⟩)
    (hisv : ctx.framework.isvSpecificAnalyzers = true) :
    (∀ handlers sink, ∃ vs, checkInferred [classicSignature severity] ctx
        (Option.toList <$> EventModel.explicit ctx handlers ⟨t, .snapshot⟩) { sink } =
          (.ok 1, { sink := sink ++ vs }) ∧
      vs.Perm (classicHookViolations severity ctx.framework ⟨t, .snapshot⟩)) ∧
    ∀ a : Analyzer, a.rules = .ofGraph (classicSignature severity) →
      a.config.framework = ctx.framework → ctx.framework.isSuppressed t = false →
      ∃ r, a.analyzeSnapshot ctx.snapshot {} = (.ok r, {}) ∧
        (r.violations.filter (·.symbol = some t.name)).Perm
          ((classicHookViolations severity ctx.framework ⟨t, .snapshot⟩).map
            (a.finish ctx.snapshot)) := by
  have hfound : ∀ {m}, EventModel.IsModelOf ctx t m → ((classicSignature severity).found ctx m).Perm
      (classicHookViolations severity ctx.framework ⟨t, .snapshot⟩) := by
    intro m hm
    rw [found_classicSignature]
    exact (perm_ownClassicHooks hm hfamily hself).map _
  refine ⟨fun handlers sink => ?_, fun a ha hframework hsuppressed => ?_⟩
  · obtain ⟨m, hmodels, hm⟩ := EventModel.exists_modelsOf ht hfamily handlers
    rw [← Analyzer.answer_graphModels] at hmodels
    exact ⟨_, checkInferred_singleton (BuiltInGraph.classicSignature severity).observes hmodels hisv
      (found_eq_nil_of_not_applies severity ctx) sink, hfound hm⟩
  · have hctx : a.context ctx.snapshot = ctx := by rw [Analyzer.context, hframework]
    obtain ⟨m, hmodels, hm⟩ := EventModel.exists_modelsOf ht hfamily (a.handlersOf ctx.snapshot)
    rw [← hctx] at hmodels
    rw [← hframework] at hsuppressed hisv
    obtain ⟨r, hr, hviolations⟩ := Analyzer.violations_of_graphRule ht hsuppressed
      (v := classicSignatureSurvey severity) ha hmodels hisv
      (found_eq_nil_of_not_applies severity _)
    rw [hctx] at hviolations
    exact ⟨r, hr, hviolations.trans ((hfound hm).map _)⟩

/-- An extension declares a classic hook and replaces it by a generic one; the graph that it extends
    has the same two classic hooks. Only the hook that is not replaced is reported, and only where
    the extension declares it. -/
theorem classicSignature_reports_last_orderEntryExt :
    let classic (event : String) : Member :=
      { name := "Order_" ++ event, kind := .method
        parameters := [⟨"sender", ⟨"PXCache", []⟩⟩, ⟨"e", ⟨"PX" ++ event ++ "EventArgs", []⟩⟩] }
    let generic : Member :=
      { name := "_", kind := .method
        parameters := [⟨"e", ⟨"Events.RowSelected", [⟨"Order", []⟩]⟩⟩] }
    let graph : TypeSymbol :=
      { name := "OrderEntry", base := some { name := "PXGraph" }
        members := [classic "RowSelected", classic "RowInserted"] }
    let extension : TypeSymbol :=
      { name := "OrderEntryExt"
        base := some { name := "PXGraphExtension", args := [{ name := "OrderEntry" }] }
        members := [classic "RowSelected", classic "RowInserted", generic] }
    let ctx : Context :=
      { snapshot := { types := [graph, extension], distinct := by decide }
        framework := { isvSpecificAnalyzers := true } }
    let a : Analyzer :=
      { root := "/orders", rules := .ofGraph (classicSignature .info), excludes := []
        config := { framework := ctx.framework } }
    let inserted : EventHook :=
      ⟨⟨⟨extension, .snapshot⟩, 1, classic "RowInserted"⟩, ⟨.rowInserted, .classic⟩, some "Order",
        none⟩
    extension ∈ ctx.snapshot.types ∧ ctx.InFamily .graph ⟨extension, .snapshot⟩ ∧
      ¬ ctx.ExtendsItself .graph ⟨extension, .snapshot⟩ ∧
      ctx.framework.isvSpecificAnalyzers = true ∧ ctx.framework.isSuppressed extension = false ∧
      ∃ r, a.analyzeSnapshot ctx.snapshot {} = (.ok r, {}) ∧
        (r.violations.filter (·.symbol = some "OrderEntryExt")).Perm
          ([classicSignatureViolation (classicSignatureInfo .info) inserted].map
            (a.finish ctx.snapshot)) := by
  intro classic generic graph extension ctx a inserted
  let h := (Hierarchy.linearize ctx .graph ⟨extension, .snapshot⟩).answer ctx.snapshot
  have hhierarchy : extension ∈ ctx.snapshot.types ∧ h.role ≠ .unrelated ∧
      ¬ (h.role = .extension ∧ ∃ r ∈ h.rootArgs,
        ⟨extension, .snapshot⟩ ∈ ctx.walkOf (Family.graph.roots ctx.framework) r) ∧
      ctx.framework.isSuppressed extension = false := by
    decide +kernel +revert
  have hreported : classicHookViolations .info ctx.framework ⟨extension, .snapshot⟩ =
      [classicSignatureViolation (classicSignatureInfo .info) inserted] := by
    decide +kernel +revert
  obtain ⟨hmem, hrole, hwalk, hsuppressed⟩ := hhierarchy
  have hfamily := Context.inFamily_iff.2 hrole
  have hself : ¬ ctx.ExtendsItself .graph ⟨extension, .snapshot⟩ := by
    rwa [Hierarchy.extendsItself_iff (Context.knows_of_mem hmem) rfl]
  obtain ⟨-, hanalysis⟩ := classicSignature_reports_last .info hmem hfamily hself rfl
  obtain ⟨r, hr, hviolations⟩ := hanalysis a rfl rfl hsuppressed
  rw [hreported] at hviolations
  exact ⟨hmem, hfamily, hself, rfl, hsuppressed, r, hr, hviolations⟩

end Rule

end SnapshotLint

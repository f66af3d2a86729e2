/-
  The members that the models of a type hold of the type itself.

  A collection has one entry for each name, and the entry is a member of some layer. An entry whose
  owner is the analysed type is therefore a member that the type itself declares, and no member has
  two such entries: `EventModel.IsModelOf.nodup_hooks`, `DacModel.IsModelOf.nodup_declared`.
-/
import SnapshotLint.Proofs.LayeredModel
import SnapshotLint.Proofs.UninterruptedCheck

namespace SnapshotLint

/-! ## Members of a type -/

namespace TypeHandle

theorem mem_members_iff {t : TypeHandle} {m : MemberHandle} :
    m ∈ t.members ↔ m.owner = t ∧ t.symbol.members[m.index]? = some m.member := by
  rw [members, List.mem_map]
  constructor
  · rintro ⟨⟨member, i⟩, hmem, rfl⟩
    exact ⟨rfl, List.mem_zipIdx_iff_getElem?.1 hmem⟩
  · rintro ⟨rfl, hget⟩
    exact ⟨(m.member, m.index), List.mem_zipIdx_iff_getElem?.2 hget, rfl⟩

/-- A member is known by its position. -/
theorem eq_of_index {t : TypeHandle} {m m' : MemberHandle} (hm : m ∈ t.members)
    (hm' : m' ∈ t.members) (h : m.index = m'.index) : m = m' := by
  obtain ⟨howner, hget⟩ := mem_members_iff.1 hm
  obtain ⟨howner', hget'⟩ := mem_members_iff.1 hm'
  rw [h, hget'] at hget
  cases m
  cases m'
  simp_all

theorem map_index_members (t : TypeHandle) :
    t.members.map (·.index) = List.range t.symbol.members.length := by
  simp [members, Function.comp_def, List.range_eq_range']

theorem pairwise_members (t : TypeHandle) : t.members.Pairwise (·.index < ·.index) := by
  rw [← List.pairwise_map, map_index_members]
  exact List.pairwise_lt_range

theorem nodup_members (t : TypeHandle) : t.members.Nodup := by
  refine List.Nodup.of_map (·.index) ?_
  rw [map_index_members]
  exact List.nodup_range

theorem eq_of_same {ctx : Context} {t u : TypeHandle} (ht : ctx.Knows t) (hu : ctx.Knows u)
    (h : t.same u = true) : t = u := by
  simp only [same, Bool.and_eq_true, beq_iff_eq] at h
  exact ht.eq_of_name hu h.2

end TypeHandle

/-! ## Graphs -/

namespace GraphModel

/-- Whether a member is an instance constructor. -/
def isInstanceConstructor (m : MemberHandle) : Bool :=
  m.member.kind = .constructor && !m.member.isStatic

theorem instanceConstructors_addMember (f : Framework) (g : GraphModel) (m : MemberHandle) :
    (g.addMember f m).instanceConstructors =
      g.instanceConstructors ++ [m].filter isInstanceConstructor := by
  unfold addMember
  repeat' split
  all_goals simp_all [isInstanceConstructor]

/-- A model has the instance constructors of its type. -/
theorem instanceConstructors_ofType (ctx : Context) (t : TypeHandle) :
    ((ofType ctx t).answer ctx.snapshot).instanceConstructors.Sublist t.members := by
  have hfold : ∀ (ms : List MemberHandle) (g : GraphModel),
      (ms.foldl (·.addMember ctx.framework ·) g).instanceConstructors =
        g.instanceConstructors ++ ms.filter isInstanceConstructor := by
    intro ms
    induction ms with
    | nil => simp
    | cons m ms ih =>
      intro g
      rw [List.foldl_cons, ih, instanceConstructors_addMember, List.append_assoc,
        ← List.filter_append, List.singleton_append]
  simp only [ofType, Analysis.answer_bind]
  split
  · exact List.nil_sublist _
  · simp only [Analysis.answer_bind, Analysis.answer_pure, Analysis.answer_foldlM, hfold,
      List.nil_append]
    exact List.filter_sublist

end GraphModel

namespace EventModel

/-- A model that a type of the snapshot is analysed with. -/
structure IsModelOf (ctx : Context) (t : TypeSymbol) (m : EventModel) : Prop where
  known : ctx.Knows ⟨t, .snapshot⟩
  symbol_eq : m.graph.symbol = ⟨t, .snapshot⟩
  linearized : m.graph.Linearized ctx
  constructors : m.graph.instanceConstructors.Sublist (TypeHandle.members ⟨t, .snapshot⟩)
  eq_ofHooks : m = ofHooks ctx.framework m.graph

variable {ctx : Context} {t : TypeSymbol}

theorem isModelOf_of_mem {handlers : InstanceCreatedHandlers} {m : EventModel}
    (ht : t ∈ ctx.snapshot.types) (hm : m ∈ modelsOf ctx handlers t) : IsModelOf ctx t m := by
  obtain ⟨hsymbol, hlinearized⟩ := GraphModel.linearized_withHandlers ctx handlers ⟨t, .snapshot⟩
  have hconstructors : ((GraphModel.withHandlers ctx handlers ⟨t, .snapshot⟩).answer
      ctx.snapshot).instanceConstructors.Sublist (TypeHandle.members ⟨t, .snapshot⟩) := by
    simp only [GraphModel.withHandlers, Analysis.answer_bind]
    split <;> exact GraphModel.instanceConstructors_ofType ctx ⟨t, .snapshot⟩
  simp only [modelsOf, explicit, Analysis.answer_bind] at hm
  split at hm
  · simp at hm
  · rw [Analysis.answer_bind, Analysis.answer_pure, answer_ofGraph hlinearized] at hm
    rw [Option.toList_some, List.mem_singleton] at hm
    rw [hm]
    exact ⟨Context.knows_of_mem ht, hsymbol, hlinearized, hconstructors, rfl⟩

variable {m : EventModel} (h : IsModelOf ctx t m)
include h

/-- Every hook is a member of a type of the snapshot. -/
theorem IsModelOf.mem_members {o : Overridable EventHook} (ho : o ∈ m.allEvents) :
    ∃ u : TypeHandle, ctx.Knows u ∧ o.item.member ∈ u.members ∧
      EventHook.ofMember? ctx.framework o.item.member = some o.item ∧ o.item.key = o.name := by
  rw [h.eq_ofHooks, allEvents_ofHooks] at ho
  obtain ⟨k, -, ho⟩ := List.mem_flatMap.1 ho
  obtain ⟨⟨l, hl, hmem⟩, -, hkey⟩ := mem_hooks_of_mem_keyed h.linearized.pairwise ho
  obtain ⟨member, hmember, hhook⟩ := List.mem_filterMap.1 hmem
  have hsame : o.item.member = member := by
    obtain ⟨d, -, heq⟩ := Option.map_eq_some_iff.1 hhook
    rw [← heq]
  rw [(GraphModel.linearized_iff.1 h.linearized).2, h.symbol_eq] at hl
  rw [hsame]
  exact ⟨l.type, Hierarchy.knows_layer h.known hl, hmember, hhook, hkey⟩

/-- No member is listed twice as a hook. -/
theorem IsModelOf.nodup_hooks : (m.allEvents.map (·.item.member)).Nodup := by
  have hlisted : m.listed.Nodup := by
    rw [h.eq_ofHooks]
    exact nodup_listed_ofHooks h.linearized.pairwise
  rw [listed] at hlisted
  refine (List.Nodup.of_map _ hlisted).map_on fun o ho o' ho' hmember => ?_
  -- hooks of one member are the same, and so they are stored in the same place
  obtain ⟨-, -, -, hhook, hkey⟩ := h.mem_members ho
  obtain ⟨-, -, -, hhook', hkey'⟩ := h.mem_members ho'
  have hitem : o.item = o'.item := by
    rw [hmember, hhook'] at hhook
    exact (Option.some.inj hhook).symm
  refine List.inj_on_of_nodup_map hlisted ho ho' ?_
  rw [← hkey, ← hkey', hitem]

/-- A hook whose owner is the analysed type is a member of it. -/
theorem IsModelOf.own {o : Overridable EventHook} (ho : o ∈ m.allEvents)
    (hsame : o.item.member.owner.same m.graph.symbol = true) :
    o.item.member ∈ TypeHandle.members ⟨t, .snapshot⟩ := by
  obtain ⟨u, hu, hmem, -, -⟩ := h.mem_members ho
  rw [(TypeHandle.mem_members_iff.1 hmem).1, h.symbol_eq] at hsame
  rwa [TypeHandle.eq_of_same hu h.known hsame] at hmem

end EventModel

/-! ## Data access classes -/

namespace DacModel

variable {ctx : Context} {t : TypeSymbol}

theorem mem_layerProperties {l : Layer} {n : String} {p : DacProperty}
    (h : (n, p) ∈ (layerProperties ctx l).answer ctx.snapshot) :
    p.member ∈ l.type.members ∧ p.member.member.kind = .property ∧ p.member.name = n := by
  simp only [layerProperties, Analysis.answer_mapM, Analysis.answer_bind, Analysis.answer_pure] at h
  obtain ⟨m, hm, heq⟩ := List.mem_map.1 h
  obtain ⟨hm, hkind⟩ := List.mem_filter.1 hm
  cases heq
  simp only [Bool.and_eq_true, decide_eq_true_eq] at hkind
  exact ⟨hm, hkind.1, rfl⟩

/-- Whether a member is a field class. -/
def isFieldClass (ctx : Context) (m : MemberHandle) : Bool :=
  m.member.kind = .nestedType &&
    m.member.type.any fun t => (isFieldMarker ctx t).answer ctx.snapshot

theorem answer_layerFieldClasses (ctx : Context) (l : Layer) :
    (layerFieldClasses ctx l).answer ctx.snapshot =
      l.type.members.flatMap fun m => if isFieldClass ctx m then [(m.name, m)] else [] := by
  refine Analysis.answer_foldlM_append ?_ l.type.members []
  intro selected m
  unfold isFieldClass
  split
  · next hkind htype =>
    rw [Analysis.answer_bind, hkind, htype]
    split <;> simp_all
  · next hnot =>
    cases htype : m.member.type with
    | none => simp
    | some t =>
      have hkind : m.member.kind ≠ .nestedType := fun hkind => hnot t hkind htype
      simp [hkind]

theorem mem_layerFieldClasses {l : Layer} {n : String} {m : MemberHandle}
    (h : (n, m) ∈ (layerFieldClasses ctx l).answer ctx.snapshot) :
    m ∈ l.type.members ∧ m.member.kind = .nestedType ∧ m.name = n := by
  rw [answer_layerFieldClasses] at h
  obtain ⟨m', hm', hmem⟩ := List.mem_flatMap.1 h
  split at hmem
  · next hclass =>
    cases List.mem_singleton.1 hmem
    simp only [isFieldClass, Bool.and_eq_true, decide_eq_true_eq] at hclass
    exact ⟨hm', hclass.1, rfl⟩
  · cases hmem

/-- A model that a type of the snapshot is analysed with. -/
structure IsModelOf (ctx : Context) (t : TypeSymbol) (d : DacModel) : Prop where
  known : ctx.Knows ⟨t, .snapshot⟩
  symbol_eq : d.symbol = ⟨t, .snapshot⟩
  linearized : d.Linearized ctx
  collected : d.Collected ctx

theorem isModelOf_of_mem {d : DacModel} (ht : t ∈ ctx.snapshot.types) (hd : d ∈ modelsOf ctx t) :
    IsModelOf ctx t d := by
  obtain ⟨hsymbol, hlinearized, hcollected⟩ := collected_ofType ctx ⟨t, .snapshot⟩
  simp only [modelsOf, infer, Analysis.answer_bind, Analysis.answer_pure] at hd
  split at hd
  · cases hd
  · rw [List.mem_singleton.1 hd]
    exact ⟨Context.knows_of_mem ht, hsymbol, hlinearized, hcollected⟩

variable {d : DacModel} (h : IsModelOf ctx t d)
include h

theorem IsModelOf.pairwise : d.layers.Pairwise (·.index < ·.index) := by
  rw [h.linearized.2]
  exact Hierarchy.pairwise_index ctx .dac d.symbol

theorem IsModelOf.knows_layer {l : Layer} (hl : l ∈ d.layers) : ctx.Knows l.type := by
  rw [h.linearized.2, h.symbol_eq] at hl
  exact Hierarchy.knows_layer h.known hl

/-- A member of a layer whose owner is the analysed type is a member of that type. -/
theorem IsModelOf.own {l : Layer} (hl : l ∈ d.layers) {m : MemberHandle} (hm : m ∈ l.type.members)
    (hsame : m.owner.same d.symbol = true) : m ∈ TypeHandle.members ⟨t, .snapshot⟩ := by
  rw [(TypeHandle.mem_members_iff.1 hm).1, h.symbol_eq] at hsame
  rwa [TypeHandle.eq_of_same (h.knows_layer hl) h.known hsame] at hm

theorem IsModelOf.mem_declaredProperties {o : Overridable DacProperty}
    (ho : o ∈ d.declaredProperties) :
    o.item.member ∈ TypeHandle.members ⟨t, .snapshot⟩ ∧ o.item.member.member.kind = .property ∧
      o.item.member.name = o.name := by
  obtain ⟨ho, hsame⟩ := List.mem_filter.1 ho
  rw [h.collected.properties_eq] at ho
  obtain ⟨l, hl, hmem⟩ := Collection.mem_select_of_mem h.pairwise ho
  obtain ⟨hm, hkind, hname⟩ := mem_layerProperties hmem
  exact ⟨h.own hl hm hsame, hkind, hname⟩

theorem IsModelOf.mem_declaredFieldClasses {o : Overridable MemberHandle}
    (ho : o ∈ d.declaredFieldClasses) :
    o.item ∈ TypeHandle.members ⟨t, .snapshot⟩ ∧ o.item.member.kind = .nestedType ∧
      o.item.name = o.name := by
  obtain ⟨ho, hsame⟩ := List.mem_filter.1 ho
  rw [h.collected.fieldClasses_eq] at ho
  obtain ⟨l, hl, hmem⟩ := Collection.mem_select_of_mem h.pairwise ho
  obtain ⟨hm, hkind, hname⟩ := mem_layerFieldClasses hmem
  exact ⟨h.own hl hm hsame, hkind, hname⟩

/-- No member is declared twice: an entry has the name of its member, and a field class is no
    property. -/
theorem IsModelOf.nodup_declared :
    (d.declaredFieldClasses.map (·.item)).Nodup ∧ (d.declaredProperties.map (·.item.member)).Nodup ∧
      (d.declaredFieldClasses.map (·.item)).Disjoint
        (d.declaredProperties.map (·.item.member)) := by
  have hproperties : d.properties.Proper := by
    rw [h.collected.properties_eq]
    exact Collection.proper_ofLayers _ _
  have hfieldClasses : d.fieldClasses.Proper := by
    rw [h.collected.fieldClasses_eq]
    exact Collection.proper_ofLayers _ _
  have hname : ∀ o ∈ d.declaredFieldClasses, o.item.name = o.name :=
    fun o ho => (h.mem_declaredFieldClasses ho).2.2
  have hname' : ∀ o ∈ d.declaredProperties, o.item.member.name = o.name :=
    fun o ho => (h.mem_declaredProperties ho).2.2
  refine ⟨hfieldClasses.nodup_map List.filter_sublist hname,
    hproperties.nodup_map List.filter_sublist hname', fun m hm hm' => ?_⟩
  obtain ⟨o, ho, rfl⟩ := List.mem_map.1 hm
  obtain ⟨o', ho', heq⟩ := List.mem_map.1 hm'
  have hkind := (h.mem_declaredProperties ho').2.1
  rw [heq, (h.mem_declaredFieldClasses ho).2.1] at hkind
  cases hkind

end DacModel

end SnapshotLint

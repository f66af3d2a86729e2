/-
  The members that are in effect.

  Each collection of a model is about the members that qualify for it: views and actions by what
  their types derive from (`IsTyped`), the methods named after them (`IsNamedAfter`), properties
  (`IsProperty`) and field classes (`IsFieldClass`). None of these speaks of how the questions about
  derivation are answered.

  * `Collection.Effective`: the chain of a name holds the last qualifying member of each layer, and
    the names stand in the order in which qualifying members bring them up.
  * `Collection.effective_ofLayers`: this holds of what is collected from layers that ascend, if the
    qualifying members are what is selected from each of them.
  * `members_effective`: it holds of all collections of graphs and data access classes.
-/
import SnapshotLint.Proofs.OwnMember
import SnapshotLint.Proofs.Reachability

namespace SnapshotLint

/-! ## Qualifying members -/

section
variable (ctx : Context)

/-- A field or a property whose type derives from `base`. -/
def IsTyped (base : String) (m : MemberHandle) : Prop :=
  (m.member.kind = .field ∨ m.member.kind = .property) ∧
    ∃ type ∈ m.member.type, ctx.DerivesFrom type.name base

instance (base : String) : DecidablePred (IsTyped ctx base) :=
  fun _ => inferInstanceAs (Decidable (_ ∧ _))

/-- An instance method that is called, up to case, like a typed member of one of the layers. -/
def IsNamedAfter (base : String) (layers : List Layer) (m : MemberHandle) : Prop :=
  m.member.kind = .method ∧ m.member.isStatic = false ∧
    ∃ l ∈ layers, ∃ v ∈ l.type.members, IsTyped ctx base v ∧ Text.eqIgnoreCase v.name m.name = true

instance (base : String) (layers : List Layer) : DecidablePred (IsNamedAfter ctx base layers) :=
  fun _ => inferInstanceAs (Decidable (_ ∧ _ ∧ _))

/-- A nested type that is given a type which derives from the marker of field classes or
    implements it. -/
def IsFieldClass (m : MemberHandle) : Prop :=
  m.member.kind = .nestedType ∧ ∃ type ∈ m.member.type,
    ctx.DerivesFrom type.name ctx.framework.dacField ∨
      ctx.Implements type.name ctx.framework.dacField

instance : DecidablePred (IsFieldClass ctx) := fun _ => inferInstanceAs (Decidable (_ ∧ _))

end

/-- An instance property. -/
def IsProperty (m : MemberHandle) : Prop := m.member.kind = .property ∧ m.member.isStatic = false

instance : DecidablePred IsProperty := fun _ => inferInstanceAs (Decidable (_ ∧ _))

/-- The last member of a type that qualifies and is called `n`. -/
def TypeHandle.last? (p : MemberHandle → Prop) [DecidablePred p] (n : String) (t : TypeHandle) :
    Option MemberHandle :=
  (t.members.filter fun m => m.name = n ∧ p m).getLast?

/-- The last member of a layer that qualifies and is called `n`. -/
def Layer.last? (p : MemberHandle → Prop) [DecidablePred p] (n : String) (l : Layer) :
    Option MemberHandle :=
  l.type.last? p n

/-! ## Collections of qualifying members -/

namespace Collection

variable {α : Type} {c : Collection α} {n : String} {layers : List Layer}

/-- A collection of items with their members holds the qualifying members of the layers. -/
structure Effective (layers : List Layer) (p : MemberHandle → Prop) [DecidablePred p]
    (member : α → MemberHandle) (c : Collection α) : Prop where
  /-- A chain holds the last member of each layer that has one; empty chains are not stored. -/
  chain_eq : ∀ n chain,
    (c.get? n).map (fun o => o.chain.map fun d => (d.layer, member d.item)) = some chain ↔
      chain ≠ [] ∧ chain = layers.filterMap fun l => (l.last? p n).map (l.index, ·)
  /-- The names stand in the order of their first members. -/
  names_eq : c.names =
    (((layers.flatMap (·.type.members)).filter (p ·)).map (·.name)).eraseDups
  /-- What is listed is what is stored. -/
  get?_of_mem : ∀ o ∈ c.items, c.get? o.name = some o

/-- The names stand in the order in which the layers bring them up. -/
theorem names_ofLayers (layers : List Layer) (select : Layer → List (String × α)) :
    (ofLayers layers select).names = ((layers.flatMap select).map (·.1)).eraseDups := by
  rw [ofLayers_eq_ofList, names_ofList, List.map_flatMap, List.map_flatMap]
  simp only [List.map_map, Function.comp_def]

variable {p : MemberHandle → Prop} [DecidablePred p]

/-- Layers that ascend and give their qualifying members give an effective collection. -/
theorem effective_ofLayers (hlayers : layers.Pairwise (·.index < ·.index))
    {select : Layer → List (String × α)} {member : α → MemberHandle} {item : MemberHandle → α}
    (hitem : ∀ m, member (item m) = m)
    (hselect : ∀ l, select l = (l.type.members.filter (p ·)).map fun m => (m.name, item m)) :
    (ofLayers layers select).Effective layers p member := by
  refine ⟨fun n chain => ?_, ?_, fun o ho => (proper_ofLayers layers select).get?_of_mem ho⟩
  · have hlast : ∀ l : Layer,
        (((select l).filter (·.1 = n)).getLast?.map fun s => (l.index, member s.2)) =
          (l.last? p n).map (l.index, ·) := by
      intro l
      rw [hselect, List.filter_map, List.getLast?_map, List.filter_filter, Option.map_map,
        Layer.last?, TypeHandle.last?]
      simp only [Function.comp_def, hitem, Bool.decide_and]
    have hchain : ((ofLayers layers select).chain n).map (fun d => (d.1, member d.2)) =
        layers.filterMap fun l => (l.last? p n).map (l.index, ·) := by
      rw [chain_ofLayers hlayers, List.map_filterMap]
      simp only [Option.map_map, Function.comp_def, hlast]
    rw [← hchain, ← map_get?_eq_some_iff]
    simp only [Overridable.layered, List.map_map, Function.comp_def]
  · rw [names_ofLayers, List.filter_flatMap, List.map_flatMap, List.map_flatMap]
    simp only [hselect, List.map_map, Function.comp_def]

theorem Effective.mem_names {member : α → MemberHandle} (h : c.Effective layers p member) :
    n ∈ c.names ↔ ∃ l ∈ layers, ∃ m ∈ l.type.members, p m ∧ m.name = n := by
  simp only [h.names_eq, List.mem_eraseDups, List.mem_map, List.mem_filter, List.mem_flatMap,
    decide_eq_true_eq]
  constructor
  · rintro ⟨m, ⟨⟨l, hl, hm⟩, hp⟩, hname⟩
    exact ⟨l, hl, m, hm, hp, hname⟩
  · rintro ⟨l, hl, m, hm, hp, hname⟩
    exact ⟨m, ⟨⟨l, hl, hm⟩, hp⟩, hname⟩

/-- The members of a chain are the last ones of each layer. -/
theorem Effective.map_declarations {member : α → MemberHandle} (h : c.Effective layers p member)
    (n : String) :
    (c.declarations n).map (fun x => member x.item) = layers.filterMap (Layer.last? p n) := by
  have hsnd : layers.filterMap (Layer.last? p n) =
      (layers.filterMap fun l => (l.last? p n).map (l.index, ·)).map Prod.snd := by
    simp only [List.map_filterMap, Option.map_map, Function.comp_def, Option.map_id']
  rw [declarations, hsnd]
  cases hget : c.get? n with
  | none =>
    have hnil : (layers.filterMap fun l => (l.last? p n).map (l.index, ·)) = [] := by
      by_contra hne
      have hsome := (h.chain_eq n _).2 ⟨hne, rfl⟩
      rw [hget] at hsome
      cases hsome
    rw [hnil]
    rfl
  | some o =>
    obtain ⟨-, hchain⟩ := (h.chain_eq n _).1 (congrArg (Option.map _) hget)
    rw [← hchain, List.map_map]
    rfl

end Collection

/-! ## What is selected from a layer -/

theorem flatMap_ite_singleton {α β : Type} (p : α → Prop) [DecidablePred p] (f : α → β)
    (xs : List α) :
    (xs.flatMap fun x => if p x then [f x] else []) = (xs.filter (p ·)).map f := by
  induction xs with
  | nil => rfl
  | cons x xs ih =>
    rw [List.flatMap_cons, ih]
    by_cases h : p x <;> simp [h]

namespace GraphModel

variable {ctx : Context} {base : String} {layers : List Layer}

theorem answer_typedMembers (ctx : Context) (base : String) (l : Layer) :
    (typedMembers ctx base l).answer ctx.snapshot =
      (l.type.members.filter (IsTyped ctx base ·)).map fun m => (m.name, m) := by
  rw [← flatMap_ite_singleton]
  refine Analysis.answer_foldlM_append ?_ l.type.members []
  intro selected m
  have hask : ∀ type, m.member.kind = .field ∨ m.member.kind = .property →
      m.member.type = some type →
      ((ctx.derives type.name base).answer ctx.snapshot = true ↔ IsTyped ctx base m) := by
    intro type hkind htype
    rw [Context.derives, Analysis.answer_query, ctx.derivesWalk_iff]
    simp [IsTyped, hkind, htype]
  split
  · next type hkind htype =>
    rw [Analysis.answer_bind]
    simp only [hask type (.inl hkind) htype]
    split <;> simp
  · next type hkind htype =>
    rw [Analysis.answer_bind]
    simp only [hask type (.inr hkind) htype]
    split <;> simp
  · next hfield hproperty =>
    have hnot : ¬ IsTyped ctx base m := by
      rintro ⟨hkind | hkind, type, htype, -⟩
      · exact hfield type hkind htype
      · exact hproperty type hkind htype
    simp [hnot]

theorem effective_typedMembers (ctx : Context) (base : String)
    (hlayers : layers.Pairwise (·.index < ·.index)) :
    (Collection.ofLayers layers fun l => (typedMembers ctx base l).answer ctx.snapshot).Effective
      layers (IsTyped ctx base) id :=
  Collection.effective_ofLayers hlayers (fun _ => rfl) (answer_typedMembers ctx base)

/-- The names to go by are those of all typed members, so that a method finds the members of newer
    layers, too. -/
theorem effective_methodsNamedAfter (hlayers : layers.Pairwise (·.index < ·.index))
    {named : Collection MemberHandle} (hnamed : named.Effective layers (IsTyped ctx base) id) :
    (Collection.ofLayers layers (methodsNamedAfter named.names)).Effective
      layers (IsNamedAfter ctx base layers) id := by
  refine Collection.effective_ofLayers hlayers (fun _ => rfl) fun l => ?_
  rw [methodsNamedAfter]
  congr 1
  refine List.filter_congr fun m _ => ?_
  have hany : (∃ name ∈ named.names, Text.eqIgnoreCase name m.name = true) ↔
      ∃ l ∈ layers, ∃ v ∈ l.type.members,
        IsTyped ctx base v ∧ Text.eqIgnoreCase v.name m.name = true := by
    constructor
    · rintro ⟨name, hname, heq⟩
      obtain ⟨l, hl, v, hv, htyped, rfl⟩ := hnamed.mem_names.1 hname
      exact ⟨l, hl, v, hv, htyped, heq⟩
    · rintro ⟨l, hl, v, hv, htyped, heq⟩
      exact ⟨v.name, hnamed.mem_names.2 ⟨l, hl, v, hv, htyped, rfl⟩, heq⟩
  rw [Bool.eq_iff_iff, decide_eq_true_eq]
  simp [IsNamedAfter, ← hany, and_assoc]

end GraphModel

namespace DacModel

variable {ctx : Context}

theorem answer_layerProperties (ctx : Context) (l : Layer) :
    (layerProperties ctx l).answer ctx.snapshot =
      (l.type.members.filter (IsProperty ·)).map fun m =>
        (m.name, ⟨m, (BoundType.declared ctx m.member.attributes).answer ctx.snapshot⟩) := by
  simp only [layerProperties, Analysis.answer_mapM, Analysis.answer_bind, Analysis.answer_pure]
  congr 1
  refine List.filter_congr fun m _ => ?_
  rw [Bool.eq_iff_iff, decide_eq_true_eq]
  simp [IsProperty]

theorem isFieldMarker_iff (ctx : Context) (type : TypeRef) :
    (isFieldMarker ctx type).answer ctx.snapshot = true ↔
      ctx.DerivesFrom type.name ctx.framework.dacField ∨
        ctx.Implements type.name ctx.framework.dacField := by
  rw [← ctx.derivesWalk_iff, ← ctx.implementsWalk_iff]
  simp only [isFieldMarker, Context.derives, Context.implements, Analysis.answer_bind,
    Analysis.answer_query]
  by_cases h : (ctx.derivesWalk type.name ctx.framework.dacField).answer ctx.snapshot = true
  · simp [h]
  · simp [h]

theorem isFieldClass_iff {m : MemberHandle} : isFieldClass ctx m = true ↔ IsFieldClass ctx m := by
  simp only [isFieldClass, IsFieldClass, Bool.and_eq_true, decide_eq_true_eq, ← isFieldMarker_iff]
  cases m.member.type <;> simp

end DacModel

/-! ## The collections of models -/

/-- **The members in effect.** Models of graphs and of data access classes have the layers of their
    types, which ascend. In each of their collections, the chain of a name holds the last member of
    each layer that has the name and qualifies, names that no such member has are absent, and the
    others stand in the order of their first such members. A method is named after a view or an
    action of any layer, be it older or newer than its own. -/
theorem members_effective (ctx : Context) (t : TypeHandle) :
    (∃ h g, (Hierarchy.linearize ctx .graph t).run ctx.snapshot {} = (some h, {}) ∧
      (GraphModel.ofType ctx t).run ctx.snapshot {} = (some g, {}) ∧
      g.layers = h.layers ∧ g.layers.Pairwise (·.index < ·.index) ∧
      g.views.Effective g.layers (IsTyped ctx ctx.framework.view) id ∧
      g.actions.Effective g.layers (IsTyped ctx ctx.framework.action) id ∧
      g.viewDelegates.Effective g.layers (IsNamedAfter ctx ctx.framework.view g.layers) id ∧
      g.actionHandlers.Effective g.layers (IsNamedAfter ctx ctx.framework.action g.layers) id) ∧
    ∃ h d, (Hierarchy.linearize ctx .dac t).run ctx.snapshot {} = (some h, {}) ∧
      (DacModel.ofType ctx t).run ctx.snapshot {} = (some d, {}) ∧
      d.layers = h.layers ∧ d.layers.Pairwise (·.index < ·.index) ∧
      d.properties.Effective d.layers IsProperty DacProperty.member ∧
      d.fieldClasses.Effective d.layers (IsFieldClass ctx) id := by
  constructor
  · obtain ⟨hsymbol, hlinearized⟩ := GraphModel.linearized_ofType ctx t
    have hcollected := GraphModel.collected_ofType ctx t
    obtain ⟨-, hlayers⟩ := GraphModel.linearized_iff.1 hlinearized
    rw [hsymbol] at hlayers
    have hpairwise := hlinearized.pairwise
    have hviews := GraphModel.effective_typedMembers ctx ctx.framework.view hpairwise
    have hactions := GraphModel.effective_typedMembers ctx ctx.framework.action hpairwise
    rw [← hcollected.views_eq] at hviews
    rw [← hcollected.actions_eq] at hactions
    refine ⟨_, _, Analysis.run_quiet _, Analysis.run_quiet _, hlayers, hpairwise, hviews, hactions,
      ?_, ?_⟩
    · rw [hcollected.viewDelegates_eq]
      exact GraphModel.effective_methodsNamedAfter hpairwise hviews
    · rw [hcollected.actionHandlers_eq]
      exact GraphModel.effective_methodsNamedAfter hpairwise hactions
  · obtain ⟨hsymbol, hlinearized, hcollected⟩ := DacModel.collected_ofType ctx t
    have hlayers := hlinearized.2
    rw [hsymbol] at hlayers
    have hpairwise : ((DacModel.ofType ctx t).answer ctx.snapshot).layers.Pairwise
        (·.index < ·.index) := by
      rw [hlayers]
      exact Hierarchy.pairwise_index ctx .dac t
    refine ⟨_, _, Analysis.run_quiet _, Analysis.run_quiet _, hlayers, hpairwise, ?_, ?_⟩
    · rw [hcollected.properties_eq]
      exact Collection.effective_ofLayers hpairwise (fun _ => rfl)
        (DacModel.answer_layerProperties ctx)
    · rw [hcollected.fieldClasses_eq]
      refine Collection.effective_ofLayers hpairwise (fun _ => rfl) fun l => ?_
      rw [DacModel.answer_layerFieldClasses, ← flatMap_ite_singleton]
      simp only [DacModel.isFieldClass_iff]

end SnapshotLint

/-
  Whether properties are stored.

  What the attributes of one declaration decide is a matter of which of them there are, not of their
  order (`BoundType.ofAttributes`). Among the declarations of a property, a data access class goes
  by the newest one, and an extension by the newest one that decides anything
  (`BoundType.firstDecision`).

  * `BoundType.answer_declared`: declarations are classified by `BoundType.ofAttributes`.
  * `DacModel.Settled.boundType_of_primary`, `DacModel.Settled.boundType_of_extension`: which
    declaration of a property counts; `DacModel.Settled.firstDecision_bounds`: how this reads in
    terms of layers.
  * `DacModel.Settled.boundType_eq_target`: what an entity decides holds in its extensions as long
    as their own layers decide nothing.
  * `DacModel.ofType_boundTypes`: all of this for the models of types.
-/
import SnapshotLint.Proofs.ConservativeExtension
import SnapshotLint.Proofs.EffectiveMember

namespace SnapshotLint

/-! ## The attributes of a declaration -/

namespace Attribute

/-- An argument of the attribute says, by a truth value or in words, whether the field is stored. -/
def Says (f : Framework) (a : Attribute) (stored : Bool) : Prop :=
  a.named.find? f.isDbFieldArgument = some (.bool stored) ∨
    a.named.find? f.isDbFieldArgument = some (.str (if stored then "true" else "false"))

instance (f : Framework) (a : Attribute) (stored : Bool) : Decidable (a.Says f stored) :=
  inferInstanceAs (Decidable (_ ∨ _))

theorem dbFieldOverride?_eq_some_iff {f : Framework} {a : Attribute} {stored : Bool} :
    a.dbFieldOverride? f = some stored ↔ a.Says f stored := by
  unfold dbFieldOverride? Says
  split
  · next b heq => simp [heq]
  · next heq => cases stored <;> simp [heq]
  · next heq => cases stored <;> simp [heq]
  · next hbool htrue hfalse =>
    simp only [reduceCtorEq, false_iff, not_or]
    refine ⟨hbool stored, ?_⟩
    cases stored
    · exact hfalse
    · exact htrue

theorem dbFieldOverride?_eq_none_iff {f : Framework} {a : Attribute} :
    a.dbFieldOverride? f = none ↔ ¬ ∃ stored, a.Says f stored := by
  simp only [← dbFieldOverride?_eq_some_iff, Option.eq_none_iff_forall_ne_some, not_exists, ne_eq]

section
variable (ctx : Context) (a : Attribute)

/-- The attribute makes a field stored: an argument says so, or no argument says anything and the
    attribute is of the family of stored fields. -/
def Stores : Prop :=
  a.Says ctx.framework true ∨ (¬ ∃ stored, a.Says ctx.framework stored) ∧
    ctx.DerivesFrom a.typeName ctx.framework.dbFieldAttribute

/-- The attribute makes a field not stored: an argument says so, or the attribute is of one of the
    families of fields that are not stored. -/
def Unstores : Prop :=
  a.Says ctx.framework false ∨
    ∃ family ∈ ctx.framework.unboundFieldAttributes, ctx.DerivesFrom a.typeName family

instance : DecidablePred (Stores ctx) := fun _ => inferInstanceAs (Decidable (_ ∨ _))

instance : DecidablePred (Unstores ctx) := fun _ => inferInstanceAs (Decidable (_ ∨ _))

end

variable {ctx : Context} {a : Attribute}

theorem isBound_iff : (a.isBound ctx).answer ctx.snapshot = true ↔ a.Stores ctx := by
  unfold isBound Stores
  split
  · next stored h =>
    have hsays := dbFieldOverride?_eq_some_iff.1 h
    have htrue : a.Says ctx.framework true ↔ stored = true := by
      rw [← dbFieldOverride?_eq_some_iff, h, Option.some.injEq]
    rw [Analysis.answer_pure, htrue]
    exact ⟨.inl, fun h => h.elim id fun ⟨hnone, _⟩ => absurd ⟨stored, hsays⟩ hnone⟩
  · next h =>
    have hnone := dbFieldOverride?_eq_none_iff.1 h
    rw [Context.derives, Analysis.answer_query, ctx.derivesWalk_iff]
    exact ⟨fun hderives => .inr ⟨hnone, hderives⟩,
      fun h => h.elim (fun hsays => absurd ⟨true, hsays⟩ hnone) And.right⟩

/-- An attribute that does not make a field stored is asked the other question. -/
theorem isUnbound_iff (hstores : ¬ a.Stores ctx) :
    (a.isUnbound ctx).answer ctx.snapshot = true ↔ a.Unstores ctx := by
  unfold isUnbound Unstores
  split
  · next stored h =>
    have hsays := dbFieldOverride?_eq_some_iff.1 h
    cases stored with
    | true => exact absurd (.inl hsays) hstores
    | false => exact iff_of_true rfl (.inl hsays)
  · next h =>
    have hnone := dbFieldOverride?_eq_none_iff.1 h
    rw [Analysis.answer_anyM, List.any_eq_true]
    simp only [Context.derives, Analysis.answer_query, ctx.derivesWalk_iff]
    exact ⟨.inr, fun h => h.resolve_left fun hsays => hnone ⟨false, hsays⟩⟩

end Attribute

namespace BoundType

/-- What attributes decide together; being stored prevails. -/
def ofAttributes (ctx : Context) (attributes : List Attribute) : BoundType :=
  if ∃ a ∈ attributes, a.Stores ctx then .dbBound
  else if ∃ a ∈ attributes, a.Unstores ctx then .unbound
  else .notDefined

variable {ctx : Context}

theorem ofAttributes_perm {as bs : List Attribute} (h : as.Perm bs) :
    ofAttributes ctx as = ofAttributes ctx bs := by
  simp only [ofAttributes, h.mem_iff]

theorem answer_declared (ctx : Context) (attributes : List Attribute) :
    (declared ctx attributes).answer ctx.snapshot = ofAttributes ctx attributes := by
  have hbound : (attributes.any fun a => (a.isBound ctx).answer ctx.snapshot) = true ↔
      ∃ a ∈ attributes, a.Stores ctx := by
    simp only [List.any_eq_true, Attribute.isBound_iff]
  simp only [declared, ofAttributes, Analysis.answer_bind, Analysis.answer_anyM, hbound]
  split
  · rfl
  · next hstores =>
    have hunbound : (attributes.any fun a => (a.isUnbound ctx).answer ctx.snapshot) = true ↔
        ∃ a ∈ attributes, a.Unstores ctx := by
      rw [List.any_eq_true]
      refine exists_congr fun a => and_congr_right fun ha => ?_
      exact Attribute.isUnbound_iff fun h => hstores ⟨a, ha, h⟩
    simp only [Analysis.answer_bind, Analysis.answer_anyM, hunbound]
    split <;> rfl

/-! ## The first decision -/

/-- The first of several classifications that is a decision. -/
def firstDecision (bs : List BoundType) : BoundType :=
  (bs.find? (· ≠ .notDefined)).getD .notDefined

theorem firstDecision_cons (b : BoundType) (bs : List BoundType) :
    firstDecision (b :: bs) = if b = .notDefined then firstDecision bs else b := by
  by_cases h : b = .notDefined <;> simp [firstDecision, h]

theorem firstDecision_append_of_forall {bs cs : List BoundType} (h : ∀ b ∈ bs, b = .notDefined) :
    firstDecision (bs ++ cs) = firstDecision cs := by
  induction bs with
  | nil => rfl
  | cons b bs ih =>
    rw [List.cons_append, firstDecision_cons, if_pos (h b List.mem_cons_self)]
    exact ih fun b hb => h b (List.mem_cons_of_mem _ hb)

/-- A decision in front counts. -/
theorem firstDecision_eq_head {bs : List BoundType} (h : bs.head?.getD .notDefined ≠ .notDefined) :
    firstDecision bs = bs.head?.getD .notDefined := by
  cases bs with
  | nil => exact absurd rfl h
  | cons b bs => exact (firstDecision_cons b bs).trans (if_neg h)

section
variable {α β : Type}

/-- What decides nothing may be left out. -/
theorem firstDecision_map_filter {f : α → BoundType} {keep : α → Bool} {xs : List α}
    (h : ∀ x ∈ xs, keep x = false → f x = .notDefined) :
    firstDecision ((xs.filter keep).map f) = firstDecision (xs.map f) := by
  induction xs with
  | nil => rfl
  | cons x xs ih =>
    have ih := ih fun y hy => h y (List.mem_cons_of_mem _ hy)
    cases hkeep : keep x with
    | true =>
      rw [List.filter_cons_of_pos hkeep, List.map_cons, List.map_cons, firstDecision_cons,
        firstDecision_cons, ih]
    | false =>
      rw [List.filter_cons_of_neg (by simp [hkeep]), List.map_cons, firstDecision_cons,
        if_pos (h x List.mem_cons_self hkeep), ih]

/-- What is missing decides nothing. -/
theorem firstDecision_map_filterMap (g : α → Option β) (f : β → BoundType) (xs : List α) :
    firstDecision ((xs.filterMap g).map f) =
      firstDecision (xs.map fun x => ((g x).map f).getD .notDefined) := by
  induction xs with
  | nil => rfl
  | cons x xs ih =>
    rw [List.map_cons, firstDecision_cons]
    cases hx : g x with
    | none => rw [List.filterMap_cons_none hx, ih]; rfl
    | some y =>
      rw [List.filterMap_cons_some hx, List.map_cons, firstDecision_cons, ih]
      rfl

end

theorem answer_firstDecided (ctx : Context) (declarations : List (List Attribute)) :
    (firstDecided ctx declarations).answer ctx.snapshot =
      firstDecision (declarations.map (ofAttributes ctx)) := by
  induction declarations with
  | nil => rfl
  | cons attributes rest ih =>
    rw [firstDecided, Analysis.answer_bind, answer_declared, List.map_cons, firstDecision_cons]
    split
    · exact ih
    · rfl

end BoundType

/-! ## The declarations of a property -/

/-- What a layer decides about a property; nothing, if it does not declare it. -/
def Layer.decision (ctx : Context) (property : String) (l : Layer) : BoundType :=
  ((l.last? IsProperty property).map fun m =>
    BoundType.ofAttributes ctx m.member.attributes).getD .notDefined

namespace DacModel

variable {ctx : Context} {d : DacModel} {p : String}

/-- What the declarations of a property decide, the newest first. -/
def bounds (ctx : Context) (d : DacModel) (p : String) : List BoundType :=
  (d.properties.declarations p).reverse.map fun x => .ofAttributes ctx x.item.attributes

/-- What is known of the properties of a model once it is finished. -/
structure Settled (ctx : Context) (d : DacModel) : Prop where
  proper : d.properties.Proper
  effective : d.properties.Effective d.layers IsProperty DacProperty.member
  /-- A declaration is classified by its own attributes. -/
  declaredBound_eq : ∀ o ∈ d.properties.items, ∀ x ∈ o.chain,
    x.item.declaredBound = .ofAttributes ctx x.item.attributes
  /-- A property has what is resolved from its declarations. -/
  boundType_eq : ∀ p, d.boundType p = ((d.properties.get? p).map fun o =>
    (BoundType.resolve ctx DacProperty.attributes d.role o).answer ctx.snapshot).getD .notDefined

namespace Settled

theorem bounds_of_get? (h : d.Settled ctx) {o : Overridable DacProperty}
    (hget : d.properties.get? p = some o) : d.bounds ctx p =
      (o.thisAndOverridden.map DacProperty.attributes).map (BoundType.ofAttributes ctx) := by
  rw [bounds, Collection.declarations, hget, Option.map_some, Option.getD_some,
    Overridable.reverse_chain (h.proper.newest o (Collection.mem_of_get? hget).1)]
  simp only [Overridable.thisAndOverridden, Overridable.item, List.map_cons, List.map_map,
    Function.comp_def]

theorem bounds_of_none (hget : d.properties.get? p = none) : d.bounds ctx p = [] := by
  rw [bounds, Collection.declarations, hget]
  rfl

/-- In a data access class, the newest declaration counts. -/
theorem boundType_of_primary (h : d.Settled ctx) (hrole : d.role = .primary) (p : String) :
    d.boundType p = (d.bounds ctx p).head?.getD .notDefined := by
  rw [h.boundType_eq, hrole]
  cases hget : d.properties.get? p with
  | none => rw [bounds_of_none hget]; rfl
  | some o =>
    rw [h.bounds_of_get? hget]
    exact BoundType.answer_declared ctx o.item.attributes

/-- In an extension, the newest declaration that decides anything counts. -/
theorem boundType_of_extension (h : d.Settled ctx) (hrole : d.role = .extension) (p : String) :
    d.boundType p = .firstDecision (d.bounds ctx p) := by
  rw [h.boundType_eq, hrole]
  cases hget : d.properties.get? p with
  | none => rw [bounds_of_none hget]; rfl
  | some o =>
    rw [h.bounds_of_get? hget]
    exact BoundType.answer_firstDecided ctx _

theorem bounds_of_mem (h : d.Settled ctx) {o : Overridable DacProperty}
    (ho : o ∈ d.properties.items) :
    d.bounds ctx o.name = o.chain.reverse.map (·.item.declaredBound) := by
  rw [bounds, Collection.declarations, h.proper.get?_of_mem ho]
  exact List.map_congr_left fun x hx => (h.declaredBound_eq o ho x (List.mem_reverse.1 hx)).symm

/-- The declarations of a property decide what the layers decide. -/
theorem firstDecision_bounds (h : d.Settled ctx) (p : String) :
    BoundType.firstDecision (d.bounds ctx p) =
      .firstDecision (d.layers.reverse.map (Layer.decision ctx p)) := by
  have hbounds : d.bounds ctx p = (d.layers.reverse.filterMap (Layer.last? IsProperty p)).map
      fun m => .ofAttributes ctx m.member.attributes := by
    rw [bounds, List.filterMap_reverse, ← h.effective.map_declarations, List.map_reverse,
      List.map_reverse, List.map_map]
    rfl
  rw [hbounds, BoundType.firstDecision_map_filterMap]
  rfl

/-- What an entity decides about a property holds in an extension that has its layers and, above
    them, layers that decide nothing. -/
theorem boundType_eq_target {e : DacModel} (hd : d.Settled ctx) (hprimary : d.role = .primary)
    (he : e.Settled ctx) (hextension : e.role = .extension) (hpre : d.layers <+: e.layers)
    (habove : ∀ l ∈ e.layers.drop d.layers.length, l.decision ctx p = .notDefined)
    (hdecided : d.boundType p ≠ .notDefined) : e.boundType p = d.boundType p := by
  obtain ⟨above, hlayers⟩ := hpre
  rw [← hlayers, List.drop_left] at habove
  have hskip : ∀ b ∈ above.reverse.map (Layer.decision ctx p), b = .notDefined := by
    intro b hb
    obtain ⟨l, hl, rfl⟩ := List.mem_map.1 hb
    exact habove l (List.mem_reverse.1 hl)
  rw [hd.boundType_of_primary hprimary] at hdecided ⊢
  calc e.boundType p
      = .firstDecision (e.layers.reverse.map (Layer.decision ctx p)) := by
        rw [he.boundType_of_extension hextension, he.firstDecision_bounds]
    _ = .firstDecision (d.layers.reverse.map (Layer.decision ctx p)) := by
        rw [← hlayers, List.reverse_append, List.map_append,
          BoundType.firstDecision_append_of_forall hskip]
    _ = (d.bounds ctx p).head?.getD .notDefined := by
        rw [← hd.firstDecision_bounds, BoundType.firstDecision_eq_head hdecided]

end Settled

/-! ## Models -/

theorem dac_ofType (ctx : Context) (t : TypeHandle) :
    ((ofType ctx t).answer ctx.snapshot).dac =
      ((Hierarchy.linearize ctx .dac t).answer ctx.snapshot).target := by
  simp only [ofType, Analysis.answer_bind]
  split
  · rfl
  · simp only [Analysis.answer_bind, Analysis.answer_pure]

/-- The layers of an entity come first in the models of its extensions. -/
theorem layers_ofType_of_target {t t' : TypeHandle}
    (hprimary : ((ofType ctx t).answer ctx.snapshot).role = .primary)
    (hextension : ((ofType ctx t').answer ctx.snapshot).role = .extension)
    (hdac : ((ofType ctx t').answer ctx.snapshot).dac = some t) :
    ((ofType ctx t).answer ctx.snapshot).layers <+:
      ((ofType ctx t').answer ctx.snapshot).layers := by
  obtain ⟨hsymbol, ⟨hrole, hlayers⟩, -⟩ := collected_ofType ctx t
  obtain ⟨hsymbol', ⟨hrole', hlayers'⟩, -⟩ := collected_ofType ctx t'
  rw [hsymbol] at hrole hlayers
  rw [hsymbol'] at hrole' hlayers'
  rw [hprimary] at hrole
  rw [hextension] at hrole'
  -- the extended class is the target, which the last argument of the root refers to
  rw [dac_ofType, Hierarchy.target_of_extension rfl hrole'.symm] at hdac
  obtain ⟨r, hr, hresolve⟩ := Option.bind_eq_some_iff.1 hdac
  rw [hlayers, hlayers']
  exact Hierarchy.layers_prefix rfl hrole'.symm hr hresolve rfl hrole.symm

/-- The table of a model is made from its properties. -/
theorem boundType_ofType (ctx : Context) (t : TypeHandle) (p : String) :
    ((ofType ctx t).answer ctx.snapshot).boundType p =
      ((((ofType ctx t).answer ctx.snapshot).properties.get? p).map fun o =>
        (BoundType.resolve ctx DacProperty.attributes ((ofType ctx t).answer ctx.snapshot).role
          o).answer ctx.snapshot).getD .notDefined := by
  set h := (Hierarchy.linearize ctx .dac t).answer ctx.snapshot with hh
  by_cases hunrelated : h.role = .unrelated
  · simp only [ofType, Analysis.answer_bind, ← hh, if_pos hunrelated, Analysis.answer_pure]
    rfl
  · simp only [ofType, Analysis.answer_bind, ← hh, if_neg hunrelated, Analysis.answer_pure,
      boundType, resolveAll, Analysis.answer_mapM, Collection.lookup_map_name]

theorem settled_ofType (ctx : Context) (t : TypeHandle) :
    ((ofType ctx t).answer ctx.snapshot).Settled ctx := by
  have hboundType := boundType_ofType ctx t
  obtain ⟨-, ⟨-, hlayers⟩, hcollected⟩ := collected_ofType ctx t
  set d := (ofType ctx t).answer ctx.snapshot
  have hpairwise : d.layers.Pairwise (·.index < ·.index) := by
    rw [hlayers]
    exact Hierarchy.pairwise_index ctx .dac d.symbol
  have hproper : d.properties.Proper := by
    rw [hcollected.properties_eq]
    exact Collection.proper_ofLayers _ _
  refine ⟨hproper, ?_, fun o ho x hx => ?_, hboundType⟩
  · rw [hcollected.properties_eq]
    exact Collection.effective_ofLayers hpairwise (fun _ => rfl) (answer_layerProperties ctx)
  · -- the declaration was selected from a layer, and there it was classified
    have hchain : (x.layer, x.item) ∈ d.properties.chain o.name := by
      rw [Collection.chain, hproper.get?_of_mem ho]
      exact List.mem_map_of_mem hx
    rw [hcollected.properties_eq] at hchain
    obtain ⟨l, -, hselected⟩ := Collection.mem_select_of_mem_chain hpairwise hchain
    rw [answer_layerProperties] at hselected
    obtain ⟨m, -, heq⟩ := List.mem_map.1 hselected
    have hitem : _ = x.item := (Prod.mk.inj heq).2
    rw [← hitem]
    exact BoundType.answer_declared ctx m.member.attributes

/-- The tables of a model, the one of declarations and the one of properties, agree. -/
structure BoundTypes (ctx : Context) (d : DacModel) : Prop where
  /-- A declaration is classified by its own attributes. -/
  declaredBound_eq : ∀ o ∈ d.properties.items, ∀ x ∈ o.chain,
    x.item.declaredBound = .ofAttributes ctx x.item.attributes
  /-- In a data access class, the newest declaration counts. -/
  of_primary : d.role = .primary → ∀ o ∈ d.properties.items,
    d.boundType o.name = o.nearest.item.declaredBound
  /-- In an extension, the newest declaration that decides anything counts. -/
  of_extension : d.role = .extension → ∀ o ∈ d.properties.items,
    d.boundType o.name = .firstDecision (o.chain.reverse.map (·.item.declaredBound))
  /-- In an extension, layers that decide nothing make no difference. -/
  of_layers : d.role = .extension → ∀ p (keep : Layer → Bool),
    (∀ l ∈ d.layers, keep l = false → l.decision ctx p = .notDefined) →
      d.boundType p = .firstDecision ((d.layers.filter keep).reverse.map (Layer.decision ctx p))

theorem Settled.boundTypes (h : d.Settled ctx) : d.BoundTypes ctx := by
  refine ⟨h.declaredBound_eq, fun hrole o ho => ?_, fun hrole o ho => ?_,
    fun hrole p keep hkeep => ?_⟩
  · have hnewest := h.proper.newest o ho
    rw [h.boundType_of_primary hrole, h.bounds_of_mem ho, Overridable.reverse_chain hnewest,
      Overridable.nearest, hnewest]
    rfl
  · rw [h.boundType_of_extension hrole, h.bounds_of_mem ho]
  · rw [h.boundType_of_extension hrole, h.firstDecision_bounds, ← List.filter_reverse]
    exact (BoundType.firstDecision_map_filter fun l hl => hkeep l (List.mem_reverse.1 hl)).symm

/-- **Whether properties are stored.** A declaration is classified by its attributes, in whatever
    order they stand. A data access class goes by the newest declaration of a property, an extension
    by the newest one that decides anything, so that layers which decide nothing make no difference
    to it. The layers of an entity come first in its extensions, and as long as those above decide
    nothing about a property, be it that they do not declare it or that their attributes leave it
    open, an extension gives the property what the entity decides. -/
theorem ofType_boundTypes (ctx : Context) :
    (∀ as, (BoundType.declared ctx as).run ctx.snapshot {} = (some (.ofAttributes ctx as), {}) ∧
      ∀ bs, as.Perm bs → BoundType.ofAttributes ctx as = .ofAttributes ctx bs) ∧
    (∀ t, ∃ d, (ofType ctx t).run ctx.snapshot {} = (some d, {}) ∧ d.BoundTypes ctx) ∧
    ∀ t d t' e, (ofType ctx t).run ctx.snapshot {} = (some d, {}) → d.role = .primary →
      (ofType ctx t').run ctx.snapshot {} = (some e, {}) → e.role = .extension →
      e.dac = some t →
        d.layers <+: e.layers ∧
        ∀ p, (∀ l ∈ e.layers.drop d.layers.length, l.decision ctx p = .notDefined) →
          d.boundType p ≠ .notDefined → e.boundType p = d.boundType p := by
  refine ⟨fun as => ⟨?_, fun bs => BoundType.ofAttributes_perm⟩, fun t => ?_, ?_⟩
  · rw [Analysis.run_quiet, BoundType.answer_declared]
  · exact ⟨_, Analysis.run_quiet _, (settled_ofType ctx t).boundTypes⟩
  · intro t d t' e hd hprimary he hextension hdac
    rw [Analysis.run_quiet, Prod.mk.injEq, Option.some.injEq] at hd he
    obtain ⟨rfl, -⟩ := hd
    obtain ⟨rfl, -⟩ := he
    have hpre := layers_ofType_of_target hprimary hextension hdac
    exact ⟨hpre, fun p => (settled_ofType ctx t).boundType_eq_target hprimary
      (settled_ofType ctx t') hextension hpre⟩

/-- A field is stored by the family of its second attribute. An extension declares it anew with an
    attribute that leaves this open, and adds a field that says of itself that it is not stored. -/
theorem ofType_boundTypes_orderNbr :
    let stored : TypeSymbol :=
      { name := "PXDBStringAttribute", base := some { name := "PXDBFieldAttribute" } }
    let attributes : List Attribute :=
      [{ typeName := "PXUIFieldAttribute" }, { typeName := "PXDBStringAttribute" }]
    let order : TypeSymbol :=
      { name := "Order"
        interfaces := [{ name := "IBqlTable" }]
        members := [{ name := "OrderNbr", kind := .property, attributes }] }
    let extension : TypeSymbol :=
      { name := "OrderExt"
        base := some { name := "PXCacheExtension", args := [{ name := "Order" }] }
        members := [
          { name := "OrderNbr", kind := .property,
            attributes := [{ typeName := "PXUIFieldAttribute" }] },
          { name := "Total", kind := .property,
            attributes := [{ typeName := "PXDBStringAttribute",
                             named := .ofList [("IsDBField", .bool false)] }] }] }
    let ctx : Context :=
      { snapshot := { types := [extension, stored, order], distinct := by decide } }
    let d := (ofType ctx ⟨order, .snapshot⟩).answer ctx.snapshot
    let e := (ofType ctx ⟨extension, .snapshot⟩).answer ctx.snapshot
    BoundType.ofAttributes ctx attributes = .ofAttributes ctx attributes.reverse ∧
      (d.role = .primary ∧ e.role = .extension ∧ e.dac = some ⟨order, .snapshot⟩ ∧
        (∀ l ∈ e.layers.drop d.layers.length, l.decision ctx "OrderNbr" = .notDefined) ∧
        d.boundType "OrderNbr" = .dbBound ∧ e.boundType "Total" = .unbound) ∧
      d.layers <+: e.layers ∧ e.boundType "OrderNbr" = d.boundType "OrderNbr" := by
  intro stored attributes order extension ctx d e
  have hmodels : d.role = .primary ∧ e.role = .extension ∧ e.dac = some ⟨order, .snapshot⟩ ∧
      (∀ l ∈ e.layers.drop d.layers.length, l.decision ctx "OrderNbr" = .notDefined) ∧
      d.boundType "OrderNbr" = .dbBound ∧ e.boundType "Total" = .unbound := by
    decide +kernel +revert
  have ⟨hprimary, hextension, hdac, habove, hbound, _⟩ := hmodels
  obtain ⟨hdeclared, -, htarget⟩ := ofType_boundTypes ctx
  obtain ⟨hpre, heq⟩ := htarget _ d _ e (Analysis.run_quiet _) hprimary (Analysis.run_quiet _)
    hextension hdac
  refine ⟨(hdeclared attributes).2 _ attributes.reverse_perm.symm, hmodels, hpre, ?_⟩
  exact heq "OrderNbr" habove (by rw [hbound]; decide)

end DacModel

end SnapshotLint

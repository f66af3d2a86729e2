/-
  What the rule on default values reports of a type.

  * `Attribute.IsDefault`, `Attribute.Waives`: which attributes set a default value, and which turn
    off the check on saving.
  * `DefaultIssue.Arises`: when a default value is unsafe, told from the attributes of the
    declarations of a property; `DefaultIssue.answer_find?`: this is what the rule looks for.
  * `DefaultIssue.arises_iff_of_agree`: nothing matters that is older than an overridden declaration
    with a default value.
  * `Rule.UnsafeDefaultReport`: the properties of a type that are reported;
    `Rule.unsafeDefault_verdict`: they are the unsafe ones that the type declares last, and what is
    older than the nearest overridden default has no part in it.
-/
import SnapshotLint.Proofs.Heading
import SnapshotLint.Proofs.HookKey
import SnapshotLint.Proofs.ReportedOnce
import SnapshotLint.Proofs.TopLayer

namespace SnapshotLint

/-! ## Default value attributes -/

theorem Text.simpleName_eq_iff {s n : String} (hn : '.' ∉ n.toList) :
    simpleName s = n ↔ s = n ∨ ∃ outer, s = outer ++ "." ++ n := by
  have hplain : ∀ {s : String}, '.' ∉ s.toList → simpleName s = s := by
    intro s hs
    rw [simpleName, pieces_of_notMem hs]
    simp
  constructor
  · rintro rfl
    by_cases hs : '.' ∈ s.toList
    · -- cut the name at its last dot
      obtain ⟨back, front, heq, hback⟩ := List.eq_append_cons_of_mem (List.mem_reverse.2 hs)
      have hsplit : s = String.ofList front.reverse ++ "." ++ String.ofList back.reverse := by
        rw [← String.toList_inj]
        simpa using congrArg List.reverse heq
      refine .inr ⟨String.ofList front.reverse, ?_⟩
      rw [hsplit, simpleName_qualified _ (by simpa using hback)]
    · exact .inl (hplain hs).symm
  · rintro (rfl | ⟨outer, rfl⟩)
    · exact hplain hn
    · exact simpleName_qualified outer hn

namespace Attribute

section
variable (ctx : Context) (a : Attribute)

/-- The attribute sets a default value: it is of the family of default values, and not of those that
    are made for fields which are not stored. -/
def IsDefault : Prop :=
  ctx.DerivesFrom a.typeName ctx.framework.defaultAttribute ∧
    ¬ ctx.DerivesFrom a.typeName ctx.framework.unboundDefaultAttribute

instance : DecidablePred (IsDefault ctx) := fun _ => inferInstanceAs (Decidable (_ ∧ _))

/-- An argument of the attribute turns off the check on saving, by the number of the setting or by
    its name, which may stand behind a dot. -/
def Waives (f : Framework) : Prop :=
  a.named.find? f.persistingCheckArgument = some (.int f.persistingCheckNothing) ∨
    ∃ s, a.named.find? f.persistingCheckArgument = some (.str s) ∧
      (s = "Nothing" ∨ ∃ outer, s = outer ++ "." ++ "Nothing")

/-- The first of the attributes that sets a default value. -/
def firstDefault? (attributes : List Attribute) : Option Attribute :=
  attributes.find? (IsDefault ctx ·)

end

variable {ctx : Context} {a : Attribute}

theorem checksNothing_iff {f : Framework} : a.checksNothing f = true ↔ a.Waives f := by
  unfold checksNothing Waives
  split
  · next n heq => simp [heq]
  · next s heq => simp [heq, Text.simpleName_eq_iff (show '.' ∉ "Nothing".toList by decide)]
  · next hint hstr =>
    simp only [Bool.false_eq_true, false_iff, not_or, not_exists, not_and]
    exact ⟨hint _, fun s heq => absurd heq (hstr s)⟩

theorem answer_asDefault? : (a.asDefault? ctx).answer ctx.snapshot =
    if a.IsDefault ctx then some ⟨a, a.checksNothing ctx.framework⟩ else none := by
  simp only [asDefault?, IsDefault, Context.derives, Analysis.answer_bind, Analysis.answer_query,
    ctx.derivesWalk_iff]
  by_cases hdefault : ctx.DerivesFrom a.typeName ctx.framework.defaultAttribute
  · by_cases hunbound : ctx.DerivesFrom a.typeName ctx.framework.unboundDefaultAttribute <;>
      simp [hdefault, hunbound, ctx.derivesWalk_iff]
  · simp [hdefault]

theorem answer_findDefault? (attributes : List Attribute) :
    (findDefault? ctx attributes).answer ctx.snapshot =
      (firstDefault? ctx attributes).map fun a => ⟨a, a.checksNothing ctx.framework⟩ := by
  induction attributes with
  | nil => rfl
  | cons a attributes ih =>
    rw [findDefault?, Analysis.answer_bind, answer_asDefault?, firstDefault?, List.find?_cons]
    by_cases h : a.IsDefault ctx
    · simp [h]
    · simpa [h, firstDefault?] using ih

end Attribute

/-! ## Unsafe default values -/

namespace DefaultIssue

open Attribute

variable {ctx : Context} {role : Role} {bound : BoundType} {issue : DefaultIssue}

/-- What is unsafe about the default value of a property, given the attributes of its declarations,
    the newest first. -/
inductive Arises (ctx : Context) (role : Role) (bound : BoundType) :
    List (List Attribute) → DefaultIssue → Prop
  /-- The property is not stored, and the first default value leaves the check on. -/
  | unboundField {own : List Attribute} {older : List (List Attribute)} {a : Attribute}
      (hfirst : firstDefault? ctx own = some a) (hchecked : ¬ a.Waives ctx.framework)
      (hbound : bound = .unbound) : Arises ctx role bound (own :: older) (.unboundField a)
  /-- The property is stored and belongs to an extension, the first default value leaves the check
      on, and so does the nearest one that it overrides, if there is one. -/
  | boundExtensionField {own : List Attribute} {older : List (List Attribute)} {a : Attribute}
      (hfirst : firstDefault? ctx own = some a) (hchecked : ¬ a.Waives ctx.framework)
      (hbound : bound = .dbBound) (hrole : role = .extension)
      (holder : ∀ b, older.findSome? (firstDefault? ctx) = some b → ¬ b.Waives ctx.framework) :
      Arises ctx role bound (own :: older) (.boundExtensionField a)

theorem answer_nearestDefault? (declarations : List (List Attribute)) :
    (nearestDefault? ctx declarations).answer ctx.snapshot =
      (declarations.findSome? (firstDefault? ctx)).map fun a =>
        ⟨a, a.checksNothing ctx.framework⟩ := by
  induction declarations with
  | nil => rfl
  | cons attributes declarations ih =>
    rw [nearestDefault?, Analysis.answer_bind, answer_findDefault?, List.findSome?_cons]
    cases firstDefault? ctx attributes with
    | none => exact ih
    | some a => rfl

theorem arises_cons_iff {own : List Attribute} {older : List (List Attribute)} :
    Arises ctx role bound (own :: older) issue ↔
      ∃ a, firstDefault? ctx own = some a ∧ ¬ a.Waives ctx.framework ∧
        (bound = .unbound ∧ issue = .unboundField a ∨
          bound = .dbBound ∧ role = .extension ∧ issue = .boundExtensionField a ∧
            ∀ b, older.findSome? (firstDefault? ctx) = some b → ¬ b.Waives ctx.framework) := by
  constructor
  · rintro (⟨hfirst, hchecked, hbound⟩ | ⟨hfirst, hchecked, hbound, hrole, holder⟩)
    · exact ⟨_, hfirst, hchecked, .inl ⟨hbound, rfl⟩⟩
    · exact ⟨_, hfirst, hchecked, .inr ⟨hbound, hrole, rfl, holder⟩⟩
  · rintro ⟨a, hfirst, hchecked, ⟨hbound, rfl⟩ | ⟨hbound, hrole, rfl, holder⟩⟩
    · exact .unboundField hfirst hchecked hbound
    · exact .boundExtensionField hfirst hchecked hbound hrole holder

/-- What the rule looks for is an unsafe default value. -/
theorem answer_find? {α : Type} {attributes : α → List Attribute} {o : Overridable α} :
    (find? ctx attributes role bound o).answer ctx.snapshot = some issue ↔
      Arises ctx role bound (o.thisAndOverridden.map attributes) issue := by
  have hlist : o.thisAndOverridden.map attributes =
      attributes o.item :: o.justOverridden.map attributes := rfl
  rw [hlist, arises_cons_iff]
  simp only [find?, Analysis.answer_bind, answer_findDefault?]
  cases firstDefault? ctx (attributes o.item) with
  | none => simp
  | some a =>
    by_cases hwaives : a.Waives ctx.framework
    · simp [hwaives, checksNothing_iff.2 hwaives]
    · have hchecked : a.checksNothing ctx.framework = false := by
        rwa [← Bool.not_eq_true, checksNothing_iff]
      simp only [Option.map_some, hchecked, Bool.false_eq_true, if_false, Option.some.injEq,
        exists_eq_left', hwaives, not_false_eq_true, true_and]
      split
      · simp [eq_comm]
      · rw [Analysis.answer_bind, answer_nearestDefault?]
        cases (o.justOverridden.map attributes).findSome? (firstDefault? ctx) with
        | none => simp [eq_comm]
        | some b =>
          have hb : b.checksNothing ctx.framework = true ↔ b.Waives ctx.framework :=
            checksNothing_iff
          simp [hb, eq_comm, and_comm]
      · next hunbound hextension =>
        simp only [Analysis.answer_pure, reduceCtorEq, false_iff, not_or, not_and]
        exact ⟨fun hbound => absurd hbound hunbound,
          fun hbound hrole => absurd hrole (hextension hbound)⟩

section
variable {ctx' : Context} (h : ctx.SameHeadings ctx')
include h

theorem firstDefault?_eq : firstDefault? ctx' = firstDefault? ctx := by
  funext attributes
  unfold firstDefault?
  congr 1
  funext a
  rw [decide_eq_decide]
  simp only [IsDefault, h.derivesFrom_iff, h.framework_eq]

/-- Nothing matters that is older than an overridden declaration with a default value. -/
theorem arises_iff_of_agree {front : List (List Attribute)} (hfront : front ≠ [])
    {n : List Attribute} (hn : ∃ a ∈ n, a.IsDefault ctx) (rest rest' : List (List Attribute)) :
    Arises ctx' role bound (front ++ n :: rest') issue ↔
      Arises ctx role bound (front ++ n :: rest) issue := by
  obtain ⟨own, between, rfl⟩ := List.exists_cons_of_ne_nil hfront
  obtain ⟨b, hb⟩ : ∃ b, firstDefault? ctx n = some b := by
    rw [← Option.isSome_iff_exists, firstDefault?, List.find?_isSome]
    simpa using hn
  have hnearest : ∀ rest, (between ++ n :: rest).findSome? (firstDefault? ctx) =
      (between.findSome? (firstDefault? ctx)).or (some b) := by
    intro rest
    rw [List.findSome?_append, List.findSome?_cons, hb]
  rw [List.cons_append, List.cons_append, arises_cons_iff, arises_cons_iff, firstDefault?_eq h,
    h.framework_eq, hnearest, hnearest]

end

end DefaultIssue

/-! ## What is reported -/

/-- The items of a chain, the newest first. -/
def Overridable.newestFirst {α : Type} (o : Overridable α) : List α := o.chain.reverse.map (·.item)

theorem Overridable.newestFirst_of_newest {α : Type} {o : Overridable α} (h : o.newer = []) :
    o.newestFirst = o.thisAndOverridden := by
  rw [newestFirst, reverse_chain h]
  rfl

/-- A type of the snapshot is the one that the snapshot has; others may be analysed, too. -/
def Context.Admits (ctx : Context) (t : TypeHandle) : Prop := t.origin = .snapshot → ctx.Knows t

theorem Context.Knows.origin_eq {ctx : Context} {t : TypeHandle} (h : ctx.Knows t) :
    t.origin = .snapshot := by
  obtain ⟨symbol, -, rfl⟩ := Option.map_eq_some_iff.1 h
  rfl

theorem Context.Admits.eq_of_same {ctx : Context} {t u : TypeHandle} (ht : ctx.Admits t)
    (hu : u = t ∨ ctx.Knows u) (h : u.same t = true) : u = t := by
  rcases hu with heq | hknows
  · exact heq
  · simp only [TypeHandle.same, Bool.and_eq_true, beq_iff_eq] at h
    exact hknows.eq_of_name (ht (h.1.symm.trans hknows.origin_eq)) h.2

namespace DacModel

variable {ctx : Context} {t : TypeHandle}

theorem proper_properties (ctx : Context) (t : TypeHandle) :
    ((ofType ctx t).answer ctx.snapshot).properties.Proper := by
  rw [(collected_ofType ctx t).2.2.properties_eq]
  exact Collection.proper_ofLayers _ _

/-- The newest declaration of a property is a member of the type or of one of the snapshot. -/
theorem owner_of_mem_properties {p : Overridable DacProperty}
    (hp : p ∈ ((ofType ctx t).answer ctx.snapshot).properties.items) :
    p.item.member.owner = t ∨ ctx.Knows p.item.member.owner := by
  obtain ⟨hsymbol, hlinearized, hcollected⟩ := collected_ofType ctx t
  have hlayers := hlinearized.2
  rw [hsymbol] at hlayers
  rw [hcollected.properties_eq, hlayers] at hp
  obtain ⟨l, hl, hmem⟩ := Collection.mem_select_of_mem (Hierarchy.pairwise_index ctx .dac t) hp
  rw [(TypeHandle.mem_members_iff.1 (mem_layerProperties hmem).1).1]
  exact Hierarchy.eq_or_knows_layer hl

end DacModel

namespace Rule

/-- The properties that a model declares with an unsafe default value. -/
def unsafeProperties (ctx : Context) (d : DacModel) :
    List (Overridable DacProperty × DefaultIssue) :=
  d.declaredProperties.filterMap fun p =>
    ((DefaultIssue.find? ctx DacProperty.attributes d.role (d.boundType p.name) p).answer
      ctx.snapshot).map (p, ·)

theorem found_unsafeDefault (severity : Severity) (ctx : Context) (d : DacModel) :
    (unsafeDefault severity).found ctx d = (unsafeProperties ctx d).map fun x =>
      unsafeDefaultViolation severity d (d.boundType x.1.name) x.1.item.member x.2 := by
  rw [unsafeProperties, List.map_filterMap]
  refine found_forEach fun p => ?_
  simp [Step.found, judgeDefault, Option.map_map, Function.comp_def]

/-- What the rule on default values reports of a type: properties, and what is unsafe about each. -/
structure UnsafeDefaultReport (severity : Severity) (ctx : Context) (t : TypeHandle) (d : DacModel)
    (found : List (Overridable DacProperty × DefaultIssue)) : Prop where
  /-- The type has this model. -/
  model_eq : (DacModel.infer ctx t).run ctx.snapshot {} = (some [d], {})
  /-- The rule succeeds and adds a violation for each of the properties. -/
  check_eq : ∀ sink, checkInferred [unsafeDefault severity] ctx (DacModel.infer ctx t) { sink } =
    (.ok 1, { sink := sink ++ found.map fun x =>
      unsafeDefaultViolation severity d (d.boundType x.1.name) x.1.item.member x.2 })
  /-- No property is reported twice. -/
  distinct : (found.map (·.1.name)).Nodup
  /-- The properties are those that the type declares last and whose default value is unsafe. -/
  mem_iff : ∀ p issue, (p, issue) ∈ found ↔
    p ∈ d.properties.items ∧ p.nearest.item.member.owner = t ∧
      DefaultIssue.Arises ctx d.role (d.boundType p.name)
        (p.newestFirst.map DacProperty.attributes) issue

section
variable {ctx : Context} {t : TypeHandle}

theorem mem_unsafeProperties_iff (ht : ctx.Admits t) {d : DacModel}
    (hd : (DacModel.ofType ctx t).answer ctx.snapshot = d) {p : Overridable DacProperty}
    {issue : DefaultIssue} : (p, issue) ∈ unsafeProperties ctx d ↔
      p ∈ d.properties.items ∧ p.nearest.item.member.owner = t ∧
        DefaultIssue.Arises ctx d.role (d.boundType p.name)
          (p.newestFirst.map DacProperty.attributes) issue := by
  rw [unsafeProperties, List.mem_filterMap]
  have hsymbol : d.symbol = t := hd ▸ (DacModel.collected_ofType ctx t).1
  have hproper : d.properties.Proper := hd ▸ DacModel.proper_properties ctx t
  have hown : ∀ p ∈ d.properties.items, p.item.member.owner.same d.symbol = true ↔
      p.nearest.item.member.owner = t := by
    intro p hp
    have hnearest : p.nearest = p.this := by rw [Overridable.nearest, hproper.newest p hp]; rfl
    rw [hnearest, hsymbol]
    refine ⟨ht.eq_of_same (DacModel.owner_of_mem_properties (by rwa [hd])), fun heq => ?_⟩
    rw [← heq]
    exact TypeHandle.same_self _
  constructor
  · rintro ⟨p', hp', heq⟩
    obtain ⟨issue', hissue, hpair⟩ := Option.map_eq_some_iff.1 heq
    cases hpair
    obtain ⟨hp, hsame⟩ := List.mem_filter.1 hp'
    rw [Overridable.newestFirst_of_newest (hproper.newest _ hp), ← DefaultIssue.answer_find?]
    exact ⟨hp, (hown _ hp).1 hsame, hissue⟩
  · rintro ⟨hp, howner, harises⟩
    rw [Overridable.newestFirst_of_newest (hproper.newest _ hp), ← DefaultIssue.answer_find?]
      at harises
    refine ⟨p, List.mem_filter.2 ⟨hp, (hown p hp).2 howner⟩, ?_⟩
    rw [harises, Option.map_some]

theorem report_unsafeProperties (severity : Severity) (ht : ctx.Admits t)
    (hfamily : ctx.InFamily .dac t) {d : DacModel}
    (hd : (DacModel.ofType ctx t).answer ctx.snapshot = d) :
    UnsafeDefaultReport severity ctx t d (unsafeProperties ctx d) := by
  have hmodel := DacModel.answer_infer hfamily
  rw [hd] at hmodel
  refine ⟨?_, fun sink => ?_, ?_, fun p issue => mem_unsafeProperties_iff ht hd⟩
  · rw [Analysis.run_quiet, hmodel]
  · rw [← found_unsafeDefault]
    exact checkInferred_singleton (BuiltInDac.unsafeDefault severity).observes hmodel rfl
      (fun happlies => by cases happlies) sink
  · have hproper : d.properties.Proper := hd ▸ DacModel.proper_properties ctx t
    have hnames : d.declaredProperties.Pairwise (·.name ≠ ·.name) :=
      (List.pairwise_map.1 hproper.distinct).filter _
    rw [List.Nodup, List.pairwise_map, unsafeProperties, List.pairwise_filterMap]
    refine hnames.imp fun hne x hx x' hx' => ?_
    obtain ⟨_, -, rfl⟩ := Option.map_eq_some_iff.1 hx
    obtain ⟨_, -, rfl⟩ := Option.map_eq_some_iff.1 hx'
    exact hne

end

/-- The declarations of two properties are the same, from the newest on, down to an overridden one
    with a default value. What is older may be anything. -/
def AgreeToDefault (ctx : Context) (p p' : Overridable DacProperty) : Prop :=
  ∃ front n rest rest', front ≠ [] ∧ (∃ a ∈ n.member.attributes, a.IsDefault ctx) ∧
    p.newestFirst.map (·.member) = front ++ n :: rest ∧
    p'.newestFirst.map (·.member) = front ++ n :: rest'

section
variable {ctx ctx' : Context} {t t' : TypeHandle} {p p' : Overridable DacProperty}

theorem AgreeToDefault.member_eq (h : AgreeToDefault ctx p p') (hp : p.newer = [])
    (hp' : p'.newer = []) : p'.item.member = p.item.member := by
  obtain ⟨front, n, rest, rest', hfront, -, heq, heq'⟩ := h
  obtain ⟨own, between, rfl⟩ := List.exists_cons_of_ne_nil hfront
  rw [Overridable.newestFirst_of_newest hp] at heq
  rw [Overridable.newestFirst_of_newest hp'] at heq'
  exact (List.cons.inj heq').1.trans (List.cons.inj heq).1.symm

theorem AgreeToDefault.arises_iff (h : AgreeToDefault ctx p p') (hctx : ctx.SameHeadings ctx')
    {role : Role} {bound : BoundType} {issue : DefaultIssue} :
    DefaultIssue.Arises ctx' role bound (p'.newestFirst.map DacProperty.attributes) issue ↔
      DefaultIssue.Arises ctx role bound (p.newestFirst.map DacProperty.attributes) issue := by
  obtain ⟨front, n, rest, rest', hfront, hn, heq, heq'⟩ := h
  have hattributes : ∀ q : Overridable DacProperty, q.newestFirst.map DacProperty.attributes =
      (q.newestFirst.map (·.member)).map (·.member.attributes) := by
    intro q
    rw [List.map_map]
    rfl
  rw [hattributes, hattributes, heq, heq', List.map_append, List.map_append, List.map_cons,
    List.map_cons]
  exact DefaultIssue.arises_iff_of_agree hctx (by simpa using hfront) hn _ _

/-- Properties that agree down to an overridden default value get the same verdict. -/
theorem mem_unsafeProperties_of_agree (hctx : ctx.SameHeadings ctx') (ht : ctx.Admits t)
    (ht' : ctx'.Admits t') (hheading : t'.heading = t.heading) {d d' : DacModel}
    (hd : (DacModel.ofType ctx t).answer ctx.snapshot = d)
    (hd' : (DacModel.ofType ctx' t').answer ctx'.snapshot = d') (hp : p ∈ d.properties.items)
    (hp' : p' ∈ d'.properties.items) (hagree : AgreeToDefault ctx p p')
    (hbound : d'.boundType p'.name = d.boundType p.name) {issue : DefaultIssue} :
    (p', issue) ∈ unsafeProperties ctx' d' ↔ (p, issue) ∈ unsafeProperties ctx d := by
  have hproper : d.properties.Proper := hd ▸ DacModel.proper_properties ctx t
  have hproper' : d'.properties.Proper := hd' ▸ DacModel.proper_properties ctx' t'
  have hrole : d'.role = d.role := by
    obtain ⟨hsymbol, hlinearized, -⟩ := DacModel.collected_ofType ctx t
    obtain ⟨hsymbol', hlinearized', -⟩ := DacModel.collected_ofType ctx' t'
    rw [← hd, ← hd', hlinearized.1, hlinearized'.1, hsymbol, hsymbol']
    exact hctx.role_eq .dac hheading
  have hown : p'.nearest.item.member.owner = t' ↔ p.nearest.item.member.owner = t := by
    have hmember := hagree.member_eq (hproper.newest p hp) (hproper'.newest p' hp')
    have howner := DacModel.owner_of_mem_properties (hd ▸ hp)
    have howner' := DacModel.owner_of_mem_properties (hd' ▸ hp')
    rw [Overridable.nearest, Overridable.nearest, hproper.newest p hp, hproper'.newest p' hp']
    change p'.item.member.owner = t' ↔ p.item.member.owner = t
    rw [hmember] at howner' ⊢
    constructor
    · intro heq
      exact ht.eq_of_same howner (heq ▸ TypeHandle.same_of_heading hheading)
    · intro heq
      exact ht'.eq_of_same howner' (heq ▸ TypeHandle.same_of_heading hheading.symm)
  rw [mem_unsafeProperties_iff ht' hd', mem_unsafeProperties_iff ht hd, hrole, hbound,
    hagree.arises_iff hctx, hown]
  simp only [hp, hp', true_and]

/-- **The verdict on default values.** A property that a data access class or an extension of one
    declares last is reported, once, if and only if the first default value of this declaration
    leaves the check on saving on and the property is not stored, or is stored, belongs to an
    extension, and the nearest older default value does not turn the check off. Nothing else is
    reported. Wherever types have other members, so that older declarations than the nearest older
    one with a default value are replaced, the verdict is the same, if only the property is stored
    as before. -/
theorem unsafeDefault_verdict (severity : Severity) (ht : ctx.Admits t)
    (hfamily : ctx.InFamily .dac t) :
    ∃ d found, UnsafeDefaultReport severity ctx t d found ∧
      ∀ ctx' t', ctx.SameHeadings ctx' → t'.heading = t.heading → ctx'.Admits t' →
        ∃ d' found', UnsafeDefaultReport severity ctx' t' d' found' ∧
          ∀ p ∈ d.properties.items, ∀ p' ∈ d'.properties.items, AgreeToDefault ctx p p' →
            d'.boundType p'.name = d.boundType p.name →
            ∀ issue, (p', issue) ∈ found' ↔ (p, issue) ∈ found := by
  refine ⟨_, _, report_unsafeProperties severity ht hfamily rfl, ?_⟩
  intro ctx' t' hctx hheading ht'
  have hfamily' : ctx'.InFamily .dac t' := by
    rwa [Context.inFamily_iff, hctx.role_eq .dac hheading, ← Context.inFamily_iff]
  refine ⟨_, _, report_unsafeProperties severity ht' hfamily' rfl, ?_⟩
  intro p hp p' hp' hagree hbound issue
  exact mem_unsafeProperties_of_agree hctx ht ht' hheading rfl rfl hp hp' hagree hbound

end

/-- An extension and a lower one both set a default value for a stored property and leave the check
    on. So the extension is reported, and it still is when the extended class gets a default value
    that turns the check off. -/
theorem unsafeDefault_verdict_orderExt :
    let stored : TypeSymbol :=
      { name := "PXDBStringAttribute", base := some { name := "PXDBFieldAttribute" } }
    let default : Attribute := { typeName := "PXDefaultAttribute" }
    let waived : Attribute :=
      { typeName := "PXDefaultAttribute"
        named := .ofList [("PersistingCheck", .str "PXPersistingCheck.Nothing")] }
    let order (attributes : List Attribute) : TypeSymbol :=
      { name := "Order"
        interfaces := [{ name := "IBqlTable" }]
        members := [{ name := "OrderNbr", kind := .property, attributes }] }
    let extension (name : String) (args : List TypeRef) : TypeSymbol :=
      { name
        base := some { name := "PXCacheExtension", args }
        members := [{ name := "OrderNbr", kind := .property, attributes := [default] }] }
    let lower := extension "OrderLower" [{ name := "Order" }]
    let upper := extension "OrderUpper" [{ name := "OrderLower" }, { name := "Order" }]
    let before := order [{ typeName := "PXDBStringAttribute" }]
    let after := order [{ typeName := "PXDBStringAttribute" }, waived]
    let ctx : Context :=
      { snapshot := { types := [stored, before, lower, upper], distinct := by decide } }
    let ctx' : Context :=
      { snapshot := { types := [stored, after, lower, upper], distinct := by decide } }
    let t : TypeHandle := ⟨upper, .snapshot⟩
    ctx.Admits t ∧ ctx.InFamily .dac t ∧ ctx.SameHeadings ctx' ∧ ctx'.Admits t ∧
      ∃ d found d' found', UnsafeDefaultReport .error ctx t d found ∧
        UnsafeDefaultReport .error ctx' t d' found' ∧
        (∃ p, (p, .boundExtensionField default) ∈ found) ∧
        ∃ p', (p', .boundExtensionField default) ∈ found' := by
  intro stored default waived order extension lower upper before after ctx ctx' t
  let d := (DacModel.ofType ctx t).answer ctx.snapshot
  let d' := (DacModel.ofType ctx' t).answer ctx'.snapshot
  let declared (u : TypeSymbol) (attributes : List Attribute) : MemberHandle :=
    ⟨⟨u, .snapshot⟩, 0, { name := "OrderNbr", kind := .property, attributes }⟩
  let issue : DefaultIssue := .boundExtensionField default
  have hcontexts : upper ∈ ctx.snapshot.types ∧ upper ∈ ctx'.snapshot.types ∧
      ctx'.snapshot.types.map TypeSymbol.heading = ctx.snapshot.types.map TypeSymbol.heading ∧
      ((Hierarchy.linearize ctx .dac t).answer ctx.snapshot).role ≠ .unrelated ∧
      default.IsDefault ctx := by
    decide +kernel +revert
  have hproperty : ∃ p ∈ d.properties.items, p.nearest.item.member.owner = t ∧ p.newer = [] ∧
      p.newestFirst.map (·.member) = [declared upper [default], declared lower [default],
        declared before [{ typeName := "PXDBStringAttribute" }]] ∧
      d.boundType p.name = .dbBound ∧
      (DefaultIssue.find? ctx DacProperty.attributes d.role (d.boundType p.name) p).answer
        ctx.snapshot = some issue := by
    decide +kernel +revert
  have hproperty' : ∃ p' ∈ d'.properties.items, p'.newestFirst.map (·.member) =
      [declared upper [default], declared lower [default],
        declared after [{ typeName := "PXDBStringAttribute" }, waived]] ∧
      d'.boundType p'.name = .dbBound := by
    decide +kernel +revert
  obtain ⟨hmem, hmem', htypes, hrole, hdefault⟩ := hcontexts
  obtain ⟨p, hp, howner, hnewest, hchain, hbound, hissue⟩ := hproperty
  obtain ⟨p', hp', hchain', hbound'⟩ := hproperty'
  have hadmits : ctx.Admits t := fun _ => Context.knows_of_mem hmem
  have hadmits' : ctx'.Admits t := fun _ => Context.knows_of_mem hmem'
  have hfamily := Context.inFamily_iff.2 hrole
  have hctx : ctx.SameHeadings ctx' := ⟨rfl, htypes⟩
  obtain ⟨e, found, hreport, hother⟩ := unsafeDefault_verdict .error hadmits hfamily
  obtain ⟨e', found', hreport', hsame⟩ := hother ctx' t hctx rfl hadmits'
  -- the models are the computed ones
  have he : d = e := by
    have hmodel := hreport.model_eq
    rw [Analysis.run_quiet, DacModel.answer_infer hfamily] at hmodel
    simpa using hmodel
  have he' : d' = e' := by
    have hfamily' : ctx'.InFamily .dac t := by
      rwa [Context.inFamily_iff, hctx.role_eq .dac rfl]
    have hmodel := hreport'.model_eq
    rw [Analysis.run_quiet, DacModel.answer_infer hfamily'] at hmodel
    simpa using hmodel
  have hfound : (p, issue) ∈ found := by
    rw [hreport.mem_iff, ← he, Overridable.newestFirst_of_newest hnewest]
    exact ⟨hp, howner, DefaultIssue.answer_find?.1 hissue⟩
  have hagree : AgreeToDefault ctx p p' :=
    ⟨[declared upper [default]], declared lower [default], _, _, by simp,
      ⟨default, List.mem_cons_self, hdefault⟩, hchain, hchain'⟩
  refine ⟨hadmits, hfamily, hctx, hadmits', e, found, e', found', hreport, hreport',
    ⟨p, hfound⟩, p', ?_⟩
  exact (hsame p (he ▸ hp) p' (he' ▸ hp') hagree (by rw [← he, ← he', hbound, hbound']) _).2 hfound

end Rule

end SnapshotLint

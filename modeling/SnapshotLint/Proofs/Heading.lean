/-
  What hierarchies make of members: nothing.

  The heading of a type is its declaration without the members. Where two contexts differ in nothing
  but the members of types, questions about derivation have the same answers
  (`Context.SameHeadings.derivesFrom_iff`, `Context.SameHeadings.implements_iff`), base walks end at
  the same references (`Context.SameHeadings.exit_eq`), and so types have the same roles:
  `Context.SameHeadings.role_eq`.
-/
import SnapshotLint.Proofs.LayerOrder
import SnapshotLint.Proofs.Reachability

namespace SnapshotLint

/-- The declaration of a type without its members. -/
def TypeSymbol.heading (t : TypeSymbol) : TypeSymbol := { t with members := [] }

/-- A type without its members. -/
def TypeHandle.heading (t : TypeHandle) : TypeHandle := { t with symbol := t.symbol.heading }

theorem TypeHandle.name_eq_of_heading {t t' : TypeHandle} (h : t'.heading = t.heading) :
    t'.name = t.name :=
  congrArg (·.symbol.name) h

theorem TypeHandle.base_eq_of_heading {t t' : TypeHandle} (h : t'.heading = t.heading) :
    t'.symbol.base = t.symbol.base :=
  congrArg (·.symbol.base) h

theorem TypeHandle.same_of_heading {t t' : TypeHandle} (h : t'.heading = t.heading) :
    t'.same t = true := by
  have horigin : t'.origin = t.origin := congrArg (·.origin) h
  simp [same, horigin, name_eq_of_heading h]

namespace Context

/-- The contexts differ in nothing but the members of types. -/
structure SameHeadings (ctx ctx' : Context) : Prop where
  framework_eq : ctx'.framework = ctx.framework
  types_eq : ctx'.snapshot.types.map TypeSymbol.heading = ctx.snapshot.types.map TypeSymbol.heading

namespace SameHeadings

variable {ctx ctx' : Context} (h : ctx.SameHeadings ctx')
include h

theorem find?_heading (n : String) : (ctx'.snapshot.find? n).map TypeSymbol.heading =
    (ctx.snapshot.find? n).map TypeSymbol.heading := by
  have hfind : ∀ s : Snapshot, (s.find? n).map TypeSymbol.heading =
      (s.types.map TypeSymbol.heading).find? (·.name == n) := by
    intro s
    rw [List.find?_map]
    rfl
  rw [hfind, hfind, h.types_eq]

theorem resolve_heading (ref : TypeRef) : (ctx'.resolve ref).map TypeHandle.heading =
    (ctx.resolve ref).map TypeHandle.heading := by
  have hmap : ∀ c : Context, (c.resolve ref).map TypeHandle.heading =
      ((c.snapshot.find? ref.name).map TypeSymbol.heading).map (⟨·, .snapshot⟩) := by
    intro c
    rw [resolve, Option.map_map, Option.map_map]
    rfl
  rw [hmap, hmap, h.find?_heading]

theorem baseName?_eq (n : String) : ctx'.baseName? n = ctx.baseName? n := by
  have hbase : ∀ c : Context, c.baseName? n =
      (((c.snapshot.find? n).map TypeSymbol.heading).bind (·.base)).map (·.name) := by
    intro c
    rw [baseName?, Option.bind_map]
    rfl
  rw [hbase, hbase, h.find?_heading]

theorem derivesFrom_iff {n base : String} : ctx'.DerivesFrom n base ↔ ctx.DerivesFrom n base := by
  simp only [DerivesFrom, h.baseName?_eq]

theorem implements_iff {n i : String} : ctx'.Implements n i ↔ ctx.Implements n i := by
  have hheading : ∀ c : Context, c.Implements n i ↔
      ((c.snapshot.find? n).map TypeSymbol.heading).isSome ∧
        ∃ t ∈ c.snapshot.types.map TypeSymbol.heading, c.DerivesFrom n t.name ∧ c.Declares t i := by
    intro c
    simp only [Option.isSome_map, List.mem_map, exists_exists_and_eq_and]
    rfl
  rw [hheading, hheading, h.find?_heading, h.types_eq]
  simp only [Declares, h.derivesFrom_iff]

/-! ## Base walks -/

theorem base?_heading {roots : List String} {t t' : TypeHandle} (ht : t'.heading = t.heading) :
    (ctx'.base? roots t').map TypeHandle.heading = (ctx.base? roots t).map TypeHandle.heading := by
  rw [base?, base?, TypeHandle.base_eq_of_heading ht]
  cases t.symbol.base with
  | none => rfl
  | some base =>
    simp only [Option.bind_some]
    split
    · rfl
    · exact h.resolve_heading base

theorem exit_walk_eq {roots : List String} (fuel : Nat) {visited : List String}
    {t t' : TypeHandle} (ht : t'.heading = t.heading) :
    ((BaseChain.walk roots fuel visited t').answer ctx'.snapshot).exit =
      ((BaseChain.walk roots fuel visited t).answer ctx.snapshot).exit := by
  induction fuel generalizing visited t t' with
  | zero => rfl
  | succ fuel ih =>
    have hbase := @base?_heading _ _ h roots _ _ ht
    rw [BaseChain.answer_walk_succ, BaseChain.answer_walk_succ]
    cases hnext : ctx.base? roots t with
    | none =>
      rw [hnext, Option.map_none, Option.map_eq_none_iff] at hbase
      rw [hbase]
      exact TypeHandle.base_eq_of_heading ht
    | some next =>
      rw [hnext, Option.map_some] at hbase
      obtain ⟨next', hnext', hheading⟩ := Option.map_eq_some_iff.1 hbase
      simp only [hnext', TypeHandle.name_eq_of_heading hheading]
      split
      · rfl
      · exact ih hheading

/-- Base walks end at the same reference. -/
theorem exit_eq {roots : List String} {t t' : TypeHandle} (ht : t'.heading = t.heading) :
    ((BaseChain.ofType ctx' roots t').answer ctx'.snapshot).exit =
      ((BaseChain.ofType ctx roots t).answer ctx.snapshot).exit := by
  have hbound : ctx'.walkBound = ctx.walkBound := by
    have hlength := congrArg List.length h.types_eq
    rw [List.length_map, List.length_map] at hlength
    rw [walkBound, walkBound, hlength]
  rw [BaseChain.ofType, BaseChain.ofType, hbound, TypeHandle.name_eq_of_heading ht]
  exact h.exit_walk_eq _ ht

theorem isPrimary_eq (family : Family) {t t' : TypeHandle} (ht : t'.heading = t.heading)
    {chain chain' : BaseChain} (hexit : chain'.exit = chain.exit) :
    (Hierarchy.isPrimary ctx' family t' chain').answer ctx'.snapshot =
      (Hierarchy.isPrimary ctx family t chain).answer ctx.snapshot := by
  cases family with
  | graph =>
    simp only [Hierarchy.isPrimary, Analysis.answer_pure, hexit, h.framework_eq]
  | dac =>
    simp only [Hierarchy.isPrimary, Analysis.answer_ofWalk]
    rw [Bool.eq_iff_iff, implementsWalk_iff, implementsWalk_iff, h.implements_iff, h.framework_eq,
      TypeHandle.name_eq_of_heading ht]

/-- A type has the same role in both contexts. -/
theorem role_eq (family : Family) {t t' : TypeHandle} (ht : t'.heading = t.heading) :
    ((Hierarchy.linearize ctx' family t').answer ctx'.snapshot).role =
      ((Hierarchy.linearize ctx family t).answer ctx.snapshot).role := by
  have hexit := @exit_eq _ _ h (family.roots ctx.framework) _ _ ht
  have hprimary := h.isPrimary_eq family ht hexit
  simp only [Hierarchy.linearize, Analysis.answer_bind, h.framework_eq, hexit]
  split
  · rw [Hierarchy.answer_ofExtension rfl, Hierarchy.answer_ofExtension rfl]
  · simp only [Analysis.answer_bind, hprimary]
    split <;> rfl

end SameHeadings

end Context

end SnapshotLint

/-
  The top layer.

  A type is the last of its own layers, unless it lies on the base walk of a type that its own
  extension root names (`Context.ExtendsItself`, `Hierarchy.exists_top`). A collection holds the
  last declaration of each name in the top layer, whatever the layers below declare, and what it
  holds of the other names is not of the top layer: `Collection.mem_top_iff`.
-/
import SnapshotLint.Proofs.EffectiveMember
import SnapshotLint.Proofs.RoleAgreement

namespace SnapshotLint

/-! ## The layer of the type itself -/

namespace Context

/-- The type is an entity of the family or an extension of one. -/
def InFamily (ctx : Context) (family : Family) (t : TypeHandle) : Prop :=
  ∃ h, (Hierarchy.linearize ctx family t).run ctx.snapshot {} = (some h, {}) ∧ h.role ≠ .unrelated

theorem inFamily_iff {ctx : Context} {family : Family} {t : TypeHandle} : ctx.InFamily family t ↔
    ((Hierarchy.linearize ctx family t).answer ctx.snapshot).role ≠ .unrelated := by
  simp only [InFamily, Analysis.run_quiet, Prod.mk.injEq, Option.some.injEq, and_true,
    exists_eq_left']

/-- The type lies on the base walk of a type that its own extension root names. -/
def ExtendsItself (ctx : Context) (family : Family) (t : TypeHandle) : Prop :=
  ∃ root, ctx.FirstRoot (family.roots ctx.framework) t root ∧
    root.name ∈ family.extensionRoots ctx.framework ∧
    ∃ r ∈ root.args, ctx.OnBaseWalk (family.roots ctx.framework) r t

end Context

namespace Hierarchy

variable {ctx : Context} {family : Family} {t : TypeHandle} {h : Hierarchy}

theorem extendsItself_iff (ht : ctx.Knows t)
    (hh : (linearize ctx family t).answer ctx.snapshot = h) :
    ctx.ExtendsItself family t ↔ h.role = .extension ∧
      ∃ r ∈ h.rootArgs, t ∈ ctx.walkOf (family.roots ctx.framework) r := by
  obtain ⟨chain, hfirst, hroot, hextension, -⟩ := role_cases ht hh
  simp only [← Context.onBaseWalk_iff]
  have hargs : ∀ {root}, h.role = .extension → chain.exit = some root → h.rootArgs = root.args := by
    intro root hrole hexit
    rw [rootArgs, hroot (by simp [hrole]), hexit]
    rfl
  constructor
  · rintro ⟨root, hfirstRoot, hname, harg⟩
    have hexit := ((hfirst root).1 hfirstRoot).1
    have hrole := hextension.2 ⟨root, hexit, hname⟩
    exact ⟨hrole, by rwa [hargs hrole hexit]⟩
  · rintro ⟨hrole, harg⟩
    obtain ⟨root, hexit, hname⟩ := hextension.1 hrole
    have hfirstRoot := (hfirst root).2 ⟨hexit, List.mem_append_left _ hname⟩
    exact ⟨root, hfirstRoot, hname, by rwa [← hargs hrole hexit]⟩

theorem nodup_names (ctx : Context) (family : Family) (t : TypeHandle) :
    (Layer.names ((linearize ctx family t).answer ctx.snapshot).layers).Nodup := by
  rcases linearize_cases ctx family t rfl with h | ⟨w, -, -, ⟨-, hlayers⟩ | ⟨-, -, hlayers⟩⟩
  · rw [h]
    exact List.nodup_nil
  · rw [hlayers]
    exact nodup_addLayers List.nodup_nil
  · rw [hlayers]
    exact nodup_addLayers List.nodup_nil

/-- A type that does not extend itself is the last of its layers, and none of the others has its
    name. -/
theorem exists_top (ht : ctx.Knows t) (hfamily : ctx.InFamily family t)
    (hself : ¬ ctx.ExtendsItself family t) :
    ∃ below top, ((linearize ctx family t).answer ctx.snapshot).layers = below ++ [top] ∧
      top.type = t ∧ ∀ l ∈ below, l.type.name ≠ t.name := by
  have hlast : ((linearize ctx family t).answer ctx.snapshot).types.getLast? = some t := by
    rw [extendsItself_iff ht rfl] at hself
    rcases linearize_cases ctx family t rfl with hnone | ⟨w, hw, hroot, hcase⟩
    · rw [Context.inFamily_iff, hnone] at hfamily
      exact absurd rfl hfamily
    · rcases hcase with ⟨hprimary, hlayers⟩ | ⟨hextension, ⟨exit, hexit⟩, hlayers⟩
      · exact (layersOrdered_primary hw hroot hprimary hlayers).self_last (.inl hprimary)
      · have hordered := layersOrdered_extension hw hroot hexit hextension hlayers
        refine hordered.known_last hextension ht fun r hr hon => hself ⟨hextension, r, hr, ?_⟩
        exact Context.onBaseWalk_iff.1 hon
  rw [types, List.getLast?_map, Option.map_eq_some_iff] at hlast
  obtain ⟨top, htop, rfl⟩ := hlast
  obtain ⟨below, hlayers⟩ := List.getLast?_eq_some_iff.1 htop
  refine ⟨below, top, hlayers, rfl, fun l hl hname => ?_⟩
  have hnodup := nodup_names ctx family top.type
  rw [hlayers, Layer.names, List.map_append] at hnodup
  exact (List.nodup_append.1 hnodup).2.2 _ (List.mem_map_of_mem hl) _ List.mem_cons_self hname

end Hierarchy

theorem TypeHandle.same_self (t : TypeHandle) : t.same t = true := by
  simp [same]

theorem TypeHandle.same_eq_false {t u : TypeHandle} (h : u.name ≠ t.name) : u.same t = false := by
  simp [same, h]

/-- A data access class, or an extension of one, has a model. -/
theorem DacModel.answer_infer {ctx : Context} {t : TypeHandle} (h : ctx.InFamily .dac t) :
    (infer ctx t).answer ctx.snapshot = [(ofType ctx t).answer ctx.snapshot] := by
  obtain ⟨hsymbol, hlinearized, -⟩ := collected_ofType ctx t
  rw [Context.inFamily_iff, ← hsymbol, ← hlinearized.1] at h
  rw [infer, Analysis.answer_bind, Analysis.answer_pure, if_neg h]

/-! ## What a collection holds of it -/

namespace Collection

variable {α : Type} {c : Collection α} {n : String} {x : α}

theorem Proper.getLast?_chain (hc : c.Proper) :
    (c.chain n).getLast? = (c.get? n).map fun o => (o.this.layer, o.item) := by
  rw [chain]
  cases hget : c.get? n with
  | none => rfl
  | some o =>
    rw [Option.map_some, Option.getD_some,
      Overridable.layered_of_newest (hc.newest o (mem_of_get? hget).1), List.getLast?_concat]
    rfl

section
variable {below : List Layer} {top : Layer}
  (hlayers : (below ++ [top]).Pairwise (·.index < ·.index))
  (hbelow : ∀ l ∈ below, l.type.name ≠ top.type.name)
include hlayers hbelow

/-- An item whose owner is the type at the top is the last one that this type declares under its
    name. -/
theorem mem_top_iff {select : Layer → List (String × α)} (owner : α → TypeHandle)
    (howner : ∀ l, ∀ s ∈ select l, owner s.2 = l.type) :
    (∃ o ∈ (ofLayers (below ++ [top]) select).items,
        o.name = n ∧ o.item = x ∧ (owner x).same top.type = true) ↔
      ((select top).filter (·.1 = n)).getLast?.map (·.2) = some x := by
  have hproper := proper_ofLayers (below ++ [top]) select
  have hchain := @chain_ofLayers _ _ select hlayers n
  rw [List.filterMap_append, List.filterMap_cons, List.filterMap_nil] at hchain
  constructor
  · rintro ⟨o, ho, rfl, rfl, hsame⟩
    have hlast := hproper.getLast?_chain (n := o.name)
    rw [hproper.get?_of_mem ho, Option.map_some, hchain] at hlast
    cases hselect : ((select top).filter (·.1 = o.name)).getLast? with
    | none =>
      -- the newest declaration stands below the top layer, where the owner has another name
      rw [hselect, Option.map_none] at hlast
      simp only [List.append_nil] at hlast
      obtain ⟨l, hl, hs⟩ := List.mem_filterMap.1 (List.mem_of_getLast? hlast)
      obtain ⟨s, hs, heq⟩ := Option.map_eq_some_iff.1 hs
      rw [Prod.mk.injEq] at heq
      have hother := howner l s (List.mem_filter.1 (List.mem_of_getLast? hs)).1
      rw [← heq.2, hother, TypeHandle.same_eq_false (hbelow l hl)] at hsame
      cases hsame
    | some s =>
      rw [hselect, Option.map_some] at hlast
      simp only [List.getLast?_concat, Option.some.injEq, Prod.mk.injEq] at hlast
      rw [Option.map_some, hlast.2]
  · intro hselect
    obtain ⟨s, hs, rfl⟩ := Option.map_eq_some_iff.1 hselect
    have hlast := hproper.getLast?_chain (n := n)
    rw [hchain, hs, Option.map_some] at hlast
    simp only [List.getLast?_concat] at hlast
    obtain ⟨o, ho, hitem⟩ := Option.map_eq_some_iff.1 hlast.symm
    obtain ⟨hmem, hname⟩ := mem_of_get? ho
    rw [Prod.mk.injEq] at hitem
    refine ⟨o, hmem, hname, hitem.2, ?_⟩
    rw [howner top s (List.mem_filter.1 (List.mem_of_getLast? hs)).1, TypeHandle.same_self]

/-- A collection of qualifying members holds, of the type at the top, the last one of each name. -/
theorem mem_top_members_iff {p : MemberHandle → Prop} [DecidablePred p]
    {select : Layer → List (String × α)} {member : α → MemberHandle} {item : MemberHandle → α}
    (hitem : ∀ m, member (item m) = m)
    (hselect : ∀ l, select l = (l.type.members.filter (p ·)).map fun m => (m.name, item m))
    {m : MemberHandle} :
    (∃ o ∈ (ofLayers (below ++ [top]) select).items,
        (member o.item).owner.same top.type = true ∧ member o.item = m) ↔
      top.last? p m.name = some m := by
  have hmember : ∀ l, ∀ s ∈ select l, (member s.2).owner = l.type ∧ (member s.2).name = s.1 := by
    intro l s hs
    rw [hselect] at hs
    obtain ⟨m', hm', rfl⟩ := List.mem_map.1 hs
    rw [hitem]
    exact ⟨(TypeHandle.mem_members_iff.1 (List.mem_filter.1 hm').1).1, rfl⟩
  have hlast : ∀ n, ((select top).filter (·.1 = n)).getLast?.map (·.2) =
      (top.last? p n).map item := by
    intro n
    rw [hselect, List.filter_map, List.getLast?_map, List.filter_filter, Option.map_map,
      Layer.last?, TypeHandle.last?]
    simp only [Function.comp_def, Bool.decide_and]
  have hown := fun n x => mem_top_iff (n := n) (x := x) hlayers hbelow (fun x => (member x).owner)
    fun l s hs => (hmember l s hs).1
  simp only [hlast] at hown
  constructor
  · rintro ⟨o, ho, hsame, rfl⟩
    obtain ⟨l, -, hs⟩ := mem_select_of_mem hlayers ho
    have htop := (hown o.name o.item).1 ⟨o, ho, rfl, rfl, hsame⟩
    obtain ⟨m', hm', hitem'⟩ := Option.map_eq_some_iff.1 htop
    rw [(hmember l _ hs).2, hm', ← hitem', hitem]
  · intro htop
    obtain ⟨o, ho, -, heq, hsame⟩ := (hown m.name (item m)).2 (by rw [htop, Option.map_some])
    rw [← heq] at hsame
    exact ⟨o, ho, hsame, by rw [heq, hitem]⟩

end

end Collection

end SnapshotLint

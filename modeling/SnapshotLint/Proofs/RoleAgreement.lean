/-
  The role of a type and the questions about derivation.

  Linearization has a base walk of its own, which stops before a root; a question about derivation
  follows base references wherever they lead. They come to the same verdict on every type of the
  snapshot.

  * `Context.FirstRoot`: the base reference that is the first to name a root.
  * `Context.firstRoot_iff_exit`: it is the one at which the base walk leads out, if that names a root.
  * `Context.exists_firstRoot_iff`: there is one if the base of the type derives from a root.
  * `Hierarchy.role_cases`: what decides the role of a type; `Hierarchy.linearize_rolesAgree`: how this
    reads in terms of the questions.
-/
import SnapshotLint.Proofs.LayerOrder
import SnapshotLint.Proofs.Reachability

namespace SnapshotLint

/-- The answer to a question is yes when nobody interrupts it. -/
def Walk.Affirms (s : Snapshot) (question : Walk Bool) : Prop := question.run s {} = (some true, {})

theorem Walk.affirms_iff {s : Snapshot} {question : Walk Bool} :
    question.Affirms s ↔ question.answer s = true := by
  rw [Affirms, run_quiet, Prod.mk.injEq, Option.some.injEq]
  exact and_iff_left rfl

/-! ## The first root -/

/-- A walk ends with the type that has no base to go on with. -/
theorem BaseWalk.getLast?_eq {ctx : Context} {roots seen : List String} {t u : TypeHandle}
    {w : List TypeHandle} (h : BaseWalk ctx roots seen t w) (hu : u ∈ w)
    (hnone : ctx.base? roots u = none) : w.getLast? = some u := by
  induction h with
  | last => rw [List.mem_singleton.1 hu]; rfl
  | @step seen t next rest hnext hnew hrest ih =>
    rcases List.mem_cons.1 hu with rfl | hu
    · rw [hnext] at hnone
      cases hnone
    · rw [List.getLast?_cons, ih hu]
      rfl

namespace Context

/-- The base reference that is the first to name one of the roots, on the way from a type along its
    base references. -/
def FirstRoot (ctx : Context) (roots : List String) (t : TypeHandle) (ref : TypeRef) : Prop :=
  ∃ u, ctx.Reaches roots t u ∧ u.symbol.base = some ref ∧ ref.name ∈ roots

variable {ctx : Context} {roots : List String} {t u : TypeHandle} {ref : TypeRef}

theorem base?_eq_none (hbase : u.symbol.base = some ref) (hroot : ref.name ∈ roots) :
    ctx.base? roots u = none := by
  simp [base?, hbase, hroot]

theorem exit?_eq_some_iff : ctx.exit? roots u = some ref ↔
    ctx.base? roots u = none ∧ u.symbol.base = some ref := by
  unfold exit?
  cases ctx.base? roots u <;> simp

theorem firstRoot_iff_exit {w : List TypeHandle} (hw : IsBaseWalk ctx roots t w)
    (ht : ctx.Knows t) : ctx.FirstRoot roots t ref ↔
      w.getLast?.bind (ctx.exit? roots) = some ref ∧ ref.name ∈ roots := by
  constructor
  · rintro ⟨u, hreaches, hbase, hroot⟩
    have hnone := ctx.base?_eq_none hbase hroot
    have hmem : u ∈ w := by
      obtain ⟨rest, rfl⟩ := hw.eq_cons
      exact BaseWalk.mem_of_reaches (BaseWalk.closed hw ht) List.mem_cons_self hreaches
    refine ⟨?_, hroot⟩
    rw [hw.getLast?_eq hmem hnone]
    exact exit?_eq_some_iff.2 ⟨hnone, hbase⟩
  · rintro ⟨hexit, hroot⟩
    obtain ⟨u, hlast, hu⟩ := Option.bind_eq_some_iff.1 hexit
    exact ⟨u, hw.reaches u (List.mem_of_getLast? hlast), (exit?_eq_some_iff.1 hu).2, hroot⟩

/-- The next name that a question about derivation comes to is in the base reference of the type. -/
theorem Knows.baseName?_eq (ht : ctx.Knows t) :
    ctx.baseName? t.name = t.symbol.base.map (·.name) := by
  obtain ⟨symbol, hfind, rfl⟩ := Option.map_eq_some_iff.1 ht
  rw [baseName?, hfind, Option.bind_some]

theorem base?_eq_some_iff {next : TypeHandle} : ctx.base? roots t = some next ↔
    ∃ b, t.symbol.base = some b ∧ b.name ∉ roots ∧ ctx.resolve b = some next := by
  rw [base?, Option.bind_eq_some_iff]
  refine exists_congr fun b => and_congr_right fun _ => ?_
  by_cases hroot : b.name ∈ roots <;> simp [hroot]

theorem name_of_resolve {b : TypeRef} {next : TypeHandle} (h : ctx.resolve b = some next) :
    next.name = b.name := by
  obtain ⟨symbol, hfind, rfl⟩ := Option.map_eq_some_iff.1 h
  exact Snapshot.find?_name hfind

/-- Following base references up to a root is following them as a question does. -/
theorem FirstRoot.derivesFrom (h : ctx.FirstRoot roots t ref) :
    ∃ b, t.symbol.base = some b ∧ ctx.DerivesFrom b.name ref.name := by
  obtain ⟨u, hreaches, hbase, -⟩ := h
  induction hreaches using Relation.ReflTransGen.head_induction_on with
  | refl => exact ⟨ref, hbase, .refl⟩
  | @head t next hnext _ ih =>
    obtain ⟨b, hb, -, hresolve⟩ := base?_eq_some_iff.1 hnext
    obtain ⟨b', hb', hderives⟩ := ih
    have hstep : ctx.baseName? b.name = some b'.name := by
      rw [← name_of_resolve hresolve, (knows_of_resolve hresolve).baseName?_eq, hb', Option.map_some]
    exact ⟨b, hb, .head hstep hderives⟩

/-- A question that comes to a root has come to a first one. -/
theorem exists_firstRoot_of_derivesFrom {b : TypeRef} {r : String} (hr : r ∈ roots)
    (hb : t.symbol.base = some b) (h : ctx.DerivesFrom b.name r) :
    ∃ ref, ctx.FirstRoot roots t ref := by
  generalize hn : b.name = n at h
  induction h using Relation.ReflTransGen.head_induction_on generalizing t b with
  | refl => exact ⟨b, t, .refl, hb, hn ▸ hr⟩
  | @head n m hstep _ ih =>
    by_cases hroot : b.name ∈ roots
    · exact ⟨b, t, .refl, hb, hroot⟩
    · -- the name is that of a type of the snapshot, which is the base of `t`
      obtain ⟨b', hb', rfl⟩ := Option.map_eq_some_iff.1 hstep
      obtain ⟨symbol, hfind, hsymbol⟩ := Option.bind_eq_some_iff.1 hb'
      have hnext : ctx.base? roots t = some ⟨symbol, .snapshot⟩ := by
        refine base?_eq_some_iff.2 ⟨b, hb, hroot, ?_⟩
        rw [resolve, hn, hfind, Option.map_some]
      obtain ⟨ref, u, hreaches, href⟩ := ih (t := ⟨symbol, .snapshot⟩) hsymbol rfl
      exact ⟨ref, u, .head hnext hreaches, href⟩

theorem exists_firstRoot_iff : (∃ ref, ctx.FirstRoot roots t ref) ↔
    ∃ b, t.symbol.base = some b ∧ ∃ r ∈ roots, ctx.DerivesFrom b.name r := by
  constructor
  · rintro ⟨ref, h⟩
    obtain ⟨b, hb, hderives⟩ := h.derivesFrom
    obtain ⟨-, -, -, hroot⟩ := h
    exact ⟨b, hb, ref.name, hroot, hderives⟩
  · rintro ⟨b, hb, r, hr, hderives⟩
    exact exists_firstRoot_of_derivesFrom hr hb hderives

end Context

/-! ## Roles -/

namespace Hierarchy

variable {ctx : Context} {family : Family} {t : TypeHandle}

/-- The role of a type of the snapshot is decided by the first root, or else by whether the type is
    an entity of its own accord. -/
theorem role_cases (ht : ctx.Knows t) {h : Hierarchy}
    (hh : (linearize ctx family t).answer ctx.snapshot = h) :
    ∃ chain : BaseChain, (∀ ref, ctx.FirstRoot (family.roots ctx.framework) t ref ↔
        chain.exit = some ref ∧ ref.name ∈ family.roots ctx.framework) ∧
      (h.role ≠ .unrelated → h.root = chain.exit) ∧
      (h.role = .extension ↔ ∃ ref, chain.exit = some ref ∧
        ref.name ∈ family.extensionRoots ctx.framework) ∧
      (h.role = .primary ↔ h.role ≠ .extension ∧
        (isPrimary ctx family t chain).answer ctx.snapshot = true) := by
  obtain ⟨hwalk, hexit⟩ := @BaseChain.answer_ofType ctx (family.roots ctx.framework) t
  simp only [linearize, Analysis.answer_bind] at hh
  set chain := (BaseChain.ofType ctx (family.roots ctx.framework) t).answer ctx.snapshot
  refine ⟨chain, fun ref => ?_, ?_⟩
  · rw [hexit]
    exact Context.firstRoot_iff_exit hwalk ht
  · have hany : (chain.exit.any fun exit =>
        (family.extensionRoots ctx.framework).contains exit.name) = true ↔
        ∃ ref, chain.exit = some ref ∧ ref.name ∈ family.extensionRoots ctx.framework := by
      simp [Option.any_eq_true]
    split at hh
    · next hextension =>
      rw [answer_ofExtension rfl] at hh
      subst hh
      exact ⟨fun _ => rfl, by simp [hany.1 hextension], by simp⟩
    · next hextension =>
      have hnone := mt hany.2 hextension
      rw [Analysis.answer_bind] at hh
      split at hh
      · next hprimary =>
        subst hh
        exact ⟨fun _ => rfl, by simp [hnone], by simp [hprimary]⟩
      · next hprimary =>
        subst hh
        exact ⟨by simp, by simp [hnone], by simp [hprimary]⟩

theorem mem_graph_roots {f : Framework} {n : String} :
    n ∈ Family.graph.roots f ↔ n = f.graphExtension ∨ n = f.graph := by
  simp [Family.roots, Family.extensionRoots, Family.primaryRoot?]

theorem mem_dac_roots {f : Framework} {n : String} :
    n ∈ Family.dac.roots f ↔ n = f.dacExtension ∨ n = f.mappedDacExtension := by
  simp [Family.roots, Family.extensionRoots, Family.primaryRoot?]

theorem ne_unrelated_iff {role : Role} :
    role ≠ .unrelated ↔ role = .extension ∨ role = .primary := by
  cases role <;> decide

section
variable {h : Hierarchy}

theorem graph_roles (ht : ctx.Knows t) (hh : (linearize ctx .graph t).answer ctx.snapshot = h) :
    (h.role = .extension ↔ ∃ ref, ctx.FirstRoot (Family.graph.roots ctx.framework) t ref ∧
        ref.name = ctx.framework.graphExtension) ∧
      (h.role = .primary ↔ ∃ ref, ctx.FirstRoot (Family.graph.roots ctx.framework) t ref ∧
        ref.name ≠ ctx.framework.graphExtension) ∧
      (h.role ≠ .unrelated → ∀ ref,
        h.root = some ref ↔ ctx.FirstRoot (Family.graph.roots ctx.framework) t ref) := by
  obtain ⟨chain, hfirst, hroot, hextension, hprimary⟩ := role_cases ht hh
  have hext : h.role = .extension ↔ ∃ ref, ctx.FirstRoot (Family.graph.roots ctx.framework) t ref ∧
      ref.name = ctx.framework.graphExtension := by
    rw [hextension]
    refine exists_congr fun ref => ?_
    rw [hfirst, mem_graph_roots, Family.extensionRoots, List.mem_singleton]
    exact ⟨fun ⟨hexit, hname⟩ => ⟨⟨hexit, .inl hname⟩, hname⟩,
      fun ⟨⟨hexit, _⟩, hname⟩ => ⟨hexit, hname⟩⟩
  have hprim : h.role = .primary ↔ ∃ ref, ctx.FirstRoot (Family.graph.roots ctx.framework) t ref ∧
      ref.name ≠ ctx.framework.graphExtension := by
    rw [hprimary, ne_eq, hextension]
    simp only [isPrimary, Analysis.answer_pure, Option.any_eq_true, beq_iff_eq, hfirst,
      mem_graph_roots, Family.extensionRoots, List.mem_singleton]
    constructor
    · rintro ⟨hnot, ref, hexit, hname⟩
      exact ⟨ref, ⟨hexit, .inr hname⟩, fun hext => hnot ⟨ref, hexit, hext⟩⟩
    · rintro ⟨ref, ⟨hexit, hname⟩, hne⟩
      refine ⟨?_, ref, hexit, hname.resolve_left hne⟩
      rintro ⟨ref', hexit', hext⟩
      cases hexit.symm.trans hexit'
      exact hne hext
  refine ⟨hext, hprim, fun hrole ref => ?_⟩
  rw [hroot hrole]
  refine ⟨fun hexit => ?_, fun href => ((hfirst ref).1 href).1⟩
  -- there is a first root, and the walk ends with only one reference
  obtain ⟨ref', href'⟩ : ∃ ref', ctx.FirstRoot (Family.graph.roots ctx.framework) t ref' := by
    rcases ne_unrelated_iff.1 hrole with hrole | hrole
    · exact (hext.1 hrole).imp fun _ => And.left
    · exact (hprim.1 hrole).imp fun _ => And.left
  cases hexit.symm.trans ((hfirst ref').1 href').1
  exact href'

theorem dac_roles (ht : ctx.Knows t) (hh : (linearize ctx .dac t).answer ctx.snapshot = h) :
    (h.role = .extension ↔ ∃ ref, ctx.FirstRoot (Family.dac.roots ctx.framework) t ref) ∧
      (h.role = .primary ↔ h.role ≠ .extension ∧
        (ctx.implementsWalk t.name ctx.framework.dac).Affirms ctx.snapshot) ∧
      (h.role = .extension → ∀ ref,
        h.root = some ref ↔ ctx.FirstRoot (Family.dac.roots ctx.framework) t ref) := by
  obtain ⟨chain, hfirst, hroot, hextension, hprimary⟩ := role_cases ht hh
  -- all roots of the family are roots of extensions
  have hroots : Family.dac.roots ctx.framework = Family.dac.extensionRoots ctx.framework :=
    List.append_nil _
  simp only [hroots] at hfirst hextension ⊢
  simp only [hfirst]
  refine ⟨hextension, ?_, fun hrole ref => ?_⟩
  · rw [Walk.affirms_iff, hprimary, isPrimary, Analysis.answer_ofWalk]
  · rw [hroot (by simp [hrole])]
    refine ⟨fun hexit => ⟨hexit, ?_⟩, And.left⟩
    obtain ⟨ref', hexit', hmem⟩ := hextension.1 hrole
    cases hexit.symm.trans hexit'
    exact hmem

end

/-- What the roles of a type as a graph and as a data access class have to do with the questions about
    derivation. -/
structure RolesAgree (ctx : Context) (t : TypeSymbol) (g d : Hierarchy) : Prop where
  /-- A type has to do with graphs if its base derives from a root of graphs or of their
      extensions. -/
  graph_iff : g.role ≠ .unrelated ↔ ∃ b, t.base = some b ∧
    ((ctx.derivesWalk b.name ctx.framework.graph).Affirms ctx.snapshot ∨
      (ctx.derivesWalk b.name ctx.framework.graphExtension).Affirms ctx.snapshot)
  /-- It is an extension if the first root is that of extensions. -/
  graph_extension_iff : g.role = .extension ↔
    ∃ ref, ctx.FirstRoot (Family.graph.roots ctx.framework) ⟨t, .snapshot⟩ ref ∧
      ref.name = ctx.framework.graphExtension
  /-- It is a graph if the first root is another one. -/
  graph_primary_iff : g.role = .primary ↔
    ∃ ref, ctx.FirstRoot (Family.graph.roots ctx.framework) ⟨t, .snapshot⟩ ref ∧
      ref.name ≠ ctx.framework.graphExtension
  /-- The reference that is the first to name a root is recorded. -/
  graph_root : g.role ≠ .unrelated → ∀ ref,
    g.root = some ref ↔ ctx.FirstRoot (Family.graph.roots ctx.framework) ⟨t, .snapshot⟩ ref
  /-- A type is an extension of a data access class if its base derives from one of the two roots of
      such extensions. -/
  dac_extension_iff : d.role = .extension ↔ ∃ b, t.base = some b ∧
    ((ctx.derivesWalk b.name ctx.framework.dacExtension).Affirms ctx.snapshot ∨
      (ctx.derivesWalk b.name ctx.framework.mappedDacExtension).Affirms ctx.snapshot)
  /-- Any other type is a data access class if it implements the marker. -/
  dac_primary_iff : d.role = .primary ↔ d.role ≠ .extension ∧
    (ctx.implementsWalk t.name ctx.framework.dac).Affirms ctx.snapshot
  /-- The reference that is the first to name a root is recorded. -/
  dac_root : d.role = .extension → ∀ ref,
    d.root = some ref ↔ ctx.FirstRoot (Family.dac.roots ctx.framework) ⟨t, .snapshot⟩ ref

/-- **Linearization and the questions about derivation agree** on the role of every type of the
    snapshot, whatever its base references do. -/
theorem linearize_rolesAgree (ctx : Context) {t : TypeSymbol} (ht : t ∈ ctx.snapshot.types) :
    ∃ g d, (linearize ctx .graph ⟨t, .snapshot⟩).run ctx.snapshot {} = (some g, {}) ∧
      (linearize ctx .dac ⟨t, .snapshot⟩).run ctx.snapshot {} = (some d, {}) ∧
      RolesAgree ctx t g d := by
  refine ⟨_, _, Analysis.run_quiet _, Analysis.run_quiet _, ?_⟩
  have hknows := Context.knows_of_mem ht
  obtain ⟨hgext, hgprim, hgroot⟩ := graph_roles hknows rfl
  obtain ⟨hdext, hdprim, hdroot⟩ := dac_roles hknows rfl
  refine ⟨?_, hgext, hgprim, hgroot, ?_, hdprim, hdroot⟩
  · have hfirst : ((linearize ctx .graph ⟨t, .snapshot⟩).answer ctx.snapshot).role ≠ .unrelated ↔
        ∃ ref, ctx.FirstRoot (Family.graph.roots ctx.framework) ⟨t, .snapshot⟩ ref := by
      rw [ne_unrelated_iff, hgext, hgprim, ← exists_or]
      refine exists_congr fun ref => ?_
      rw [← and_or_left]
      exact and_iff_left (Classical.em _)
    rw [hfirst, Context.exists_firstRoot_iff]
    simp only [mem_graph_roots, Walk.affirms_iff, ctx.derivesWalk_iff, or_and_right, exists_or,
      exists_eq_left, or_comm]
  · rw [hdext, Context.exists_firstRoot_iff]
    simp only [mem_dac_roots, Walk.affirms_iff, ctx.derivesWalk_iff, or_and_right, exists_or,
      exists_eq_left]

/-- The roots of graphs and of their extensions are types of the snapshot, and their bases lead back to
    the extension in question. The type is marked as a data access class, too. -/
theorem linearize_rolesAgree_cycle :
    let root : TypeRef := { name := "PXGraphExtension", args := [{ name := "OrderEntry" }] }
    let extension : TypeSymbol :=
      { name := "OrderEntryExt", base := some root, interfaces := [{ name := "IBqlTable" }] }
    let graphExtension : TypeSymbol :=
      { name := "PXGraphExtension", base := some { name := "PXGraph" } }
    let graph : TypeSymbol := { name := "PXGraph", base := some { name := "OrderEntryExt" } }
    let ctx : Context :=
      { snapshot := { types := [extension, graphExtension, graph], distinct := by decide } }
    extension ∈ ctx.snapshot.types ∧
      ∃ g d, (linearize ctx .graph ⟨extension, .snapshot⟩).run ctx.snapshot {} = (some g, {}) ∧
        (linearize ctx .dac ⟨extension, .snapshot⟩).run ctx.snapshot {} = (some d, {}) ∧
        g.role = .extension ∧ g.root = some root ∧ d.role = .primary ∧
        RolesAgree ctx extension g d := by
  intro root extension graphExtension graph ctx
  have hmem : extension ∈ ctx.snapshot.types := List.mem_cons_self
  obtain ⟨g, d, hg, hd, hagree⟩ := linearize_rolesAgree ctx hmem
  have hgraph : ((linearize ctx .graph ⟨extension, .snapshot⟩).run ctx.snapshot {}).1.map
      (fun h => (h.role, h.root)) = some (.extension, some root) := by decide
  have hdac : ((linearize ctx .dac ⟨extension, .snapshot⟩).run ctx.snapshot {}).1.map (·.role) =
      some .primary := by decide
  rw [hg, Option.map_some, Option.some.injEq, Prod.mk.injEq] at hgraph
  rw [hd, Option.map_some, Option.some.injEq] at hdac
  exact ⟨hmem, g, d, hg, hd, hgraph.1, hgraph.2, hdac, hagree⟩

end Hierarchy

end SnapshotLint

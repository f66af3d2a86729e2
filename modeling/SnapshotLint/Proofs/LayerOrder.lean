/-
  The order of the layers of a hierarchy.

  All layers come from base walks, each taken from its end, one after the other: those of the type
  arguments of an extension root, the last argument first, and then that of the type itself
  (`answer_ofExtension`). A type stays where its name first comes up. This is enough to keep bases in
  front of what derives from them, targets in front of extensions, and lower extensions in front of
  higher ones, also where walks overlap and bases form cycles: `linearize_layersOrdered`.
-/
import SnapshotLint.Proofs.BaseWalk

namespace SnapshotLint

/-! ## Adding layers -/

section
variable {ls : List Layer} {ts us : List TypeHandle}

/-- The names of the types of layers. -/
def Layer.names (ls : List Layer) : List String := ls.map (·.type.name)

theorem addLayers_append (ls : List Layer) (ts us : List TypeHandle) :
    addLayers ls (ts ++ us) = addLayers (addLayers ls ts) us := List.foldl_append

theorem addLayers_cons_of_mem {t : TypeHandle} (h : t.name ∈ Layer.names ls) :
    addLayers ls (t :: ts) = addLayers ls ts := by
  obtain ⟨l, hl, hname⟩ := List.mem_map.1 h
  have hany : ls.any (·.type.name == t.name) = true :=
    List.any_eq_true.2 ⟨l, hl, by simpa using hname⟩
  simp only [addLayers, List.foldl_cons, hany, if_true]

theorem addLayers_cons_of_notMem {t : TypeHandle} (h : t.name ∉ Layer.names ls) :
    addLayers ls (t :: ts) = addLayers (ls ++ [⟨t, ls.length⟩]) ts := by
  have hany : ls.any (·.type.name == t.name) = false := by
    rw [List.any_eq_false]
    intro l hl hname
    exact h (List.mem_map.2 ⟨l, hl, by simpa using hname⟩)
  simp only [addLayers, List.foldl_cons, hany, Bool.false_eq_true, if_false]

theorem names_concat (ls : List Layer) (t : TypeHandle) (i : Nat) :
    Layer.names (ls ++ [⟨t, i⟩]) = Layer.names ls ++ [t.name] := by
  simp [Layer.names]

theorem prefix_addLayers (ls : List Layer) (ts : List TypeHandle) : ls <+: addLayers ls ts := by
  induction ts generalizing ls with
  | nil => exact List.prefix_rfl
  | cons t ts ih =>
    by_cases h : t.name ∈ Layer.names ls
    · rw [addLayers_cons_of_mem h]; exact ih ls
    · rw [addLayers_cons_of_notMem h]; exact (List.prefix_append _ _).trans (ih _)

theorem mem_names_addLayers {n : String} :
    n ∈ Layer.names (addLayers ls ts) ↔ n ∈ Layer.names ls ∨ n ∈ ts.map (·.name) := by
  induction ts generalizing ls with
  | nil => simp [addLayers]
  | cons t ts ih =>
    by_cases h : t.name ∈ Layer.names ls
    · rw [addLayers_cons_of_mem h, ih]
      constructor
      · exact Or.imp_right (List.mem_cons_of_mem _)
      · rintro (hn | hn)
        · exact Or.inl hn
        · rcases List.mem_cons.1 hn with rfl | hn
          · exact Or.inl h
          · exact Or.inr hn
    · rw [addLayers_cons_of_notMem h, ih, names_concat]
      simp [or_assoc]

theorem nodup_addLayers (h : (Layer.names ls).Nodup) : (Layer.names (addLayers ls ts)).Nodup := by
  induction ts generalizing ls with
  | nil => exact h
  | cons t ts ih =>
    by_cases ht : t.name ∈ Layer.names ls
    · rw [addLayers_cons_of_mem ht]; exact ih h
    · rw [addLayers_cons_of_notMem ht]
      refine ih ?_
      rw [names_concat]
      exact List.nodup_append.2 ⟨h, by simp, fun a ha b hb => by
        rw [List.mem_singleton.1 hb]; exact fun hab => ht (hab ▸ ha)⟩

theorem index_addLayers (h : ls.map (·.index) = List.range ls.length) :
    (addLayers ls ts).map (·.index) = List.range (addLayers ls ts).length := by
  induction ts generalizing ls with
  | nil => exact h
  | cons t ts ih =>
    by_cases ht : t.name ∈ Layer.names ls
    · rw [addLayers_cons_of_mem ht]; exact ih h
    · rw [addLayers_cons_of_notMem ht]
      refine ih ?_
      simp [h, List.range_succ]

/-- The positions of layers are ascending. -/
theorem pairwise_index_addLayers (ts : List TypeHandle) :
    (addLayers [] ts).Pairwise (·.index < ·.index) := by
  rw [← @List.pairwise_map _ _ Layer.index, index_addLayers rfl]
  exact List.pairwise_lt_range

/-- An added layer stands for the first of the types that has its name. -/
theorem mem_addLayers {l : Layer} (h : l ∈ addLayers ls ts) :
    l ∈ ls ∨ l.type.name ∉ Layer.names ls ∧
      ∃ front back, ts = front ++ l.type :: back ∧ l.type.name ∉ front.map (·.name) := by
  induction ts generalizing ls with
  | nil => exact Or.inl h
  | cons t ts ih =>
    by_cases ht : t.name ∈ Layer.names ls
    · rw [addLayers_cons_of_mem ht] at h
      rcases ih h with hl | ⟨hnew, front, back, rfl, hfront⟩
      · exact Or.inl hl
      · refine Or.inr ⟨hnew, t :: front, back, rfl, fun hmem => ?_⟩
        rcases List.mem_cons.1 hmem with heq | hmem
        · exact hnew (heq ▸ ht)
        · exact hfront hmem
    · rw [addLayers_cons_of_notMem ht] at h
      rcases ih h with hl | ⟨hnew, front, back, rfl, hfront⟩
      · rcases List.mem_append.1 hl with hl | hl
        · exact Or.inl hl
        · rw [List.mem_singleton.1 hl]
          exact Or.inr ⟨ht, [], ts, rfl, by simp⟩
      · rw [names_concat, List.mem_append, List.mem_singleton, not_or] at hnew
        refine Or.inr ⟨hnew.1, t :: front, back, rfl, fun hmem => ?_⟩
        rcases List.mem_cons.1 hmem with heq | hmem
        · exact hnew.2 heq
        · exact hfront hmem

/-- Types with new and distinct names all become layers. -/
theorem types_addLayers (hnew : ∀ t ∈ ts, t.name ∉ Layer.names ls) (hts : (ts.map (·.name)).Nodup) :
    (addLayers ls ts).map (·.type) = ls.map (·.type) ++ ts := by
  induction ts generalizing ls with
  | nil => simp [addLayers]
  | cons t ts ih =>
    obtain ⟨ht, hts⟩ := List.nodup_cons.1 hts
    rw [addLayers_cons_of_notMem (hnew t List.mem_cons_self), ih _ hts]
    · simp
    · intro u hu
      rw [names_concat, List.mem_append, List.mem_singleton, not_or]
      refine ⟨hnew u (List.mem_cons_of_mem _ hu), fun heq => ht ?_⟩
      exact List.mem_map.2 ⟨u, hu, heq⟩

/-- Layers are made of the types that are given. -/
theorem type_mem_of_mem_addLayers {l : Layer} (h : l ∈ addLayers [] ts) : l.type ∈ ts := by
  rcases mem_addLayers h with hnil | ⟨-, front, back, rfl, -⟩
  · cases hnil
  · exact List.mem_append_right _ List.mem_cons_self

/-- Types of the snapshot become layers, each for itself. -/
theorem mem_types_addLayers {ctx : Context} (h : ∀ t ∈ ts, ctx.Knows t) {t : TypeHandle}
    (ht : t ∈ ts) : t ∈ (addLayers [] ts).map (·.type) := by
  have hname : t.name ∈ Layer.names (addLayers [] ts) :=
    mem_names_addLayers.2 (Or.inr (List.mem_map_of_mem ht))
  obtain ⟨l, hl, heq⟩ := List.mem_map.1 hname
  rw [← (h _ (type_mem_of_mem_addLayers hl)).eq_of_name (h t ht) heq]
  exact List.mem_map_of_mem hl

theorem mem_types_addLayers_iff {ctx : Context} (h : ∀ t ∈ ts, ctx.Knows t) {t : TypeHandle} :
    t ∈ (addLayers [] ts).map (·.type) ↔ t ∈ ts := by
  refine ⟨fun ht => ?_, mem_types_addLayers h⟩
  obtain ⟨l, hl, rfl⟩ := List.mem_map.1 ht
  exact type_mem_of_mem_addLayers hl

/-- Types with distinct names that are added first are the first layers. -/
theorem prefix_types_addLayers (hts : (ts.map (·.name)).Nodup) :
    ts <+: (addLayers [] (ts ++ us)).map (·.type) := by
  have htypes : (addLayers [] ts).map (·.type) = ts := types_addLayers (by simp [Layer.names]) hts
  have hpre := (prefix_addLayers (addLayers [] ts) us).map (·.type)
  rwa [htypes, ← addLayers_append] at hpre

end

/-! ## Positions -/

namespace Hierarchy

/-- The types of the layers. -/
def types (h : Hierarchy) : List TypeHandle := h.layers.map (·.type)

/-- The type arguments of the root of an extension. -/
def rootArgs (h : Hierarchy) : List TypeRef := (h.root.map (·.args)).getD []

/-- Two types are layers, and the first one comes before the second one. -/
def Before (h : Hierarchy) (a b : TypeHandle) : Prop :=
  ∃ i j : Nat, i < j ∧ h.layers[i]? = some ⟨a, i⟩ ∧ h.layers[j]? = some ⟨b, j⟩

end Hierarchy

/-- The layers made of `front` come before those whose names are not among `front`. -/
theorem before_addLayers {h : Hierarchy} {front back : List TypeHandle} {a b : TypeHandle}
    (hlayers : h.layers = addLayers [] (front ++ back)) (ha : a ∈ h.types) (hb : b ∈ h.types)
    (hfront : a.name ∈ front.map (·.name)) (hnot : b.name ∉ front.map (·.name)) :
    h.Before a b := by
  have hpre : addLayers [] front <+: h.layers := by
    rw [hlayers, addLayers_append]
    exact prefix_addLayers _ _
  have hnodup : (Layer.names h.layers).Nodup := by
    rw [hlayers]
    exact nodup_addLayers List.nodup_nil
  have hindex : h.layers.map (·.index) = List.range h.layers.length := by
    rw [hlayers]
    exact index_addLayers rfl
  have hat : ∀ (i : Nat) (l : Layer), h.layers[i]? = some l → l.index = i := by
    intro i l hl
    obtain ⟨hi, rfl⟩ := List.getElem?_eq_some_iff.1 hl
    have := congrArg (fun is => is[i]?) hindex
    simpa [hi] using this
  obtain ⟨la, hla, rfl⟩ := List.mem_map.1 ha
  obtain ⟨lb, hlb, rfl⟩ := List.mem_map.1 hb
  -- the layer of `a` is among those made of `front`, as no other layer has its name
  have hmem : la ∈ addLayers [] front := by
    have hname : la.type.name ∈ Layer.names (addLayers [] front) :=
      mem_names_addLayers.2 (Or.inr hfront)
    obtain ⟨l, hl, heq⟩ := List.mem_map.1 hname
    rwa [← List.inj_on_of_nodup_map hnodup (hpre.subset hl) hla heq]
  obtain ⟨i, hi, hia⟩ := List.getElem_of_mem hmem
  obtain ⟨j, hj, hjb⟩ := List.getElem_of_mem hlb
  have hfirst := List.prefix_iff_getElem?.1 hpre
  have hia' : h.layers[i]? = some la := by rw [hfirst i hi, hia]
  have hjb' : h.layers[j]? = some lb := by rw [List.getElem?_eq_getElem hj, hjb]
  refine ⟨i, j, ?_, ?_, ?_⟩
  · by_contra hle
    -- the layer of `b` would be one of those made of `front`
    have hj' : j < (addLayers [] front).length := by omega
    have hbmem : lb ∈ addLayers [] front := by
      have := hfirst j hj'
      rw [hjb'] at this
      rw [Option.some.inj this]
      exact List.getElem_mem hj'
    have hname : lb.type.name ∈ Layer.names (addLayers [] front) := List.mem_map_of_mem hbmem
    rcases mem_names_addLayers.1 hname with h | h
    · cases h
    · exact hnot h
  · rw [hia', ← hat i la hia']
  · rw [hjb', ← hat j lb hjb']

/-! ## The walks that make up a hierarchy -/

namespace Context

/-- The base walk of the type that a reference names; it is empty if there is no such type. -/
def walkOf (ctx : Context) (roots : List String) (ref : TypeRef) : List TypeHandle :=
  ((ctx.resolve ref).map fun t => ((BaseChain.ofType ctx roots t).answer ctx.snapshot).types).getD []

/-- A type lies on the base walk of the type that a reference names. -/
def OnBaseWalk (ctx : Context) (roots : List String) (ref : TypeRef) (t : TypeHandle) : Prop :=
  ∃ start w, ctx.resolve ref = some start ∧ IsBaseWalk ctx roots start w ∧ t ∈ w

variable {ctx : Context} {roots : List String} {ref : TypeRef}

theorem isBaseWalk_walkOf {start : TypeHandle} (h : ctx.resolve ref = some start) :
    IsBaseWalk ctx roots start (ctx.walkOf roots ref) := by
  rw [walkOf, h]
  exact (BaseChain.answer_ofType start).1

theorem onBaseWalk_iff {t : TypeHandle} : ctx.OnBaseWalk roots ref t ↔ t ∈ ctx.walkOf roots ref := by
  constructor
  · rintro ⟨start, w, hstart, hw, ht⟩
    rwa [(isBaseWalk_walkOf hstart).unique hw]
  · intro ht
    cases hstart : ctx.resolve ref with
    | none => simp [walkOf, hstart] at ht
    | some start => exact ⟨start, _, hstart, isBaseWalk_walkOf hstart, ht⟩

/-- The type that a reference names heads its base walk. -/
theorem onBaseWalk_of_resolve {start : TypeHandle} (h : ctx.resolve ref = some start) :
    ctx.OnBaseWalk roots ref start := by
  have hwalk : IsBaseWalk ctx roots start (ctx.walkOf roots ref) := isBaseWalk_walkOf h
  obtain ⟨rest, heq⟩ := hwalk.eq_cons
  exact ⟨start, _, h, hwalk, heq ▸ List.mem_cons_self⟩

theorem knows_walkOf {t : TypeHandle} (ht : t ∈ ctx.walkOf roots ref) : ctx.Knows t := by
  obtain ⟨start, w, hstart, hw, ht⟩ := onBaseWalk_iff.2 ht
  exact hw.knows (knows_of_resolve hstart) t ht

end Context

namespace Hierarchy

variable {ctx : Context} {roots : List String}

theorem answer_addLower (ls : List Layer) (lower : List TypeRef) :
    (addLower ctx roots ls lower).answer ctx.snapshot =
      addLayers ls (lower.flatMap fun r => (ctx.walkOf roots r).reverse) := by
  unfold addLower
  rw [Analysis.answer_foldlM]
  induction lower generalizing ls with
  | nil => rfl
  | cons r lower ih =>
    rw [List.foldl_cons, ih, List.flatMap_cons, addLayers_append]
    congr 1
    simp only [Analysis.answer_bind, Analysis.answer_find?, Context.walkOf, Context.resolve]
    cases ctx.snapshot.find? r.name with
    | none => rfl
    | some t => rw [Analysis.answer_bind]; rfl

theorem answer_findTarget (args : List TypeRef) :
    ((findTarget args).answer ctx.snapshot).map (⟨·, .snapshot⟩) =
      args.getLast?.bind ctx.resolve := by
  unfold findTarget
  cases args.getLast? <;> rfl

theorem answer_targetLayers (args : List TypeRef) :
    (targetLayers ctx roots ((findTarget args).answer ctx.snapshot)).answer ctx.snapshot =
      addLayers [] (args.getLast?.toList.flatMap fun r => (ctx.walkOf roots r).reverse) := by
  unfold findTarget
  cases args.getLast? with
  | none => rfl
  | some r =>
    simp only [Analysis.answer_find?, Option.toList_some, List.flatMap_singleton, Context.walkOf,
      Context.resolve]
    cases ctx.snapshot.find? r.name with
    | none => rfl
    | some t => rw [targetLayers, Analysis.answer_bind]; rfl

/-- The layers of an extension: the target is the last argument of the root, so that the arguments
    are simply gone through from the last on. -/
theorem answer_ofExtension {chain : BaseChain} {args : List TypeRef}
    (hargs : (chain.exit.map (·.args)).getD [] = args) :
    (ofExtension ctx roots chain).answer ctx.snapshot =
      { role := .extension
        layers := addLayers []
          ((args.reverse.flatMap fun r => (ctx.walkOf roots r).reverse) ++ chain.types.reverse)
        target := args.getLast?.bind ctx.resolve
        root := chain.exit } := by
  have hreverse : args.reverse = args.getLast?.toList ++ args.dropLast.reverse := by
    rcases List.eq_nil_or_concat args with h | ⟨front, r, h⟩ <;> simp [h]
  simp only [ofExtension, Analysis.answer_bind, Analysis.answer_pure, answer_addLower, hargs,
    answer_targetLayers, answer_findTarget]
  rw [hreverse, List.flatMap_append, addLayers_append, addLayers_append]

/-- What linearization can give: nothing, the walk of an entity, or the walks of an extension. -/
theorem linearize_cases (ctx : Context) (family : Family) (t : TypeHandle) {h : Hierarchy}
    (hh : (linearize ctx family t).answer ctx.snapshot = h) :
    h = {} ∨ ∃ w, IsBaseWalk ctx (family.roots ctx.framework) t w ∧
      h.root = w.getLast?.bind (ctx.exit? (family.roots ctx.framework)) ∧
      (h.role = .primary ∧ h.layers = addLayers [] w.reverse ∨
        h.role = .extension ∧ (∃ exit, h.root = some exit) ∧
          h.layers = addLayers [] ((h.rootArgs.reverse.flatMap fun r =>
            (ctx.walkOf (family.roots ctx.framework) r).reverse) ++ w.reverse)) := by
  obtain ⟨hwalk, hexit⟩ := @BaseChain.answer_ofType ctx (family.roots ctx.framework) t
  simp only [linearize, Analysis.answer_bind] at hh
  set chain := (BaseChain.ofType ctx (family.roots ctx.framework) t).answer ctx.snapshot
  split at hh
  · next hany =>
    obtain ⟨exit, hsome, -⟩ := Option.any_eq_true _ _ |>.1 hany
    subst hh
    refine Or.inr ⟨chain.types, hwalk, ?_⟩
    rw [answer_ofExtension rfl]
    exact ⟨hexit, Or.inr ⟨rfl, ⟨exit, hsome⟩, rfl⟩⟩
  · rw [Analysis.answer_bind] at hh
    split at hh
    · subst hh
      exact Or.inr ⟨chain.types, hwalk, hexit, Or.inl ⟨rfl, rfl⟩⟩
    · subst hh
      exact Or.inl rfl

/-- The target of an extension is what the last argument of its root refers to. -/
theorem target_of_extension {family : Family} {t : TypeHandle} {h : Hierarchy}
    (hh : (linearize ctx family t).answer ctx.snapshot = h) (hrole : h.role = .extension) :
    h.target = h.rootArgs.getLast?.bind ctx.resolve := by
  simp only [linearize, Analysis.answer_bind] at hh
  split at hh
  · rw [answer_ofExtension rfl] at hh
    subst hh
    rfl
  · rw [Analysis.answer_bind] at hh
    split at hh <;> subst hh <;> cases hrole

theorem layers_eq_nil (ctx : Context) (family : Family) (t : TypeHandle)
    (h : ((linearize ctx family t).answer ctx.snapshot).role = .unrelated) :
    ((linearize ctx family t).answer ctx.snapshot).layers = [] := by
  rcases linearize_cases ctx family t rfl with hcase | ⟨w, -, -, ⟨hcase, -⟩ | ⟨hcase, -⟩⟩
  · rw [hcase]
  · rw [hcase] at h
    cases h
  · rw [hcase] at h
    cases h

/-- The positions of the layers of a type ascend. -/
theorem pairwise_index (ctx : Context) (family : Family) (t : TypeHandle) :
    ((linearize ctx family t).answer ctx.snapshot).layers.Pairwise (·.index < ·.index) := by
  rcases linearize_cases ctx family t rfl with h | ⟨w, -, -, ⟨-, h⟩ | ⟨-, -, h⟩⟩
  · rw [h]
    exact .nil
  · rw [h]
    exact pairwise_index_addLayers _
  · rw [h]
    exact pairwise_index_addLayers _

/-- A layer is the type itself or a type of the snapshot. -/
theorem eq_or_knows_layer {family : Family} {t : TypeHandle} {l : Layer}
    (hl : l ∈ ((linearize ctx family t).answer ctx.snapshot).layers) :
    l.type = t ∨ ctx.Knows l.type := by
  rcases linearize_cases ctx family t rfl with h | ⟨w, hw, -, hcase⟩
  · rw [h] at hl
    cases hl
  · have hwalk : ∀ x ∈ w, x = t ∨ ctx.Knows x := by
      obtain ⟨rest, rfl⟩ := hw.eq_cons
      exact List.forall_mem_cons.2 ⟨.inl rfl, fun x hx => .inr (hw.knows_tail x hx)⟩
    rcases hcase with ⟨-, h⟩ | ⟨-, -, h⟩ <;> rw [h] at hl
    · exact hwalk _ (List.mem_reverse.1 (type_mem_of_mem_addLayers hl))
    · rcases List.mem_append.1 (type_mem_of_mem_addLayers hl) with hl | hl
      · obtain ⟨r, -, hl⟩ := List.mem_flatMap.1 hl
        exact .inr (Context.knows_walkOf (List.mem_reverse.1 hl))
      · exact hwalk _ (List.mem_reverse.1 hl)

/-- All layers of a type of the snapshot are types of the snapshot. -/
theorem knows_layer {family : Family} {t : TypeHandle} (ht : ctx.Knows t) {l : Layer}
    (hl : l ∈ ((linearize ctx family t).answer ctx.snapshot).layers) : ctx.Knows l.type := by
  rcases eq_or_knows_layer hl with heq | hknows
  · rwa [heq]
  · exact hknows

end Hierarchy

/-! ## The order -/

section
variable {ctx : Context} {roots : List String}

/-- Wherever a type stands in the list, what it reaches without being reached stands in front. -/
def BasesFirst (ctx : Context) (roots : List String) (ts : List TypeHandle) : Prop :=
  ∀ front b back, ts = front ++ b :: back →
    ∀ a, ctx.Reaches roots b a → ¬ ctx.Reaches roots a b → a ∈ front

theorem BasesFirst.append {ts us : List TypeHandle} (hts : BasesFirst ctx roots ts)
    (hus : BasesFirst ctx roots us) : BasesFirst ctx roots (ts ++ us) := by
  intro front b back heq a hba hab
  rcases List.append_eq_append_iff.1 heq with ⟨mid, rfl, hmid⟩ | ⟨mid, rfl, hmid⟩
  · exact List.mem_append_right _ (hus mid b back hmid a hba hab)
  · cases mid with
    | nil => exact absurd (hus [] b back hmid.symm a hba hab) List.not_mem_nil
    | cons c mid =>
      obtain ⟨rfl, hmid⟩ := List.cons.inj hmid
      exact hts front b mid rfl a hba hab

theorem BasesFirst.flatMap {rs : List TypeRef} {f : TypeRef → List TypeHandle}
    (h : ∀ r ∈ rs, BasesFirst ctx roots (f r)) : BasesFirst ctx roots (rs.flatMap f) := by
  induction rs with
  | nil => intro front b back heq; simp at heq
  | cons r rs ih =>
    rw [List.flatMap_cons]
    exact (h r List.mem_cons_self).append (ih fun r hr => h r (List.mem_cons_of_mem _ hr))

/-- In a walk taken from its end, a type comes after those on the walk that do not reach it. -/
theorem BaseWalk.mem_front {seen : List String} {t a b : TypeHandle} {w front back : List TypeHandle}
    (h : BaseWalk ctx roots seen t w) (heq : w.reverse = front ++ b :: back) (ha : a ∈ w)
    (hab : ¬ ctx.Reaches roots a b) : a ∈ front := by
  have hw : w = back.reverse ++ b :: front.reverse := by
    rw [← List.reverse_inj, heq]; simp
  have hpairwise := h.pairwise
  rw [hw] at ha hpairwise
  rcases List.mem_append.1 ha with ha | ha
  · exact absurd ((List.pairwise_append.1 hpairwise).2.2 a ha b List.mem_cons_self) hab
  · rcases List.mem_cons.1 ha with rfl | ha
    · exact absurd .refl hab
    · exact List.mem_reverse.1 ha

theorem BaseWalk.basesFirst {seen : List String} {t : TypeHandle} {w : List TypeHandle}
    (h : BaseWalk ctx roots seen t w)
    (hclosed : ∀ x ∈ w, ∀ y, ctx.base? roots x = some y → y ∈ w) :
    BasesFirst ctx roots w.reverse := by
  intro front b back heq a hba hab
  have hb : b ∈ w := by rw [← List.mem_reverse, heq]; simp
  exact h.mem_front heq (mem_of_reaches hclosed hb hba) hab

theorem basesFirst_walkOf (ref : TypeRef) : BasesFirst ctx roots (ctx.walkOf roots ref).reverse := by
  cases hstart : ctx.resolve ref with
  | none => simp [Context.walkOf, hstart, BasesFirst]
  | some start =>
    have hwalk : IsBaseWalk ctx roots start (ctx.walkOf roots ref) :=
      Context.isBaseWalk_walkOf hstart
    exact hwalk.basesFirst (BaseWalk.closed hwalk (Context.knows_of_resolve hstart))

end

/-- What the order of the layers of a type promises. -/
structure LayersOrdered (ctx : Context) (family : Family) (t : TypeHandle) (h : Hierarchy) :
    Prop where
  /-- The root is the reference at which the base walk of the type leads out. -/
  root_eq : h.role ≠ .unrelated → ∃ w, IsBaseWalk ctx (family.roots ctx.framework) t w ∧
    h.root = w.getLast?.bind (ctx.exit? (family.roots ctx.framework))
  /-- What a type derives from comes before it, unless it derives from the type in turn. -/
  base_first : ∀ a ∈ h.types, ∀ b ∈ h.types, ctx.Reaches (family.roots ctx.framework) b a →
    ¬ ctx.Reaches (family.roots ctx.framework) a b → h.Before a b
  /-- The base walk of the target of an extension, from its end, comes first. -/
  target_first : h.role = .extension → ∀ r target w, h.rootArgs.getLast? = some r →
    ctx.resolve r = some target → IsBaseWalk ctx (family.roots ctx.framework) target w →
    w.reverse <+: h.types
  /-- Of two types that the root of an extension names, the one named later comes first, unless the
      other one lies on the base walk of a type named not earlier than that. The last one named is
      the target; the others are lower extensions. -/
  lower_first : h.role = .extension → ∀ i j : Nat, i < j → ∀ ra rb a b,
    h.rootArgs[i]? = some ra → h.rootArgs[j]? = some rb → ctx.resolve ra = some a →
    ctx.resolve rb = some b →
    (∀ k r, j ≤ k → h.rootArgs[k]? = some r →
      ¬ ctx.OnBaseWalk (family.roots ctx.framework) r a) →
    h.Before b a
  /-- The type itself comes last, unless its name comes up on the base walk of a type that the root
      of the extension names. -/
  self_last : h.role = .primary ∨ h.role = .extension ∧ (∀ r ∈ h.rootArgs, ∀ u,
    ctx.OnBaseWalk (family.roots ctx.framework) r u → u.name ≠ t.name) → h.types.getLast? = some t
  /-- A type of the snapshot comes last, unless it is itself on the base walk of a type that the
      root of the extension names. -/
  known_last : h.role = .extension → ctx.Knows t → (∀ r ∈ h.rootArgs,
    ¬ ctx.OnBaseWalk (family.roots ctx.framework) r t) → h.types.getLast? = some t

namespace Hierarchy

variable {ctx : Context} {family : Family} {t : TypeHandle} {h : Hierarchy} {w : List TypeHandle}

theorem layersOrdered_primary (hw : IsBaseWalk ctx (family.roots ctx.framework) t w)
    (hroot : h.root = w.getLast?.bind (ctx.exit? (family.roots ctx.framework)))
    (hrole : h.role = .primary) (hlayers : h.layers = addLayers [] w.reverse) :
    LayersOrdered ctx family t h := by
  have hnodup : (w.reverse.map (·.name)).Nodup := by
    rw [List.map_reverse, List.nodup_reverse]
    exact hw.distinct List.mem_cons_self
  have htypes : h.types = w.reverse := by
    rw [types, hlayers]
    exact types_addLayers (by simp [Layer.names]) hnodup
  have hne : h.role ≠ .extension := by rw [hrole]; decide
  refine ⟨fun _ => ⟨w, hw, hroot⟩, ?_, fun he => absurd he hne, fun he => absurd he hne,
    fun _ => ?_, fun he => absurd he hne⟩
  · intro a ha b hb _ hab
    have hb' : b ∈ w.reverse := htypes ▸ hb
    obtain ⟨front, back, heq⟩ := List.append_of_mem hb'
    have hafront : a ∈ front := by
      refine hw.mem_front heq ?_ hab
      rw [htypes] at ha
      exact List.mem_reverse.1 ha
    refine before_addLayers (hlayers.trans (by rw [heq])) ha hb (List.mem_map_of_mem hafront) ?_
    rw [heq, List.map_append, List.map_cons] at hnodup
    exact fun hmem => (List.nodup_append.1 hnodup).2.2 _ hmem _ List.mem_cons_self rfl
  · obtain ⟨rest, rfl⟩ := hw.eq_cons
    rw [htypes]
    simp

section
variable {roots : List String}

/-- The layers of an extension keep bases in front of what derives from them. -/
theorem before_of_reaches {ts : List TypeHandle} (hlayers : h.layers = addLayers [] ts)
    (hfirst : BasesFirst ctx roots ts) {a b : TypeHandle} (ha : a ∈ h.types) (hb : b ∈ h.types)
    (hba : ctx.Reaches roots b a) (hab : ¬ ctx.Reaches roots a b) : h.Before a b := by
  obtain ⟨lb, hlb, rfl⟩ := List.mem_map.1 hb
  rcases mem_addLayers (hlayers ▸ hlb) with hnil | ⟨-, front, back, heq, hfront⟩
  · cases hnil
  · have hafront := hfirst front _ back heq a hba hab
    exact before_addLayers (hlayers.trans (by rw [heq])) ha hb (List.mem_map_of_mem hafront) hfront

/-- Of two types named by references, the one named later comes first if the references are gone
    through from the last on. -/
theorem before_of_named_later {args : List TypeRef} {back : List TypeHandle}
    (hlayers : h.layers = addLayers []
      ((args.reverse.flatMap fun r => (ctx.walkOf roots r).reverse) ++ back))
    {i j : Nat} {ra rb : TypeRef} {a b : TypeHandle} (hra : args[i]? = some ra)
    (hrb : args[j]? = some rb) (ha : ctx.resolve ra = some a) (hb : ctx.resolve rb = some b)
    (hnot : ∀ k r, j ≤ k → args[k]? = some r → ¬ ctx.OnBaseWalk roots r a) : h.Before b a := by
  set walks : List TypeRef → List TypeHandle :=
    fun rs => rs.reverse.flatMap fun r => (ctx.walkOf roots r).reverse with hwalks
  have hmem_walks : ∀ {rs : List TypeRef} {x : TypeHandle},
      x ∈ walks rs ↔ ∃ r ∈ rs, ctx.OnBaseWalk roots r x := by
    intro rs x
    simp only [hwalks, List.mem_flatMap, List.mem_reverse, Context.onBaseWalk_iff]
  have hhead : ∀ {k : Nat} {r : TypeRef} {x : TypeHandle}, args[k]? = some r →
      ctx.resolve r = some x → x ∈ walks args := by
    intro k r x hr hx
    exact hmem_walks.2 ⟨r, List.mem_of_getElem? hr, Context.onBaseWalk_of_resolve hx⟩
  have hknown : ∀ x ∈ walks args, ctx.Knows x := by
    intro x hx
    obtain ⟨r, -, hr⟩ := hmem_walks.1 hx
    exact Context.knows_walkOf (Context.onBaseWalk_iff.1 hr)
  have htypes : ∀ x ∈ walks args, x ∈ h.types := by
    intro x hx
    rw [types, hlayers, addLayers_append]
    exact ((prefix_addLayers _ back).map _).subset (mem_types_addLayers hknown hx)
  -- the references from the later one on are gone through first
  have hsplit : walks args = walks (args.drop j) ++ walks (args.take j) := by
    simp only [hwalks]
    rw [← List.flatMap_append, ← List.reverse_append, List.take_append_drop]
  have hlayers' : h.layers =
      addLayers [] (walks (args.drop j) ++ (walks (args.take j) ++ back)) := by
    rw [hlayers, ← List.append_assoc, ← hsplit]
  refine before_addLayers hlayers' (htypes b (hhead hrb hb)) (htypes a (hhead hra ha)) ?_ ?_
  · have hfirst : (args.drop j)[0]? = some rb := by
      rw [List.getElem?_drop]
      exact hrb
    exact List.mem_map_of_mem
      (hmem_walks.2 ⟨rb, List.mem_of_getElem? hfirst, Context.onBaseWalk_of_resolve hb⟩)
  · intro hname
    obtain ⟨x, hx, heq⟩ := List.mem_map.1 hname
    obtain ⟨r, hr, hon⟩ := hmem_walks.1 hx
    have hxa : x = a := (hknown x (hsplit ▸ List.mem_append_left _ hx)).eq_of_name
      (hknown a (hhead hra ha)) heq
    obtain ⟨k, hk⟩ := List.getElem?_of_mem hr
    rw [List.getElem?_drop] at hk
    exact hnot (j + k) r (Nat.le_add_right j k) hk (hxa ▸ hon)

/-- A type with a new name that is added last is the last layer. -/
theorem getLast?_types {ts : List TypeHandle} (hlayers : h.layers = addLayers [] (ts ++ [t]))
    (hnew : t.name ∉ ts.map (·.name)) : h.types.getLast? = some t := by
  have hnot : t.name ∉ Layer.names (addLayers [] ts) := by
    rw [mem_names_addLayers, not_or]
    exact ⟨List.not_mem_nil, hnew⟩
  rw [types, hlayers, addLayers_append, addLayers_cons_of_notMem hnot]
  simp [addLayers]

end

theorem layersOrdered_extension (hw : IsBaseWalk ctx (family.roots ctx.framework) t w)
    (hroot : h.root = w.getLast?.bind (ctx.exit? (family.roots ctx.framework)))
    {exit : TypeRef} (hexit : h.root = some exit) (hrole : h.role = .extension)
    (hlayers : h.layers = addLayers [] ((h.rootArgs.reverse.flatMap fun r =>
      (ctx.walkOf (family.roots ctx.framework) r).reverse) ++ w.reverse)) :
    LayersOrdered ctx family t h := by
  have hlast : (∀ r ∈ h.rootArgs, ∀ u, ctx.OnBaseWalk (family.roots ctx.framework) r u →
      u.name ≠ t.name) → h.types.getLast? = some t := by
    intro hother
    obtain ⟨rest, rfl⟩ := hw.eq_cons
    rw [List.reverse_cons, ← List.append_assoc] at hlayers
    refine getLast?_types hlayers fun hmem => ?_
    obtain ⟨u, hu, hname⟩ := List.mem_map.1 hmem
    rcases List.mem_append.1 hu with hu | hu
    · obtain ⟨r, hr, hu⟩ := List.mem_flatMap.1 hu
      have hon := Context.onBaseWalk_iff.2 (List.mem_reverse.1 hu)
      exact hother r (List.mem_reverse.1 hr) u hon hname
    · have hdistinct := hw.distinct List.mem_cons_self
      rw [List.map_cons, List.nodup_cons] at hdistinct
      exact hdistinct.1 (List.mem_map.2 ⟨u, List.mem_reverse.1 hu, hname⟩)
  refine ⟨fun _ => ⟨w, hw, hroot⟩, ?_, ?_, ?_, ?_, ?_⟩
  · intro a ha b hb hba hab
    refine before_of_reaches hlayers ?_ ha hb hba hab
    exact (BasesFirst.flatMap fun r _ => basesFirst_walkOf r).append
      (hw.basesFirst (hw.closed_of_exit (hroot ▸ hexit)))
  · intro _ r target w' hr htarget hw'
    obtain ⟨front, hfront⟩ := List.getLast?_eq_some_iff.1 hr
    have hwalk : ctx.walkOf (family.roots ctx.framework) r = w' :=
      (Context.isBaseWalk_walkOf htarget).unique hw'
    rw [types, hlayers, hfront, List.reverse_append, List.reverse_singleton,
      List.singleton_append, List.flatMap_cons, hwalk, List.append_assoc]
    refine prefix_types_addLayers ?_
    rw [List.map_reverse, List.nodup_reverse]
    exact hw'.distinct List.mem_cons_self
  · intro _ i j _ ra rb a b hra hrb ha hb hnot
    exact before_of_named_later hlayers hra hrb ha hb hnot
  · rintro (hprimary | ⟨-, hother⟩)
    · rw [hrole] at hprimary
      cases hprimary
    · exact hlast hother
  · intro _ hknows hother
    refine hlast fun r hr u hu hname => hother r hr ?_
    rwa [← (Context.knows_walkOf (Context.onBaseWalk_iff.1 hu)).eq_of_name hknows hname]

/-- Every type has a hierarchy, and its layers are ordered: bases before what derives from them,
    the target of an extension before its lower extensions, and the type itself last. -/
theorem linearize_layersOrdered (ctx : Context) (family : Family) (t : TypeHandle) :
    ∃ h, (linearize ctx family t).run ctx.snapshot {} = (some h, {}) ∧
      LayersOrdered ctx family t h := by
  refine ⟨_, Analysis.run_quiet _, ?_⟩
  rcases linearize_cases ctx family t rfl with h | ⟨w, hw, hroot, hcase⟩
  · rw [h]
    exact ⟨by simp, by simp [types], by simp, by simp, by simp, by simp⟩
  · rcases hcase with ⟨hrole, hlayers⟩ | ⟨hrole, ⟨exit, hexit⟩, hlayers⟩
    · exact layersOrdered_primary hw hroot hrole hlayers
    · exact layersOrdered_extension hw hroot hexit hrole hlayers

end Hierarchy

end SnapshotLint

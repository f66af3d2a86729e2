/-
  Overriding, for any sequence of declarations.

  The chain of a name comes about from the declarations of that name alone, one after the other
  (`Collection.declarations_ofList`). In whatever order their layers come, it keeps some of them and
  ends with the last one (`sublist_chainOf`, `getLast?_chainOf`). If the layers never descend, it keeps
  the last one of each layer: a declaration in the layer of the one before takes its place
  (`Ascending.replace`), and any other goes on top (`Ascending.push`).

  * `Collection.additions`: the declarations of a name with their places in the sequence.
  * `Overridable.overriddenAt?`: what is reached by asking several times for what is overridden.
  * `Collection.ofList_resolved`: what a finished collection holds.
-/
import SnapshotLint.Proofs.OverrideChain

namespace SnapshotLint

variable {α : Type}

/-! ## Chains -/

section
variable {ds chain front : List (Declaration α)} {a d : Declaration α}

/-- The chain that declarations of one name make up. -/
def chainOf (ds : List (Declaration α)) : List (Declaration α) := ds.foldl declareOn []

theorem chainOf_concat (ds : List (Declaration α)) (d : Declaration α) :
    chainOf (ds ++ [d]) = declareOn (chainOf ds) d := List.foldl_concat ..

theorem getLast?_chainOf (ds : List (Declaration α)) : (chainOf ds).getLast? = ds.getLast? := by
  induction ds using List.reverseRecOn with
  | nil => rfl
  | append_singleton ds d _ =>
    rw [chainOf_concat, declareOn, List.getLast?_concat, List.getLast?_concat]

theorem sublist_chainOf (ds : List (Declaration α)) : (chainOf ds).Sublist ds := by
  induction ds using List.reverseRecOn with
  | nil => exact .slnil
  | append_singleton ds d ih =>
    rw [chainOf_concat, declareOn]
    refine List.Sublist.append ?_ (.refl _)
    split
    · exact (List.dropLast_sublist _).trans ih
    · exact ih

/-- A chain has one declaration for each layer, the last one there. -/
structure Ascending (ds chain : List (Declaration α)) : Prop where
  /-- The layers are those of the declarations, each of them once. -/
  layers_eq : chain.map (·.layer) = (ds.map (·.layer)).eraseDups
  /-- A declaration of the chain is the last one of its layer. -/
  last_of_layer : ∀ d ∈ chain, (ds.filter (·.layer = d.layer)).getLast? = some d
  /-- The layers ascend. -/
  strict : chain.Pairwise (·.layer < ·.layer)

theorem Ascending.mem_layers (h : Ascending ds chain) {i : Nat} :
    i ∈ ds.map (·.layer) ↔ i ∈ chain.map (·.layer) := by
  rw [h.layers_eq, List.mem_eraseDups]

theorem Ascending.last_concat (h : Ascending ds chain) {c : Declaration α} (hc : c ∈ chain)
    (hne : c.layer ≠ d.layer) : ((ds ++ [d]).filter (·.layer = c.layer)).getLast? = some c := by
  rw [List.filter_append, List.filter_singleton]
  simpa [Ne.symm hne] using h.last_of_layer c hc

/-- A declaration in the layer of the newest one takes its place. -/
theorem Ascending.replace (h : Ascending ds (front ++ [a])) (hlayer : a.layer = d.layer) :
    Ascending (ds ++ [d]) (front ++ [d]) := by
  have hmem : d.layer ∈ ds.map (·.layer) := by
    rw [h.mem_layers, ← hlayer]
    exact List.mem_map_of_mem (List.mem_append_right _ List.mem_cons_self)
  have hfront : ∀ c ∈ front, c.layer < d.layer := by
    intro c hc
    rw [← hlayer]
    exact (List.pairwise_append.1 h.strict).2.2 c hc a List.mem_cons_self
  refine ⟨?_, fun c hc => ?_, ?_⟩
  · have hlayers := h.layers_eq
    rw [List.map_append, List.map_singleton, hlayer] at hlayers
    rw [List.map_append, List.map_append, List.map_singleton, Collection.eraseDups_concat,
      if_pos hmem, ← hlayers]
  · rcases List.mem_append.1 hc with hc | hc
    · exact h.last_concat (List.mem_append_left _ hc) (Nat.ne_of_lt (hfront c hc))
    · rw [List.mem_singleton.1 hc, List.filter_append, List.filter_singleton]
      simp
  · refine List.pairwise_append.2 ⟨(List.pairwise_append.1 h.strict).1, by simp, ?_⟩
    intro c hc d' hd'
    rw [List.mem_singleton.1 hd']
    exact hfront c hc

/-- A declaration in a higher layer goes on top. -/
theorem Ascending.push (h : Ascending ds chain) (hlt : ∀ c ∈ chain, c.layer < d.layer) :
    Ascending (ds ++ [d]) (chain ++ [d]) := by
  have hnot : d.layer ∉ ds.map (·.layer) := by
    rw [h.mem_layers]
    intro hmem
    obtain ⟨c, hc, hlayer⟩ := List.mem_map.1 hmem
    exact absurd hlayer (Nat.ne_of_lt (hlt c hc))
  refine ⟨?_, fun c hc => ?_, ?_⟩
  · rw [List.map_append, List.map_append, List.map_singleton, Collection.eraseDups_concat,
      if_neg hnot, h.layers_eq]
  · rcases List.mem_append.1 hc with hc | hc
    · exact h.last_concat hc (Nat.ne_of_lt (hlt c hc))
    · rw [List.mem_singleton.1 hc, List.filter_append, List.filter_singleton]
      simp
  · refine List.pairwise_append.2 ⟨h.strict, by simp, ?_⟩
    intro c hc d' hd'
    rw [List.mem_singleton.1 hd']
    exact hlt c hc

theorem ascending_chainOf (h : ds.Pairwise (·.layer ≤ ·.layer)) : Ascending ds (chainOf ds) := by
  induction ds using List.reverseRecOn with
  | nil => exact ⟨rfl, by simp [chainOf], .nil⟩
  | append_singleton ds d ih =>
    obtain ⟨hds, -, hlast⟩ := List.pairwise_append.1 h
    have ih := ih hds
    have hle : ∀ c ∈ chainOf ds, c.layer ≤ d.layer :=
      fun c hc => hlast c ((sublist_chainOf ds).subset hc) d List.mem_cons_self
    rw [chainOf_concat]
    rcases List.eq_nil_or_concat' (chainOf ds) with hnil | ⟨front, a, hchain⟩
    · rw [declareOn_of_lt (by simp [hnil])]
      exact ih.push (by simp [hnil])
    · by_cases hlayer : a.layer = d.layer
      · rw [hchain, declareOn_of_le (Nat.le_of_eq hlayer.symm)]
        exact (hchain ▸ ih).replace hlayer
      · -- the newest declaration is below, and so are the others, which are below that one
        have hlt : ∀ c ∈ chainOf ds, c.layer < d.layer := by
          have hstrict := ih.strict
          rw [hchain] at hstrict hle ⊢
          intro c hc
          have had : a.layer < d.layer :=
            Nat.lt_of_le_of_ne (hle a (List.mem_append_right _ List.mem_cons_self)) hlayer
          rcases List.mem_append.1 hc with hc | hc
          · have hca := (List.pairwise_append.1 hstrict).2.2 c hc a List.mem_cons_self
            exact Nat.lt_trans hca had
          · rwa [List.mem_singleton.1 hc]
        rw [declareOn_of_lt hlt]
        exact ih.push hlt

end

/-! ## What is overridden -/

namespace Overridable

variable {o o' : Overridable α} {k : Nat}

/-- What is reached by asking `k` times for what is overridden. -/
def overriddenAt? (o : Overridable α) : Nat → Option (Overridable α)
  | 0 => some o
  | k + 1 => (o.overriddenAt? k).bind overridden?

theorem getLast?_chain (o : Overridable α) : o.chain.getLast? = some o.nearest := by
  rw [chain, List.getLast?_append_cons, List.getLast?_cons, nearest, List.getLastD_eq_getLast?]

/-- A step to what is overridden stays in the chain. -/
theorem overridden?_eq_some_iff : o.overridden? = some o' ↔
    o'.name = o.name ∧ o.older = o'.this :: o'.older ∧ o'.newer = o.this :: o.newer := by
  rcases o with ⟨name, this, older, newer⟩
  rcases o' with ⟨name', this', older', newer'⟩
  cases older with
  | nil => simp [overridden?]
  | cons d ds =>
    simp only [overridden?, Option.some.injEq, mk.injEq, List.cons.injEq]
    constructor
    · rintro ⟨rfl, rfl, rfl, rfl⟩
      exact ⟨rfl, ⟨rfl, rfl⟩, rfl⟩
    · rintro ⟨rfl, ⟨rfl, rfl⟩, rfl⟩
      exact ⟨rfl, rfl, rfl, rfl⟩

/-- So do several steps. -/
theorem overriddenAt?_chain (h : o.overriddenAt? k = some o') :
    o'.name = o.name ∧ o'.chain = o.chain ∧ o'.newer.length = o.newer.length + k := by
  induction k generalizing o' with
  | zero =>
    cases h
    exact ⟨rfl, rfl, rfl⟩
  | succ k ih =>
    obtain ⟨m, hm, ho'⟩ := Option.bind_eq_some_iff.1 h
    obtain ⟨hname, holder, hnewer⟩ := overridden?_eq_some_iff.1 ho'
    obtain ⟨hname', hchain, hlength⟩ := ih hm
    refine ⟨hname.trans hname', ?_, ?_⟩
    · rw [← hchain, chain, chain, holder, hnewer]
      simp
    · rw [hnewer, List.length_cons, hlength, Nat.add_assoc]

/-- There are as many steps as there are older declarations. -/
theorem exists_overriddenAt?_iff : (∃ o', o.overriddenAt? k = some o') ↔ k ≤ o.older.length := by
  induction k with
  | zero => simp [overriddenAt?]
  | succ k ih =>
    have hlength : ∀ m, o.overriddenAt? k = some m → m.older.length + k = o.older.length := by
      intro m hm
      obtain ⟨-, hchain, hnewer⟩ := overriddenAt?_chain hm
      have := congrArg List.length hchain
      simp only [chain, List.length_append, List.length_reverse, List.length_cons] at this
      omega
    constructor
    · rintro ⟨o', ho'⟩
      obtain ⟨m, hm, hstep⟩ := Option.bind_eq_some_iff.1 ho'
      have holder := congrArg List.length (overridden?_eq_some_iff.1 hstep).2.1
      rw [List.length_cons] at holder
      have := hlength m hm
      omega
    · intro hle
      obtain ⟨m, hm⟩ := ih.2 (by omega)
      have := hlength m hm
      cases holder : m.older with
      | nil => rw [holder, List.length_nil] at this; omega
      | cons d ds =>
        refine ⟨{ m with this := d, older := ds, newer := m.this :: m.newer }, ?_⟩
        rw [overriddenAt?, hm, Option.bind_some]
        exact overridden?_eq_some_iff.2 ⟨rfl, holder, rfl⟩

end Overridable

/-! ## Collections -/

namespace Collection

/-- The declarations of a name in a sequence of declarations, each with its place in the sequence. -/
def additions (ds : List (String × Nat × α)) (n : String) : List (Declaration α) :=
  (ds.zipIdx.filter (·.1.1 = n)).map fun e => ⟨e.1.2.2, e.1.2.1, e.2⟩

section
variable {ds : List (String × Nat × α)} {n : String}

theorem additions_concat (ds : List (String × Nat × α)) (d : String × Nat × α) (n : String) :
    additions (ds ++ [d]) n =
      additions ds n ++ if d.1 = n then [⟨d.2.2, d.2.1, ds.length⟩] else [] := by
  rw [additions, List.zipIdx_append, List.filter_append, List.map_append, additions]
  by_cases h : d.1 = n <;> simp [h]

theorem pairwise_order_additions (ds : List (String × Nat × α)) (n : String) :
    (additions ds n).Pairwise (·.order < ·.order) := by
  have hplaces : (ds.zipIdx.map (·.2)).Pairwise (· < ·) := by
    rw [List.zipIdx_map_snd]
    exact List.pairwise_lt_range'
  exact List.pairwise_map.2 ((List.pairwise_map.1 hplaces).filter _)

theorem pairwise_layer_additions (h : ds.Pairwise (·.2.1 ≤ ·.2.1)) (n : String) :
    (additions ds n).Pairwise (·.layer ≤ ·.layer) := by
  have hlayers : ds.zipIdx.Pairwise fun a b => a.1.2.1 ≤ b.1.2.1 := by
    rw [← List.pairwise_map (f := Prod.fst) (R := fun a b : String × Nat × α => a.2.1 ≤ b.2.1),
      List.zipIdx_map_fst]
    exact h
  exact List.pairwise_map.2 (hlayers.filter _)

theorem ofList_concat (ds : List (String × Nat × α)) (d : String × Nat × α) :
    ofList (ds ++ [d]) = (ofList ds).add d.1 d.2.1 d.2.2 := List.foldl_concat ..

theorem proper_ofList (ds : List (String × Nat × α)) : (ofList ds).Proper := by
  induction ds using List.reverseRecOn with
  | nil => exact ⟨List.nodup_nil, fun o ho => absurd ho List.not_mem_nil⟩
  | append_singleton ds d ih =>
    rw [ofList_concat]
    exact ih.add d.1 d.2.1 d.2.2

theorem added_ofList (ds : List (String × Nat × α)) : (ofList ds).added = ds.length := by
  induction ds using List.reverseRecOn with
  | nil => rfl
  | append_singleton ds d ih =>
    rw [ofList_concat, List.length_append, List.length_singleton, ← ih]
    rfl

/-- What is declared of other names makes no difference to a chain, but for the places. -/
theorem declarations_ofList (ds : List (String × Nat × α)) (n : String) :
    (ofList ds).declarations n = chainOf (additions ds n) := by
  induction ds using List.reverseRecOn with
  | nil => rfl
  | append_singleton ds d ih =>
    rw [ofList_concat, additions_concat]
    by_cases h : d.1 = n
    · subst h
      rw [if_pos rfl, chainOf_concat, declarations_add (proper_ofList ds), ih, added_ofList]
    · rw [if_neg h, List.append_nil, declarations_add_of_ne (Ne.symm h), ih]

theorem chain_of_mem {o : Overridable α} (ho : o ∈ (ofList ds).items) :
    o.chain = chainOf (additions ds o.name) := by
  rw [← declarations_ofList, declarations, (proper_ofList ds).get?_of_mem ho]
  rfl

end

/-- What a collection holds after a sequence of declarations. -/
structure Resolved (ds : List (String × Nat × α)) (c : Collection α) : Prop where
  /-- Each name is listed once, in the order of the first declarations. -/
  names_eq : c.names = (ds.map (·.1)).eraseDups
  /-- The names that are listed are those that are contained. -/
  contains_iff : ∀ n, c.contains n = true ↔ n ∈ c.names
  /-- What is looked up is what is listed under the name. -/
  get?_eq_some_iff : ∀ n o, c.get? n = some o ↔ o ∈ c.items ∧ o.name = n
  /-- What is listed is the newest declaration of its name, the last one that was added. -/
  nearest_eq : ∀ o ∈ c.items, o.this = o.nearest ∧ o.chain.getLast? = some o.nearest ∧
    (additions ds o.name).getLast? = some o.nearest
  /-- A chain holds declarations of its name, in the order in which they were added. -/
  chain_sublist : ∀ o ∈ c.items, o.chain.Sublist (additions ds o.name)
  /-- The places of the declarations ascend along a chain. -/
  order_strict : ∀ o ∈ c.items, o.chain.Pairwise (·.order < ·.order)
  /-- There is something to step to as long as there are older declarations. -/
  overridden_iff : ∀ o ∈ c.items, ∀ k, (∃ o', o.overriddenAt? k = some o') ↔ k < o.chain.length
  /-- What is reached by `k` steps is a declaration of the chain with `k` newer ones. It overrides the
      declarations before it in the chain, of which the last one comes first. -/
  overridden_eq : ∀ o ∈ c.items, ∀ k o', o.overriddenAt? k = some o' →
    o'.name = o.name ∧ o'.chain = o.chain ∧ o'.nearest = o.nearest ∧
    ∃ before after, o.chain = before ++ o'.this :: after ∧ after.length = k ∧
      o'.thisAndOverridden = o'.item :: o'.justOverridden ∧
      o'.justOverridden = before.reverse.map (·.item)

/-- What a collection holds besides if the layers never descend. -/
structure ResolvedByLayer (ds : List (String × Nat × α)) (c : Collection α) : Prop where
  /-- A chain has one declaration for each layer that declares the name, the last one there. -/
  ascending : ∀ o ∈ c.items, Ascending (additions ds o.name) o.chain
  /-- The newest declaration is in the highest layer. -/
  nearest_highest : ∀ o ∈ c.items, ∀ d ∈ additions ds o.name, d.layer ≤ o.nearest.layer

/-- **Overriding is resolved by name and layer**, for every sequence of declarations. -/
theorem ofList_resolved (ds : List (String × Nat × α)) :
    (ofList ds).Resolved ds ∧
      (ds.Pairwise (·.2.1 ≤ ·.2.1) → (ofList ds).ResolvedByLayer ds) := by
  have hproper := proper_ofList ds
  have hlast : ∀ o ∈ (ofList ds).items, (additions ds o.name).getLast? = some o.nearest := by
    intro o ho
    rw [← o.getLast?_chain, chain_of_mem ho, getLast?_chainOf]
  constructor
  · refine ⟨names_ofList ds, fun n => contains_iff, fun n o => ⟨mem_of_get?, ?_⟩, fun o ho => ?_,
      fun o ho => ?_, fun o ho => ?_, fun o ho k => ?_, fun o ho k o' ho' => ?_⟩
    · rintro ⟨ho, rfl⟩
      exact hproper.get?_of_mem ho
    · refine ⟨?_, o.getLast?_chain, hlast o ho⟩
      rw [Overridable.nearest, hproper.newest o ho]
      rfl
    · rw [chain_of_mem ho]
      exact sublist_chainOf _
    · rw [chain_of_mem ho]
      exact (pairwise_order_additions ds o.name).sublist (sublist_chainOf _)
    · rw [Overridable.exists_overriddenAt?_iff, Overridable.chain, hproper.newest o ho,
        List.length_append, List.length_reverse, List.length_singleton, Nat.lt_succ_iff]
    · obtain ⟨hname, hchain, hlength⟩ := Overridable.overriddenAt?_chain ho'
      have hnearest : o'.nearest = o.nearest := by
        rw [← Option.some.injEq, ← o'.getLast?_chain, hchain, o.getLast?_chain]
      rw [hproper.newest o ho, List.length_nil, Nat.zero_add] at hlength
      refine ⟨hname, hchain, hnearest, o'.older.reverse, o'.newer, hchain.symm, hlength, rfl, ?_⟩
      rw [List.reverse_reverse]
      rfl
  · intro hds
    have hlayers := fun n => pairwise_layer_additions hds n
    refine ⟨fun o ho => ?_, fun o ho d hd => ?_⟩
    · rw [chain_of_mem ho]
      exact ascending_chainOf (hlayers o.name)
    · obtain ⟨front, hfront⟩ := List.getLast?_eq_some_iff.1 (hlast o ho)
      have hsorted := hlayers o.name
      rw [hfront] at hd hsorted
      rcases List.mem_append.1 hd with hd | hd
      · exact (List.pairwise_append.1 hsorted).2.2 d hd _ List.mem_cons_self
      · exact Nat.le_of_eq (congrArg _ (List.mem_singleton.1 hd))

/-- Three layers, of which the second declares a name twice. -/
theorem ofList_resolved_orderNbr :
    let ds : List (String × Nat × String) :=
      [("OrderNbr", 0, "base"), ("Status", 0, "base"), ("OrderNbr", 1, "first"),
        ("OrderNbr", 1, "second"), ("Total", 2, "top"), ("OrderNbr", 2, "top")]
    ds.Pairwise (·.2.1 ≤ ·.2.1) ∧ (ofList ds).names = ["OrderNbr", "Status", "Total"] ∧
      (ofList ds).declarations "OrderNbr" = [⟨"base", 0, 0⟩, ⟨"second", 1, 3⟩, ⟨"top", 2, 5⟩] ∧
      (ofList ds).Resolved ds ∧ (ofList ds).ResolvedByLayer ds := by
  intro ds
  have hds : ds.Pairwise (·.2.1 ≤ ·.2.1) := by decide
  obtain ⟨hresolved, hlayers⟩ := ofList_resolved ds
  exact ⟨hds, by decide, by decide, hresolved, hlayers hds⟩

end Collection

end SnapshotLint

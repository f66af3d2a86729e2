/-
  Chains of declarations.

  A declaration touches the chain of its own name only, and there it either takes the place of the
  newest declaration or goes on top of it (`declarations_add_of_ne`, `declarations_add`). When the
  layers come in ascending order, the chain of a name therefore holds, layer by layer, the last
  declaration of the name in that layer: `chain_ofLayers`.
-/
import Mathlib.Data.List.Induction
import Mathlib.Data.List.Nodup
import SnapshotLint.Overriding

namespace SnapshotLint

variable {α : Type}

/-- The declarations of a name, the oldest first, each with the position of its layer. -/
def Overridable.layered (o : Overridable α) : List (Nat × α) :=
  o.chain.map fun d => (d.layer, d.item)

theorem Overridable.layered_of_newest {o : Overridable α} (h : o.newer = []) :
    o.layered =
      o.older.reverse.map (fun d => (d.layer, d.item)) ++ [(o.this.layer, o.this.item)] := by
  simp [layered, chain, h]

theorem Overridable.reverse_chain {o : Overridable α} (h : o.newer = []) :
    o.chain.reverse = o.this :: o.older := by
  simp [chain, h]

theorem Overridable.name_declare (o : Overridable α) (d : Declaration α) :
    (o.declare d).name = o.name := by
  unfold declare
  split <;> rfl

theorem Overridable.newer_declare (o : Overridable α) (d : Declaration α) :
    (o.declare d).newer = o.newer := by
  unfold declare
  split <;> rfl

/-! ## Chains as lists -/

/-- A chain after one more declaration, which takes the place of the newest one unless that one
    belongs to a lower layer. -/
def declareOn (chain : List (Declaration α)) (d : Declaration α) : List (Declaration α) :=
  (if chain.getLast?.any (d.layer ≤ ·.layer) then chain.dropLast else chain) ++ [d]

section
variable {front chain : List (Declaration α)} {a d : Declaration α}

theorem declareOn_of_le (h : d.layer ≤ a.layer) : declareOn (front ++ [a]) d = front ++ [d] := by
  simp [declareOn, h]

theorem declareOn_of_lt (h : ∀ a ∈ chain, a.layer < d.layer) : declareOn chain d = chain ++ [d] := by
  have hany : chain.getLast?.any (d.layer ≤ ·.layer) = false := by
    rw [Option.any_eq_false]
    intro a ha
    simpa using h a (List.mem_of_getLast? ha)
  rw [declareOn, hany]
  rfl

theorem Overridable.chain_declare {o : Overridable α} (h : o.newer = []) (d : Declaration α) :
    (o.declare d).chain = declareOn o.chain d := by
  have hchain : o.chain = o.older.reverse ++ [o.this] := by rw [chain, h]
  unfold declare
  split
  · next hle => rw [hchain, declareOn_of_le hle, chain, h]
  · next hgt => simp [declareOn, hgt, chain, h]

end

namespace Collection

variable {c : Collection α} {n m : String} {i : Nat} {x : α}

/-- The declarations of a name, the oldest first; there are none if the name is not declared. -/
def chain (c : Collection α) (n : String) : List (Nat × α) :=
  ((c.get? n).map Overridable.layered).getD []

/-- The declarations of a name in full. -/
def declarations (c : Collection α) (n : String) : List (Declaration α) :=
  ((c.get? n).map Overridable.chain).getD []

theorem chain_eq_map : c.chain n = (c.declarations n).map fun d => (d.layer, d.item) := by
  rw [chain, declarations]
  cases c.get? n <;> rfl

/-- What every collection is that has been built by adding declarations. -/
structure Proper (c : Collection α) : Prop where
  /-- A name has one entry. -/
  distinct : c.names.Nodup
  /-- The entry of a name holds its newest declaration. -/
  newest : ∀ o ∈ c.items, o.newer = []

/-! ## Looking up a name -/

theorem get?_eq_none_iff : c.get? n = none ↔ n ∉ c.names := by
  simp [get?, names, List.find?_eq_none]

theorem mem_of_get? {o : Overridable α} (h : c.get? n = some o) : o ∈ c.items ∧ o.name = n :=
  ⟨List.mem_of_find?_eq_some h, by simpa using List.find?_some h⟩

/-- A table of what is listed is looked up like the list. -/
theorem lookup_map_name {β : Type} (c : Collection α) (f : Overridable α → β) (n : String) :
    (c.items.map fun o => (o.name, f o)).lookup n = (c.get? n).map f := by
  rw [get?]
  induction c.items with
  | nil => rfl
  | cons o items ih =>
    rw [List.map_cons, List.lookup_cons, List.find?_cons, BEq.comm]
    cases o.name == n with
    | true => rfl
    | false => exact ih

theorem contains_iff : c.contains n = true ↔ n ∈ c.names := by
  simp [contains, names, List.any_eq_true]

theorem Proper.get?_of_mem (hc : c.Proper) {o : Overridable α} (ho : o ∈ c.items) :
    c.get? o.name = some o := by
  cases h : c.get? o.name with
  | none => exact absurd (List.mem_map_of_mem ho) (get?_eq_none_iff.1 h)
  | some o' =>
    obtain ⟨hmem, hname⟩ := mem_of_get? h
    rw [List.inj_on_of_nodup_map hc.distinct hmem ho hname]

/-- Entries do not share what gives away their name. -/
theorem Proper.nodup_map {β : Type} (hc : c.Proper) {os : List (Overridable α)}
    (hos : os.Sublist c.items) {f : Overridable α → β} {name : β → String}
    (hname : ∀ o ∈ os, name (f o) = o.name) : (os.map f).Nodup := by
  have hnames : (os.map (·.name)).Nodup := hc.distinct.sublist (hos.map _)
  refine (List.Nodup.of_map _ hnames).map_on fun o ho o' ho' heq => ?_
  refine List.inj_on_of_nodup_map hnames ho ho' ?_
  rw [← hname o ho, ← hname o' ho', heq]

theorem chain_eq_nil_iff : c.chain n = [] ↔ n ∉ c.names := by
  rw [← get?_eq_none_iff, chain]
  cases c.get? n with
  | none => simp
  | some o => simp [Overridable.layered, Overridable.chain]

/-- A name is stored with its chain, if it has one. -/
theorem map_get?_eq_some_iff {β : Type} (f : Nat × α → β) {chain : List β} :
    (c.get? n).map (fun o => o.layered.map f) = some chain ↔
      chain ≠ [] ∧ chain = (c.chain n).map f := by
  rw [Collection.chain]
  cases c.get? n with
  | none => simp
  | some o =>
    have hne : o.layered.map f ≠ [] := by simp [Overridable.layered, Overridable.chain]
    rw [Option.map_some, Option.map_some, Option.getD_some, Option.some.injEq]
    constructor
    · rintro rfl
      exact ⟨hne, rfl⟩
    · rintro ⟨-, rfl⟩
      rfl

theorem layered_eq_some_iff {chain : List (Nat × α)} :
    (c.get? n).map Overridable.layered = some chain ↔ chain ≠ [] ∧ chain = c.chain n := by
  simpa using map_get?_eq_some_iff (c := c) (n := n) id

/-! ## One declaration -/

theorem items_add_of_mem (h : n ∈ c.names) (i : Nat) (x : α) : (c.add n i x).items =
    c.items.map fun o => if o.name = n then o.declare ⟨x, i, c.added⟩ else o := by
  simp [add, contains_iff.2 h]

theorem items_add_of_notMem (h : n ∉ c.names) (i : Nat) (x : α) : (c.add n i x).items =
    c.items ++ [{ name := n, this := ⟨x, i, c.added⟩ }] :=
  if_neg (mt contains_iff.1 h)

/-- A declaration keeps the name of every entry. -/
theorem name_ite_declare (n : String) (d : Declaration α) (o : Overridable α) :
    (if o.name = n then o.declare d else o).name = o.name := by
  split
  · rw [Overridable.name_declare]
  · rfl

theorem get?_add_of_mem (h : n ∈ c.names) (m : String) : (c.add n i x).get? m =
    (c.get? m).map fun o => if o.name = n then o.declare ⟨x, i, c.added⟩ else o := by
  rw [get?, items_add_of_mem h, List.find?_map, get?]
  simp only [Function.comp_def, name_ite_declare]

theorem get?_add_of_ne (h : m ≠ n) : (c.add n i x).get? m = c.get? m := by
  by_cases hn : n ∈ c.names
  · rw [get?_add_of_mem hn]
    cases hget : c.get? m with
    | none => rfl
    | some o =>
      have hne : o.name ≠ n := fun heq => h ((mem_of_get? hget).2.symm.trans heq)
      rw [Option.map_some, if_neg hne]
  · rw [get?, items_add_of_notMem hn, List.find?_append, get?]
    simp [Ne.symm h]

theorem get?_add_of_none (h : c.get? n = none) :
    (c.add n i x).get? n = some { name := n, this := ⟨x, i, c.added⟩ } := by
  rw [get?, items_add_of_notMem (get?_eq_none_iff.1 h), List.find?_append]
  unfold get? at h
  simp [h]

theorem get?_add_of_some {o : Overridable α} (h : c.get? n = some o) :
    (c.add n i x).get? n = some (o.declare ⟨x, i, c.added⟩) := by
  obtain ⟨ho, hname⟩ := mem_of_get? h
  have hmem : n ∈ c.names := hname ▸ List.mem_map_of_mem ho
  rw [get?_add_of_mem hmem, h, Option.map_some, if_pos hname]

theorem names_add_of_mem (h : n ∈ c.names) : (c.add n i x).names = c.names := by
  rw [names, items_add_of_mem h, List.map_map, names]
  exact List.map_congr_left fun o _ => name_ite_declare n _ o

theorem names_add_of_notMem (h : n ∉ c.names) : (c.add n i x).names = c.names ++ [n] := by
  rw [names, items_add_of_notMem h, List.map_append, names]
  rfl

theorem Proper.add (hc : c.Proper) (n : String) (i : Nat) (x : α) : (c.add n i x).Proper := by
  by_cases h : n ∈ c.names
  · refine ⟨?_, ?_⟩
    · rw [names_add_of_mem h]
      exact hc.distinct
    · rw [items_add_of_mem h]
      intro o ho
      obtain ⟨o', ho', rfl⟩ := List.mem_map.1 ho
      split
      · rw [Overridable.newer_declare, hc.newest o' ho']
      · exact hc.newest o' ho'
  · refine ⟨?_, ?_⟩
    · rw [names_add_of_notMem h, List.nodup_append]
      refine ⟨hc.distinct, by simp, fun a ha b hb hab => h ?_⟩
      have hbn : b = n := by simpa using hb
      exact hbn ▸ hab ▸ ha
    · rw [items_add_of_notMem h]
      intro o ho
      rcases List.mem_append.1 ho with ho | ho
      · exact hc.newest o ho
      · rw [List.mem_singleton.1 ho]

theorem declarations_add_of_ne (h : m ≠ n) : (c.add n i x).declarations m = c.declarations m := by
  rw [declarations, get?_add_of_ne h, declarations]

theorem declarations_add (hc : c.Proper) (n : String) (i : Nat) (x : α) :
    (c.add n i x).declarations n = declareOn (c.declarations n) ⟨x, i, c.added⟩ := by
  cases hget : c.get? n with
  | none =>
    rw [declarations, get?_add_of_none hget, declarations, hget]
    rfl
  | some o =>
    rw [declarations, get?_add_of_some hget, declarations, hget]
    exact Overridable.chain_declare (hc.newest o (mem_of_get? hget).1) _

theorem chain_add_of_ne (h : m ≠ n) : (c.add n i x).chain m = c.chain m := by
  rw [chain_eq_map, declarations_add_of_ne h, chain_eq_map]

/-- A declaration in the layer of the newest one, or below it, takes its place. -/
theorem chain_add_of_le (hc : c.Proper) {front : List (Nat × α)} {d : Nat × α}
    (h : c.chain n = front ++ [d]) (hi : i ≤ d.1) : (c.add n i x).chain n = front ++ [(i, x)] := by
  rw [chain_eq_map] at h
  obtain ⟨front, last, hdeclarations, rfl, hlast⟩ := List.map_eq_append_iff.1 h
  obtain ⟨a, rfl, rfl⟩ := List.map_eq_singleton_iff.1 hlast
  rw [chain_eq_map, declarations_add hc, hdeclarations, declareOn_of_le hi, List.map_append]
  rfl

/-- A declaration above all others goes on top of them. -/
theorem chain_add_of_lt (hc : c.Proper) (h : ∀ d ∈ c.chain n, d.1 < i) :
    (c.add n i x).chain n = c.chain n ++ [(i, x)] := by
  rw [chain_eq_map] at h ⊢
  have hlower : ∀ d ∈ c.declarations n, d.layer < i := fun d hd => h _ (List.mem_map_of_mem hd)
  rw [declarations_add hc, declareOn_of_lt hlower, chain_eq_map, List.map_append]
  rfl

/-! ## The declarations of a layer -/

/-- The collection after the declarations of one layer. -/
def addAll (c : Collection α) (i : Nat) (ss : List (String × α)) : Collection α :=
  ss.foldl (fun c s => c.add s.1 i s.2) c

theorem addAll_concat (c : Collection α) (i : Nat) (ss : List (String × α)) (s : String × α) :
    c.addAll i (ss ++ [s]) = (c.addAll i ss).add s.1 i s.2 := List.foldl_concat ..

theorem Proper.addAll (hc : c.Proper) (i : Nat) (ss : List (String × α)) :
    (c.addAll i ss).Proper := by
  induction ss generalizing c with
  | nil => exact hc
  | cons s ss ih => exact ih (hc.add s.1 i s.2)

/-- Of the declarations of a layer, the last one of each name goes on top of the chain. -/
theorem chain_addAll (hc : c.Proper) (h : ∀ d ∈ c.chain n, d.1 < i) (ss : List (String × α)) :
    (c.addAll i ss).chain n =
      c.chain n ++ ((ss.filter (·.1 = n)).getLast?.map fun s => (i, s.2)).toList := by
  induction ss using List.reverseRecOn with
  | nil => simp [addAll]
  | append_singleton ss s ih =>
    rw [addAll_concat, List.filter_append]
    by_cases hs : s.1 = n
    · subst hs
      have hproper := hc.addAll i ss
      -- the declaration meets one of its own layer, or only older ones
      cases hlast : (ss.filter (·.1 = s.1)).getLast? with
      | none =>
        rw [hlast, Option.map_none, Option.toList_none, List.append_nil] at ih
        rw [chain_add_of_lt hproper (ih ▸ h), ih]
        simp
      | some s' =>
        rw [hlast] at ih
        rw [chain_add_of_le hproper ih (Nat.le_refl i)]
        simp
    · rw [chain_add_of_ne (Ne.symm hs), ih]
      simp [hs]

/-! ## The declarations of successive layers -/

/-- The collection of what is selected from each layer, from the most basic one on. -/
def ofLayers (layers : List Layer) (select : Layer → List (String × α)) : Collection α :=
  layers.foldl (fun c l => c.addAll l.index (select l)) {}

variable {layers : List Layer} {select : Layer → List (String × α)}

theorem proper_ofLayers (layers : List Layer) (select : Layer → List (String × α)) :
    (ofLayers layers select).Proper := by
  induction layers using List.reverseRecOn with
  | nil => exact ⟨List.nodup_nil, fun o ho => absurd ho List.not_mem_nil⟩
  | append_singleton layers l ih =>
    rw [ofLayers, List.foldl_concat]
    exact ih.addAll l.index (select l)

theorem ofLayers_eq_ofList (layers : List Layer) (select : Layer → List (String × α)) :
    ofLayers layers select =
      ofList (layers.flatMap fun l => (select l).map fun s => (s.1, l.index, s.2)) := by
  rw [ofLayers, ofList, List.foldl_flatMap]
  congr 1
  funext c l
  rw [List.foldl_map]
  rfl

theorem eraseDups_concat {β : Type} [DecidableEq β] (bs : List β) (b : β) :
    (bs ++ [b]).eraseDups = if b ∈ bs then bs.eraseDups else bs.eraseDups ++ [b] := by
  rw [List.eraseDups_append, List.removeAll]
  by_cases h : b ∈ bs
  · simp [h]
  · simp [h, List.eraseDups_cons]

/-- The names stand in the order in which they are first declared. -/
theorem names_ofList (ds : List (String × Nat × α)) :
    (ofList ds).names = (ds.map (·.1)).eraseDups := by
  induction ds using List.reverseRecOn with
  | nil => rfl
  | append_singleton ds d ih =>
    have hmem : d.1 ∈ (ofList ds).names ↔ d.1 ∈ ds.map (·.1) := by rw [ih, List.mem_eraseDups]
    rw [ofList, List.foldl_concat, List.map_append, List.map_singleton, eraseDups_concat, ← ih]
    change ((ofList ds).add d.1 d.2.1 d.2.2).names = _
    by_cases h : d.1 ∈ (ofList ds).names
    · rw [names_add_of_mem h, if_pos (hmem.1 h)]
    · rw [names_add_of_notMem h, if_neg (mt hmem.2 h)]

/-- The chain of a name holds the last declaration of the name in each layer that has one. -/
theorem chain_ofLayers (h : layers.Pairwise (·.index < ·.index)) (n : String) :
    (ofLayers layers select).chain n =
      layers.filterMap fun l =>
        ((select l).filter (·.1 = n)).getLast?.map fun s => (l.index, s.2) := by
  induction layers using List.reverseRecOn with
  | nil => rfl
  | append_singleton layers l ih =>
    obtain ⟨hlayers, -, hlast⟩ := List.pairwise_append.1 h
    have ih := ih hlayers
    have hlower : ∀ d ∈ (ofLayers layers select).chain n, d.1 < l.index := by
      rw [ih]
      intro d hd
      obtain ⟨l', hl', heq⟩ := List.mem_filterMap.1 hd
      obtain ⟨s, -, rfl⟩ := Option.map_eq_some_iff.1 heq
      exact hlast l' hl' l List.mem_cons_self
    rw [ofLayers, List.foldl_concat]
    refine (chain_addAll (proper_ofLayers layers select) hlower (select l)).trans ?_
    rw [ih, List.filterMap_append, List.filterMap_cons]
    cases ((select l).filter (·.1 = n)).getLast? <;> rfl

/-- The names are those that are declared in some layer. -/
theorem mem_names_ofLayers (h : layers.Pairwise (·.index < ·.index)) :
    n ∈ (ofLayers layers select).names ↔ ∃ l ∈ layers, ∃ s ∈ select l, s.1 = n := by
  rw [← not_iff_not, ← chain_eq_nil_iff, chain_ofLayers h, List.filterMap_eq_nil_iff]
  simp only [Option.map_eq_none_iff, List.getLast?_eq_none_iff, List.filter_eq_nil_iff,
    decide_eq_true_eq, not_exists, not_and]

/-- Every declaration of a chain is selected from some layer. -/
theorem mem_select_of_mem_chain (h : layers.Pairwise (·.index < ·.index)) {d : Nat × α}
    (hd : d ∈ (ofLayers layers select).chain n) : ∃ l ∈ layers, (n, d.2) ∈ select l := by
  rw [chain_ofLayers h] at hd
  obtain ⟨l, hl, hlast⟩ := List.mem_filterMap.1 hd
  obtain ⟨s, hs, rfl⟩ := Option.map_eq_some_iff.1 hlast
  obtain ⟨hs, hname⟩ := List.mem_filter.1 (List.mem_of_getLast? hs)
  rw [← of_decide_eq_true hname]
  exact ⟨l, hl, hs⟩

/-- The newest declaration of a name stands in some layer. -/
theorem mem_select_of_mem (h : layers.Pairwise (·.index < ·.index)) {o : Overridable α}
    (ho : o ∈ (ofLayers layers select).items) : ∃ l ∈ layers, (o.name, o.item) ∈ select l := by
  have hproper := proper_ofLayers layers select
  refine mem_select_of_mem_chain (d := (o.this.layer, o.item)) h ?_
  rw [chain, hproper.get?_of_mem ho, Option.map_some, Option.getD_some,
    Overridable.layered_of_newest (hproper.newest o ho)]
  exact List.mem_append_right _ List.mem_cons_self

end Collection

end SnapshotLint

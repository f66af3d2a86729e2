/-
  The layers of a hierarchy as a set.

  A linearization takes the walks of the type and of the arguments of its root one after the other,
  and no walk is cut short by its bound (`BaseChain.same_walk`). Whatever the walks have in common,
  each type that lies on one of them becomes one layer, and nothing else does
  (`Hierarchy.layerSet_of_types`). Both hold where bases form cycles, where arguments are repeated or
  derive from one another, and where references lead out of the snapshot.

  * `Analysis.Same`: analyses that do the same under every token.
  * `Hierarchy.same_linearize`: a larger bound changes nothing in a linearization.
  * `Hierarchy.linearize_layerSet`: the layers are numbered from zero on, have different names, and are
    the types of the walks.
-/
import SnapshotLint.Proofs.LayerOrder
import SnapshotLint.Proofs.Reachability

namespace SnapshotLint

/-! ## Analyses that do the same -/

namespace Analysis

variable {α β : Type} {s : Snapshot}

/-- Two analyses do the same under every token. -/
def Same (s : Snapshot) (x y : Analysis α) : Prop := ∀ t, x.run s t = y.run s t

theorem Same.refl (x : Analysis α) : Same s x x := fun _ => rfl

theorem Same.bind {x y : Analysis α} {f g : α → Analysis β} (h : Same s x y)
    (hf : ∀ a, Same s (f a) (g a)) : Same s (x >>= f) (y >>= g) := by
  intro t
  rw [run_bind, run_bind, h t]
  rcases y.run s t with ⟨_ | a, t'⟩
  · rfl
  · exact hf a t'

/-- After a lookup, it is enough to go on alike from what the snapshot has. -/
theorem Same.bind_find? {name : String} {f g : Option TypeSymbol → Analysis β}
    (h : Same s (f (s.find? name)) (g (s.find? name))) :
    Same s (find? name >>= f) (find? name >>= g) := fun t => h t.lookup

theorem Same.foldlM {f g : β → α → Analysis β} (h : ∀ b a, Same s (f b a) (g b a)) (b : β)
    (xs : List α) : Same s (xs.foldlM f b) (xs.foldlM g b) := by
  induction xs generalizing b with
  | nil => exact .refl _
  | cons a xs ih =>
    rw [List.foldlM_cons, List.foldlM_cons]
    exact (h b a).bind ih

theorem Same.ofWalk {w w' : Walk α} (h : Walk.Same s w w') : Same s (ofWalk w) (ofWalk w') := by
  intro t
  rw [run_ofWalk, run_ofWalk, h t]

end Analysis

/-! ## Bounds -/

open Analysis (Same)

/-- What a walk does is not decided by its bound, as long as the bound is above the number of types
    that it can still meet. -/
theorem BaseChain.same_walk {ctx : Context} {roots visited : List String} {fuel fuel' : Nat}
    {current : TypeHandle} (hfuel : unseen ctx visited < fuel) (hfuel' : unseen ctx visited < fuel') :
    Same ctx.snapshot (walk roots fuel visited current) (walk roots fuel' visited current) := by
  induction fuel generalizing fuel' visited current with
  | zero => omega
  | succ fuel ih =>
    obtain ⟨fuel', rfl⟩ : ∃ k, fuel' = k + 1 := ⟨fuel' - 1, by omega⟩
    rw [walk, walk]
    refine .bind (.refl _) fun _ => ?_
    cases current.symbol.base with
    | none => exact .refl _
    | some base =>
      by_cases hroot : base.name ∈ roots
      · simp only [if_pos hroot]
        exact .refl _
      · simp only [if_neg hroot]
        refine .bind_find? ?_
        cases hfind : ctx.snapshot.find? base.name with
        | none => exact .refl _
        | some next =>
          by_cases hseen : next.name ∈ visited
          · simp only [if_pos hseen]
            exact .refl _
          · simp only [if_neg hseen]
            have hlt : unseen ctx (next.name :: visited) < unseen ctx visited :=
              unseen_cons_lt (Context.knows_of_find? hfind) hseen
            exact .bind (ih (by omega) (by omega)) fun _ => .refl _

namespace Hierarchy

section
variable {ctx : Context} {larger : Snapshot} (h : ctx.snapshot.types.length ≤ larger.types.length)

include h

theorem same_baseChain (roots : List String) (t : TypeHandle) :
    Same ctx.snapshot (BaseChain.ofType { ctx with snapshot := larger } roots t)
      (BaseChain.ofType ctx roots t) := by
  have hunseen : BaseChain.unseen ctx [t.name] < ctx.walkBound :=
    Nat.lt_succ_of_le (List.length_filter_le _ _)
  have hbound : ctx.walkBound ≤ Context.walkBound { ctx with snapshot := larger } :=
    Nat.succ_le_succ h
  exact BaseChain.same_walk (by omega) hunseen

theorem same_ofExtension (roots : List String) (chain : BaseChain) :
    Same ctx.snapshot (ofExtension { ctx with snapshot := larger } roots chain)
      (ofExtension ctx roots chain) := by
  refine .bind (.refl _) fun target => .bind ?_ fun layers => .bind ?_ fun layers => .refl _
  · cases target with
    | none => exact .refl _
    | some t => exact (same_baseChain h roots _).bind fun _ => .refl _
  · refine .foldlM (fun layers arg => ?_) _ _
    refine .bind (.refl _) fun _ => .bind (.refl _) fun found => ?_
    cases found with
    | none => exact .refl _
    | some t => exact (same_baseChain h roots _).bind fun _ => .refl _

theorem same_isPrimary (family : Family) (t : TypeHandle) (chain : BaseChain) :
    Same ctx.snapshot (isPrimary { ctx with snapshot := larger } family t chain)
      (isPrimary ctx family t chain) := by
  cases family with
  | graph => exact .refl _
  | dac =>
    have hbound : ctx.walkBound ≤ Context.walkBound { ctx with snapshot := larger } :=
      Nat.succ_le_succ h
    have hunseen := ctx.unseen_nil_lt_walkBound
    refine .ofWalk (.bind _ fun found hfound => ?_)
    rw [hfound]
    exact Walk.same_implementsFrom hbound (Nat.le_refl _) (by omega) hunseen

/-- An analysis looks up types in the snapshot that it is run on. From the snapshot of its context a
    linearization takes only how many types there are, as a bound for its walks. A larger bound
    changes nothing: the walks end of themselves. -/
theorem same_linearize (family : Family) (t : TypeHandle) :
    Same ctx.snapshot (linearize { ctx with snapshot := larger } family t)
      (linearize ctx family t) := by
  refine (same_baseChain h _ t).bind fun chain => ?_
  split
  · exact same_ofExtension h _ chain
  · exact (same_isPrimary h family t chain).bind fun _ => .refl _

end

/-! ## The types that are layers -/

/-- What the layers of a type are. -/
structure LayerSet (ctx : Context) (family : Family) (t : TypeHandle) (h : Hierarchy) : Prop where
  /-- The layers are numbered from zero on. -/
  index_eq : h.layers.map (·.index) = List.range h.layers.length
  /-- No two layers share a name. -/
  distinct : h.layerNames.Nodup
  /-- A type without a role has no layers, and no other type is without. -/
  nil_iff : h.layers = [] ↔ h.role = .unrelated
  /-- The layers are the types on the base walk of the type and, for an extension, on the base walks of
      the types of the snapshot that its root names. The root is the reference at which the base walk
      of the type ends. -/
  mem_iff : h.role ≠ .unrelated → ∃ w, IsBaseWalk ctx (family.roots ctx.framework) t w ∧
    h.root = w.getLast?.bind (ctx.exit? (family.roots ctx.framework)) ∧
    ∀ x, x ∈ h.types ↔ x ∈ w ∨ h.role = .extension ∧
      ∃ r ∈ h.rootArgs, ctx.OnBaseWalk (family.roots ctx.framework) r x
  /-- The type itself is a layer. -/
  self_mem : h.role ≠ .unrelated → t ∈ h.types

variable {ctx : Context} {family : Family} {t : TypeHandle} {h : Hierarchy} {w : List TypeHandle}

/-- Layers that are made of types of the snapshot stand for just these types. -/
theorem layerSet_of_types {ts : List TypeHandle} (hlayers : h.layers = addLayers [] ts)
    (hknown : ∀ x ∈ ts, ctx.Knows x) (hrole : h.role ≠ .unrelated)
    (hw : IsBaseWalk ctx (family.roots ctx.framework) t w)
    (hroot : h.root = w.getLast?.bind (ctx.exit? (family.roots ctx.framework)))
    (hts : ∀ x, x ∈ ts ↔ x ∈ w ∨ h.role = .extension ∧
      ∃ r ∈ h.rootArgs, ctx.OnBaseWalk (family.roots ctx.framework) r x) :
    LayerSet ctx family t h := by
  have htypes : ∀ x, x ∈ h.types ↔ x ∈ ts := by
    intro x
    rw [types, hlayers]
    exact mem_types_addLayers_iff hknown
  have hself : t ∈ h.types := by
    obtain ⟨rest, rfl⟩ := hw.eq_cons
    exact (htypes t).2 ((hts t).2 (.inl List.mem_cons_self))
  refine ⟨?_, ?_, ?_, fun _ => ⟨w, hw, hroot, fun x => (htypes x).trans (hts x)⟩, fun _ => hself⟩
  · rw [hlayers]
    exact index_addLayers rfl
  · rw [layerNames, hlayers]
    exact nodup_addLayers List.nodup_nil
  · refine ⟨fun hnil => ?_, fun hunrelated => absurd hunrelated hrole⟩
    rw [types, hnil] at hself
    cases hself

/-- **The layers of a type of the snapshot.** Linearization ends, and every type on one of its walks is
    a layer exactly once. -/
theorem linearize_layerSet (ctx : Context) (family : Family) {t : TypeSymbol}
    (ht : t ∈ ctx.snapshot.types) :
    (∃ h, (linearize ctx family ⟨t, .snapshot⟩).run ctx.snapshot {} = (some h, {}) ∧
      LayerSet ctx family ⟨t, .snapshot⟩ h) ∧
    ∀ larger : Snapshot, ctx.snapshot.types.length ≤ larger.types.length →
      Same ctx.snapshot (linearize { ctx with snapshot := larger } family ⟨t, .snapshot⟩)
        (linearize ctx family ⟨t, .snapshot⟩) := by
  refine ⟨⟨_, Analysis.run_quiet _, ?_⟩, fun larger hlarger => same_linearize hlarger family _⟩
  have hknows := Context.knows_of_mem ht
  rcases linearize_cases ctx family ⟨t, .snapshot⟩ rfl with hnone | ⟨w, hw, hroot, hcase⟩
  · rw [hnone]
    exact ⟨rfl, List.nodup_nil, by simp, by simp, by simp⟩
  · rcases hcase with ⟨hrole, hlayers⟩ | ⟨hrole, -, hlayers⟩
    · refine layerSet_of_types hlayers (fun x hx => ?_) (by simp [hrole]) hw hroot fun x => ?_
      · exact hw.knows hknows x (List.mem_reverse.1 hx)
      · simp [hrole]
    · refine layerSet_of_types hlayers (fun x hx => ?_) (by simp [hrole]) hw hroot fun x => ?_
      · rcases List.mem_append.1 hx with hx | hx
        · obtain ⟨r, -, hx⟩ := List.mem_flatMap.1 hx
          exact Context.knows_walkOf (List.mem_reverse.1 hx)
        · exact hw.knows hknows x (List.mem_reverse.1 hx)
      · simp [hrole, Context.onBaseWalk_iff, or_comm]

/-- An extension whose root names a lower extension twice, a type that is missing, and one whose bases
    form a cycle. -/
theorem linearize_layerSet_cycle :
    let entry : TypeSymbol := { name := "OrderEntry", base := some { name := "PXGraph" } }
    let lower : TypeSymbol :=
      { name := "LowerExt"
        base := some { name := "PXGraphExtension", args := [{ name := "OrderEntry" }] } }
    let inner : TypeSymbol := { name := "Inner", base := some { name := "Outer" } }
    let outer : TypeSymbol := { name := "Outer", base := some { name := "Inner" } }
    let extension : TypeSymbol :=
      { name := "OrderEntryExt"
        base := some
          { name := "PXGraphExtension"
            args := [{ name := "LowerExt" }, { name := "Inner" }, { name := "LowerExt" },
              { name := "Missing" }, { name := "OrderEntry" }] } }
    let ctx : Context :=
      { snapshot := { types := [extension, inner, outer, lower, entry], distinct := by decide } }
    extension ∈ ctx.snapshot.types ∧
      ∃ h, (linearize ctx .graph ⟨extension, .snapshot⟩).run ctx.snapshot {} = (some h, {}) ∧
        h.layerNames = ["OrderEntry", "LowerExt", "Outer", "Inner", "OrderEntryExt"] ∧
        LayerSet ctx .graph ⟨extension, .snapshot⟩ h := by
  intro entry lower inner outer extension ctx
  have hmem : extension ∈ ctx.snapshot.types := List.mem_cons_self
  obtain ⟨⟨h, hrun, hset⟩, -⟩ := linearize_layerSet ctx .graph hmem
  have hnames : ((linearize ctx .graph ⟨extension, .snapshot⟩).run ctx.snapshot {}).1.map
      layerNames = some ["OrderEntry", "LowerExt", "Outer", "Inner", "OrderEntryExt"] := by decide
  rw [hrun] at hnames
  exact ⟨hmem, h, hrun, Option.some.inj hnames, hset⟩

end Hierarchy

end SnapshotLint

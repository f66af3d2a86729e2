/-
  Base walks: a type, its base in the snapshot, the base of that, and so on, until a reference names
  a root or leads out of the snapshot, or a name comes up again.

  * `Reaches`: following base references, without an end where they form a cycle.
  * `BaseWalk`: the walk as a relation. It exists and is unique for each type
    (`BaseChain.answer_ofType`, `BaseWalk.unique`), its types have distinct names, and of two of them
    the first reaches the second (`BaseWalk.distinct`, `BaseWalk.pairwise`).
  * `BaseWalk.closed`, `BaseWalk.closed_of_exit`: nothing reached is missing in the walk of a type of
    the snapshot, nor in a walk that ends with a reference that leads out.
-/
import Mathlib.Data.List.Nodup
import Mathlib.Logic.Relation
import SnapshotLint.Hierarchy
import SnapshotLint.Proofs.Interruption

namespace SnapshotLint

theorem Snapshot.find?_name {s : Snapshot} {name : String} {t : TypeSymbol}
    (h : s.find? name = some t) : t.name = name := by
  simpa using List.find?_some h

theorem Snapshot.find?_of_mem {s : Snapshot} {t : TypeSymbol} (h : t ∈ s.types) :
    s.find? t.name = some t := by
  have hfound : (s.find? t.name).isSome := List.find?_isSome.2 ⟨t, h, by simp⟩
  obtain ⟨u, hu⟩ := Option.isSome_iff_exists.1 hfound
  rw [hu, List.inj_on_of_nodup_map s.distinct (List.mem_of_find?_eq_some hu) h (find?_name hu)]

namespace Context

variable (ctx : Context) (roots : List String)

/-- The type of the snapshot that a reference names. -/
def resolve (ref : TypeRef) : Option TypeHandle := (ctx.snapshot.find? ref.name).map (⟨·, .snapshot⟩)

/-- The base of a type, unless the reference names a root. -/
def base? (t : TypeHandle) : Option TypeHandle :=
  t.symbol.base.bind fun base => if base.name ∈ roots then none else ctx.resolve base

/-- The base reference of a type, if it names a root or leads out of the snapshot. -/
def exit? (t : TypeHandle) : Option TypeRef :=
  if (ctx.base? roots t).isSome then none else t.symbol.base

/-- Following base references leads from a type to another. -/
def Reaches : TypeHandle → TypeHandle → Prop :=
  Relation.ReflTransGen fun t next => ctx.base? roots t = some next

/-- A type is the one that the snapshot has under its name. -/
def Knows (t : TypeHandle) : Prop := ctx.resolve ⟨t.name, []⟩ = some t

variable {ctx roots}

theorem knows_of_find? {name : String} {symbol : TypeSymbol}
    (h : ctx.snapshot.find? name = some symbol) : ctx.Knows ⟨symbol, .snapshot⟩ := by
  rw [Knows, resolve, TypeHandle.name, Snapshot.find?_name h, h, Option.map_some]

theorem knows_of_resolve {ref : TypeRef} {t : TypeHandle} (h : ctx.resolve ref = some t) :
    ctx.Knows t := by
  obtain ⟨symbol, hfind, rfl⟩ := Option.map_eq_some_iff.1 h
  exact knows_of_find? hfind

theorem knows_of_mem {t : TypeSymbol} (h : t ∈ ctx.snapshot.types) : ctx.Knows ⟨t, .snapshot⟩ :=
  knows_of_find? (Snapshot.find?_of_mem h)

theorem Knows.eq_of_name {t u : TypeHandle} (ht : ctx.Knows t) (hu : ctx.Knows u)
    (h : t.name = u.name) : t = u := by
  unfold Knows at ht hu
  rw [h, hu] at ht
  exact (Option.some.inj ht).symm

theorem knows_of_base? {t next : TypeHandle} (h : ctx.base? roots t = some next) :
    ctx.Knows next := by
  obtain ⟨base, -, hnext⟩ := Option.bind_eq_some_iff.1 h
  split at hnext
  · cases hnext
  · exact knows_of_resolve hnext

end Context

/-- The base walk from a type on, once the names in `seen` have come up. -/
inductive BaseWalk (ctx : Context) (roots : List String) :
    (seen : List String) → TypeHandle → List TypeHandle → Prop
  /-- There is no base, or its name has come up. -/
  | last {seen : List String} {t : TypeHandle}
      (h : ∀ next, ctx.base? roots t = some next → next.name ∈ seen) : BaseWalk ctx roots seen t [t]
  /-- The walk goes on with the base. -/
  | step {seen : List String} {t next : TypeHandle} {rest : List TypeHandle}
      (h : ctx.base? roots t = some next) (hnew : next.name ∉ seen)
      (hrest : BaseWalk ctx roots (next.name :: seen) next rest) :
      BaseWalk ctx roots seen t (t :: rest)

/-- A list is the base walk of a type. -/
def IsBaseWalk (ctx : Context) (roots : List String) (t : TypeHandle) (w : List TypeHandle) : Prop :=
  BaseWalk ctx roots [t.name] t w

namespace BaseWalk

variable {ctx : Context} {roots seen : List String} {t : TypeHandle} {w : List TypeHandle}

theorem unique {w' : List TypeHandle} (h : BaseWalk ctx roots seen t w)
    (h' : BaseWalk ctx roots seen t w') : w = w' := by
  induction h generalizing w' with
  | last hlast =>
    cases h' with
    | last => rfl
    | step hnext hnew => exact absurd (hlast _ hnext) hnew
  | step hnext hnew hrest ih =>
    cases h' with
    | last hlast => exact absurd (hlast _ hnext) hnew
    | step hnext' hnew' hrest' =>
      cases hnext.symm.trans hnext'
      rw [ih hrest']

theorem eq_cons (h : BaseWalk ctx roots seen t w) : ∃ rest, w = t :: rest := by
  cases h with
  | last => exact ⟨[], rfl⟩
  | step => exact ⟨_, rfl⟩

theorem fresh (h : BaseWalk ctx roots seen t w) : ∀ x ∈ w.tail, x.name ∉ seen := by
  induction h with
  | last => simp
  | step hnext hnew hrest ih =>
    intro x hx
    obtain ⟨rest', rfl⟩ := hrest.eq_cons
    rcases List.mem_cons.1 hx with rfl | hx
    · exact hnew
    · exact fun hseen => ih x hx (List.mem_cons_of_mem _ hseen)

theorem distinct (h : BaseWalk ctx roots seen t w) (ht : t.name ∈ seen) :
    (w.map (·.name)).Nodup := by
  induction h with
  | last => simp
  | @step seen t next rest hnext hnew hrest ih =>
    refine List.nodup_cons.2 ⟨fun hmem => ?_, ih List.mem_cons_self⟩
    obtain ⟨x, hx, hname⟩ := List.mem_map.1 hmem
    exact (step hnext hnew hrest).fresh x hx (hname ▸ ht)

theorem reaches (h : BaseWalk ctx roots seen t w) : ∀ x ∈ w, ctx.Reaches roots t x := by
  induction h with
  | last => intro x hx; rw [List.mem_singleton.1 hx]; exact .refl
  | step hnext hnew hrest ih =>
    intro x hx
    rcases List.mem_cons.1 hx with rfl | hx
    · exact .refl
    · exact .head hnext (ih x hx)

theorem pairwise (h : BaseWalk ctx roots seen t w) : w.Pairwise (ctx.Reaches roots) := by
  induction h with
  | last => exact List.pairwise_singleton _ _
  | step hnext hnew hrest ih =>
    exact List.pairwise_cons.2 ⟨fun x hx => .head hnext (hrest.reaches x hx), ih⟩

theorem knows_tail (h : BaseWalk ctx roots seen t w) : ∀ x ∈ w.tail, ctx.Knows x := by
  induction h with
  | last => simp
  | step hnext hnew hrest ih =>
    intro x hx
    obtain ⟨rest', rfl⟩ := hrest.eq_cons
    rcases List.mem_cons.1 hx with rfl | hx
    · exact Context.knows_of_base? hnext
    · exact ih x hx

theorem knows (h : BaseWalk ctx roots seen t w) (ht : ctx.Knows t) : ∀ x ∈ w, ctx.Knows x := by
  intro x hx
  obtain ⟨rest, rfl⟩ := h.eq_cons
  rcases List.mem_cons.1 hx with rfl | hx
  · exact ht
  · exact h.knows_tail x hx

/-- A walk whose names seen so far are those of the types in `before` and of its first type holds
    every base of its types, or `before` does. -/
theorem closed_append {before : List TypeHandle} (h : BaseWalk ctx roots seen t w)
    (hseen : ∀ n ∈ seen, ∃ x ∈ before ++ [t], x.name = n)
    (hknown : ∀ x ∈ before ++ [t], ctx.Knows x) :
    ∀ x ∈ w, ∀ y, ctx.base? roots x = some y → y ∈ before ++ w := by
  induction h generalizing before with
  | last hlast =>
    intro x hx y hy
    rw [List.mem_singleton.1 hx] at hy
    obtain ⟨z, hz, hname⟩ := hseen _ (hlast y hy)
    rwa [(Context.knows_of_base? hy).eq_of_name (hknown z hz) hname.symm]
  | @step seen t next rest hnext hnew hrest ih =>
    intro x hx y hy
    rcases List.mem_cons.1 hx with rfl | hx
    · obtain ⟨rest', rfl⟩ := hrest.eq_cons
      cases hnext.symm.trans hy
      simp
    · have hmem := @ih (before ++ [t]) ?_ ?_ x hx y hy
      · simpa using hmem
      · intro n hn
        rcases List.mem_cons.1 hn with rfl | hn
        · exact ⟨next, by simp, rfl⟩
        · obtain ⟨z, hz, hname⟩ := hseen n hn
          exact ⟨z, List.mem_append_left _ hz, hname⟩
      · intro z hz
        rcases List.mem_append.1 hz with hz | hz
        · exact hknown z hz
        · rw [List.mem_singleton.1 hz]
          exact Context.knows_of_base? hnext

/-- The walk of a type of the snapshot holds the bases of all its types. -/
theorem closed (h : IsBaseWalk ctx roots t w) (ht : ctx.Knows t) :
    ∀ x ∈ w, ∀ y, ctx.base? roots x = some y → y ∈ w := by
  have := @closed_append _ _ _ _ _ [] h (by simp) (by simpa using ht)
  simpa using this

/-- A walk that ends with a reference that leads out holds the bases of all its types. -/
theorem closed_of_exit (h : BaseWalk ctx roots seen t w) {exit : TypeRef}
    (hexit : w.getLast?.bind (ctx.exit? roots) = some exit) :
    ∀ x ∈ w, ∀ y, ctx.base? roots x = some y → y ∈ w := by
  induction h with
  | last hlast =>
    intro x hx y hy
    rw [List.mem_singleton.1 hx] at hy
    simp [Context.exit?, hy] at hexit
  | @step seen t next rest hnext hnew hrest ih =>
    obtain ⟨rest', rfl⟩ := hrest.eq_cons
    intro x hx y hy
    rcases List.mem_cons.1 hx with rfl | hx
    · cases hnext.symm.trans hy
      simp
    · exact List.mem_cons_of_mem _ (ih (by simpa using hexit) x hx y hy)

theorem mem_of_reaches (hclosed : ∀ x ∈ w, ∀ y, ctx.base? roots x = some y → y ∈ w)
    {x y : TypeHandle} (hx : x ∈ w) (h : ctx.Reaches roots x y) : y ∈ w := by
  induction h with
  | refl => exact hx
  | tail _ hstep ih => exact hclosed _ ih _ hstep

end BaseWalk

/-! ## The walk as it is computed -/

theorem Snapshot.mem_of_find? {s : Snapshot} {name : String} {t : TypeSymbol}
    (h : s.find? name = some t) : t ∈ s.types := List.mem_of_find?_eq_some h

namespace BaseChain

variable {ctx : Context} {roots visited : List String}

theorem answer_walk_succ (fuel : Nat) (current : TypeHandle) :
    (walk roots (fuel + 1) visited current).answer ctx.snapshot =
      match ctx.base? roots current with
      | none => ⟨[current], current.symbol.base⟩
      | some next =>
        if next.name ∈ visited then ⟨[current], none⟩
        else
          let rest := (walk roots fuel (next.name :: visited) next).answer ctx.snapshot
          ⟨current :: rest.types, rest.exit⟩ := by
  rw [walk, Analysis.answer_bind, Context.base?]
  cases hbase : current.symbol.base with
  | none => rfl
  | some base =>
    simp only [Option.bind_some]
    by_cases hroot : base.name ∈ roots
    · simp only [if_pos hroot]; rfl
    · simp only [if_neg hroot, Analysis.answer_bind, Analysis.answer_find?, Context.resolve]
      cases hfind : ctx.snapshot.find? base.name with
      | none => rfl
      | some next =>
        by_cases hseen : next.name ∈ visited
        · simp [TypeHandle.name, hseen]
        · simp [TypeHandle.name, hseen]

/-- How many types have a name that has not come up. -/
def unseen (ctx : Context) (visited : List String) : Nat :=
  (ctx.snapshot.types.filter (·.name ∉ visited)).length

theorem unseen_cons_lt {next : TypeHandle} (hknown : ctx.Knows next) (hnew : next.name ∉ visited) :
    unseen ctx (next.name :: visited) < unseen ctx visited := by
  obtain ⟨symbol, hfind, hnext⟩ := Option.map_eq_some_iff.1 hknown
  have hmem := Snapshot.mem_of_find? hfind
  have hname : symbol.name = next.name := Snapshot.find?_name hfind
  have hfilter : ctx.snapshot.types.filter (·.name ∉ next.name :: visited) =
      (ctx.snapshot.types.filter (·.name ∉ visited)).filter (·.name ≠ next.name) := by
    rw [List.filter_filter]
    refine List.filter_congr fun t _ => ?_
    simp
  unfold unseen
  rw [hfilter, List.length_filter_lt_length_iff_exists]
  exact ⟨symbol, List.mem_filter.2 ⟨hmem, by simpa [hname] using hnew⟩, by simpa using hname⟩

theorem answer_walk {fuel : Nat} {current : TypeHandle} (hfuel : unseen ctx visited < fuel) :
    BaseWalk ctx roots visited current
        ((walk roots fuel visited current).answer ctx.snapshot).types ∧
      ((walk roots fuel visited current).answer ctx.snapshot).exit =
        ((walk roots fuel visited current).answer ctx.snapshot).types.getLast?.bind
          (ctx.exit? roots) := by
  induction fuel generalizing visited current with
  | zero => omega
  | succ fuel ih =>
    rw [answer_walk_succ]
    cases hbase : ctx.base? roots current with
    | none => exact ⟨.last fun next hnext => (by rw [hbase] at hnext; cases hnext), by
        simp [Context.exit?, hbase]⟩
    | some next =>
      by_cases hseen : next.name ∈ visited
      · simp only [if_pos hseen]
        refine ⟨.last fun next' hnext => ?_, by simp [Context.exit?, hbase]⟩
        cases hbase.symm.trans hnext
        exact hseen
      · simp only [if_neg hseen]
        have hlt := unseen_cons_lt (Context.knows_of_base? hbase) hseen
        obtain ⟨hwalk, hexit⟩ := @ih (next.name :: visited) next (by omega)
        refine ⟨.step hbase hseen hwalk, ?_⟩
        obtain ⟨rest, hrest⟩ := hwalk.eq_cons
        rw [hexit, hrest]
        simp

/-- **The base chain that is computed is the base walk**, with the reference at which it ends. -/
theorem answer_ofType (t : TypeHandle) :
    IsBaseWalk ctx roots t ((ofType ctx roots t).answer ctx.snapshot).types ∧
      ((ofType ctx roots t).answer ctx.snapshot).exit =
        ((ofType ctx roots t).answer ctx.snapshot).types.getLast?.bind (ctx.exit? roots) :=
  answer_walk (Nat.lt_succ_of_le (List.length_filter_le _ _))

end BaseChain

end SnapshotLint

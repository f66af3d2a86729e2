/-
  Derivation as reachability.

  * `Context.DerivesFrom`: following base references, without an end where they form a cycle.
    `Context.Implements`: a type reached in this way declares an interface that is, or derives from,
    a given one.
  * `Context.Trail`: what a walk knows of the names it has visited. Once it comes to one of them, it
    has seen all there is to reach (`Trail.not_finds`).
  * `Context.derivesWalk_iff`, `Context.implementsWalk_iff`: the walks find what is reached, in cycles
    and at names outside the snapshot, too.
  * `Walk.Same`: walks that do the same under every token. No walk is cut short by its bound
    (`Walk.same_derives`, `Walk.same_implementsFrom`).
-/
import Mathlib.Logic.Relation
import SnapshotLint.Proofs.BaseWalk

namespace SnapshotLint

/-! ## Walks one after another -/

namespace Walk

variable {α β : Type} {s : Snapshot}

@[simp] theorem answer_pure (a : α) : (pure a : Walk α).answer s = a := rfl

@[simp] theorem answer_pollToken : pollToken.answer s = () := rfl

@[simp] theorem answer_find? (name : String) : (find? name).answer s = s.find? name := rfl

@[simp] theorem answer_bind (w : Walk α) (f : α → Walk β) :
    (w >>= f).answer s = (f (w.answer s)).answer s := by
  change (w.bind f).answer s = _
  induction w with
  | done a => rfl
  | poll next ih => exact ih ()
  | lookup name next ih => exact ih _

theorem run_bind (w : Walk α) (f : α → Walk β) (t : Token) :
    (w >>= f).run s t =
      match w.run s t with
      | (some a, t) => (f a).run s t
      | (none, t) => (none, t) := by
  change (w.bind f).run s t = _
  induction w generalizing t with
  | done a => rfl
  | poll next ih =>
    simp only [bind, run]
    split
    · rfl
    · exact ih () t.poll
  | lookup name next ih => exact ih _ t.lookup

theorem answer_anyM (p : α → Walk Bool) (xs : List α) :
    (xs.anyM p).answer s = xs.any fun x => (p x).answer s := by
  induction xs with
  | nil => rfl
  | cons x xs ih =>
    rw [List.anyM, answer_bind, List.any_cons]
    cases (p x).answer s with
    | true => rfl
    | false => exact ih

/-- Two walks do the same under every token. -/
def Same (s : Snapshot) (w w' : Walk α) : Prop := ∀ t, w.run s t = w'.run s t

theorem Same.refl (w : Walk α) : Same s w w := fun _ => rfl

/-- Walks that begin alike do the same if they go on alike from what is found. -/
theorem Same.bind (w : Walk α) {f f' : α → Walk β}
    (h : ∀ a, a = w.answer s → Same s (f a) (f' a)) : Same s (w >>= f) (w >>= f') := by
  intro t
  rw [run_bind, run_bind]
  rcases hw : w.run s t with ⟨_ | a, t'⟩
  · rfl
  · exact h a (eq_answer (by rw [hw])) t'

theorem Same.bind_left {w w' : Walk α} (h : Same s w w') (f : α → Walk β) :
    Same s (w >>= f) (w' >>= f) := by
  intro t
  rw [run_bind, run_bind, h t]

theorem Same.trans {w w' w'' : Walk α} (h : Same s w w') (h' : Same s w' w'') : Same s w w'' :=
  fun t => (h t).trans (h' t)

theorem Same.anyM {p p' : α → Walk Bool} (h : ∀ x, Same s (p x) (p' x)) (xs : List α) :
    Same s (xs.anyM p) (xs.anyM p') := by
  induction xs with
  | nil => exact .refl _
  | cons x xs ih =>
    rw [List.anyM, List.anyM]
    refine ((h x).bind_left _).trans (.bind _ fun found _ => ?_)
    cases found with
    | true => exact .refl _
    | false => exact ih

end Walk

/-! ## Following base references -/

namespace Context

/-- The name in the base reference of the type called `n`. -/
def baseName? (ctx : Context) (n : String) : Option String :=
  ((ctx.snapshot.find? n).bind (·.base)).map (·.name)

/-- Base references lead from a name to another one. All names on the way are those of types of the
    snapshot, but for the last, which may be outside. -/
def DerivesFrom (ctx : Context) : String → String → Prop :=
  Relation.ReflTransGen fun n m => ctx.baseName? n = some m

/-- A type declares an interface that is called `i` or derives from it. -/
def Declares (ctx : Context) (t : TypeSymbol) (i : String) : Prop :=
  ∃ d ∈ t.interfaces, ctx.DerivesFrom d.name i

/-- The snapshot has a type called `n`, and base references lead from there to a type of the snapshot
    that declares `i`. -/
def Implements (ctx : Context) (n i : String) : Prop :=
  (ctx.snapshot.find? n).isSome ∧
    ∃ t ∈ ctx.snapshot.types, ctx.DerivesFrom n t.name ∧ ctx.Declares t i

variable {ctx : Context} {n m base : String} {p : String → Prop} {visited : List String}

/-- The snapshot has a type of this name, and the type declares `i`. -/
def DeclaredAt (ctx : Context) (i n : String) : Prop :=
  ∃ t, ctx.snapshot.find? n = some t ∧ ctx.Declares t i

/-- Base references lead from `n` to a name with the property. -/
def Finds (ctx : Context) (p : String → Prop) (n : String) : Prop :=
  ∃ m, ctx.DerivesFrom n m ∧ p m

theorem finds_of_goal (h : p n) : ctx.Finds p n := ⟨n, .refl, h⟩

theorem finds_iff_of_some (hgoal : ¬ p n) (hm : ctx.baseName? n = some m) :
    ctx.Finds p n ↔ ctx.Finds p m := by
  constructor
  · rintro ⟨k, hk, hgoal'⟩
    rcases hk.cases_head with rfl | ⟨m', hm', hk⟩
    · exact absurd hgoal' hgoal
    · cases hm.symm.trans hm'
      exact ⟨k, hk, hgoal'⟩
  · rintro ⟨k, hk, hgoal'⟩
    exact ⟨k, .head hm hk, hgoal'⟩

theorem not_finds_of_none (hgoal : ¬ p n) (hn : ctx.baseName? n = none) :
    ¬ ctx.Finds p n := by
  rintro ⟨k, hk, hgoal'⟩
  rcases hk.cases_head with rfl | ⟨m, hm, -⟩
  · exact hgoal hgoal'
  · rw [hn] at hm
    cases hm

/-- What a walk that comes to `n` knows of the names it has visited: none of them is a goal, and
    their base references lead to one of them or to `n`. -/
def Trail (ctx : Context) (p : String → Prop) (visited : List String) (n : String) : Prop :=
  ∀ v ∈ visited, ¬ p v ∧ ∀ m, ctx.baseName? v = some m → m ∈ n :: visited

theorem trail_nil : ctx.Trail p [] n := by simp [Trail]

theorem Trail.step (h : ctx.Trail p visited n) (hgoal : ¬ p n)
    (hm : ctx.baseName? n = some m) : ctx.Trail p (n :: visited) m := by
  intro v hv
  rcases List.mem_cons.1 hv with rfl | hv
  · refine ⟨hgoal, fun m' hm' => ?_⟩
    cases hm.symm.trans hm'
    exact List.mem_cons_self
  · obtain ⟨hv', hbase⟩ := h v hv
    exact ⟨hv', fun m' hm' => List.mem_cons_of_mem _ (hbase m' hm')⟩

/-- A walk that comes to a visited name has seen all that it can reach. -/
theorem Trail.not_finds (h : ctx.Trail p visited n) (hn : n ∈ visited) :
    ¬ ctx.Finds p n := by
  rintro ⟨k, hk, hgoal⟩
  have hvisited : k ∈ visited := by
    clear hgoal
    induction hk with
    | refl => exact hn
    | tail _ hstep ih =>
      rcases List.mem_cons.1 ((h _ ih).2 _ hstep) with rfl | hmem
      · exact hn
      · exact hmem
  exact (h k hvisited).1 hgoal

/-- A name that has not been visited and has a base uses up a type of the snapshot. -/
theorem unseen_cons_lt (hn : n ∉ visited) (hm : ctx.baseName? n = some m) :
    BaseChain.unseen ctx (n :: visited) < BaseChain.unseen ctx visited := by
  obtain ⟨base, hbase, -⟩ := Option.map_eq_some_iff.1 hm
  obtain ⟨t, ht, -⟩ := Option.bind_eq_some_iff.1 hbase
  cases Snapshot.find?_name ht
  exact BaseChain.unseen_cons_lt (knows_of_find? ht) hn

theorem unseen_nil_lt_walkBound (ctx : Context) : BaseChain.unseen ctx [] < ctx.walkBound :=
  Nat.lt_succ_of_le (List.length_filter_le _ _)

end Context

/-! ## Walks along base references -/

namespace Walk

variable {ctx : Context} {n base interface : String} {visited : List String} {fuel fuel' : Nat}

theorem answer_derives_succ :
    (derives base (fuel + 1) visited n).answer ctx.snapshot =
      if n = base then true
      else if n ∈ visited then false
      else match ctx.baseName? n with
        | none => false
        | some m => (derives base fuel (n :: visited) m).answer ctx.snapshot := by
  rw [derives, answer_bind]
  split
  · rfl
  · split
    · rfl
    · rw [answer_bind, answer_find?, Context.baseName?]
      cases (ctx.snapshot.find? n).bind (·.base) <;> rfl

/-- A walk for a name finds it if base references lead there. -/
theorem derives_iff (hfuel : BaseChain.unseen ctx visited < fuel)
    (htrail : ctx.Trail (· = base) visited n) :
    (derives base fuel visited n).answer ctx.snapshot = true ↔ ctx.DerivesFrom n base := by
  suffices h : (derives base fuel visited n).answer ctx.snapshot = true ↔
      ctx.Finds (· = base) n by
    simpa [Context.Finds] using h
  induction fuel generalizing visited n with
  | zero => omega
  | succ fuel ih =>
    rw [answer_derives_succ]
    by_cases hgoal : n = base
    · simp [hgoal, Context.finds_of_goal]
    · rw [if_neg hgoal]
      by_cases hseen : n ∈ visited
      · simp [hseen, htrail.not_finds hseen]
      · rw [if_neg hseen]
        cases hm : ctx.baseName? n with
        | none => simp [Context.not_finds_of_none (p := (· = base)) hgoal hm]
        | some m =>
          have hlt := Context.unseen_cons_lt hseen hm
          rw [Context.finds_iff_of_some (p := (· = base)) hgoal hm]
          exact ih (by omega) (htrail.step hgoal hm)

/-- What a walk does is not decided by its bound, as long as the bound is above the number of types
    that it can still meet. -/
theorem same_derives (hfuel : BaseChain.unseen ctx visited < fuel)
    (hfuel' : BaseChain.unseen ctx visited < fuel') :
    Same ctx.snapshot (derives base fuel visited n) (derives base fuel' visited n) := by
  induction fuel generalizing fuel' visited n with
  | zero => omega
  | succ fuel ih =>
    obtain ⟨fuel', rfl⟩ : ∃ k, fuel' = k + 1 := ⟨fuel' - 1, by omega⟩
    rw [derives, derives]
    refine .bind _ fun _ _ => ?_
    split
    · exact .refl _
    · split
      · exact .refl _
      · next hseen =>
        refine .bind _ fun found hfound => ?_
        cases hbase : found.bind (·.base) with
        | none => exact .refl _
        | some next =>
          have hm : ctx.baseName? n = some next.name := by
            rw [answer_find?] at hfound
            rw [Context.baseName?, ← hfound, hbase, Option.map_some]
          have hlt := Context.unseen_cons_lt hseen hm
          exact ih (by omega) (by omega)

/-! ## Walks for an interface -/

variable {size size' : Nat}

/-- The question that a walk asks of each interface that a type declares. -/
def declaredAs (interface : String) (size : Nat) (d : TypeRef) : Walk Bool :=
  if d.name = interface then return true else derives interface size [] d.name

theorem declares_iff (hsize : ctx.walkBound ≤ size) (t : TypeSymbol) :
    (t.interfaces.anyM (declaredAs interface size)).answer ctx.snapshot = true ↔
      ctx.Declares t interface := by
  have hunseen : BaseChain.unseen ctx [] < size :=
    Nat.lt_of_lt_of_le ctx.unseen_nil_lt_walkBound hsize
  have hquestion : ∀ d : TypeRef, (declaredAs interface size d).answer ctx.snapshot = true ↔
      ctx.DerivesFrom d.name interface := by
    intro d
    unfold declaredAs
    split
    · next heq => simp [heq, Context.DerivesFrom, Relation.ReflTransGen.refl]
    · exact derives_iff hunseen Context.trail_nil
  simp only [answer_anyM, List.any_eq_true, hquestion, Context.Declares]

theorem same_declaredAs (hsize : ctx.walkBound ≤ size) (hsize' : ctx.walkBound ≤ size')
    (d : TypeRef) :
    Same ctx.snapshot (declaredAs interface size d) (declaredAs interface size' d) := by
  have hunseen := ctx.unseen_nil_lt_walkBound
  unfold declaredAs
  split
  · exact .refl _
  · exact same_derives (by omega) (by omega)

theorem answer_implementsFrom_succ {t : TypeSymbol} (ht : ctx.snapshot.find? n = some t) :
    (implementsFrom interface size (fuel + 1) visited (some t)).answer ctx.snapshot =
      if n ∈ visited then false
      else if (t.interfaces.anyM (declaredAs interface size)).answer ctx.snapshot = true then true
      else match ctx.baseName? n with
        | none => false
        | some m => (implementsFrom interface size fuel (n :: visited)
            (ctx.snapshot.find? m)).answer ctx.snapshot := by
  have hname := Snapshot.find?_name ht
  rw [implementsFrom, answer_bind, hname]
  split
  · rfl
  · rw [answer_bind]
    simp only [apply_ite (answer ctx.snapshot), answer_pure]
    refine if_congr Iff.rfl rfl ?_
    rw [Context.baseName?, ht, Option.bind_some]
    cases t.base <;> rfl

/-- A walk for an interface finds it if base references lead to a type that declares it. -/
theorem implementsFrom_iff (hsize : ctx.walkBound ≤ size)
    (hfuel : BaseChain.unseen ctx visited < fuel)
    (htrail : ctx.Trail (ctx.DeclaredAt interface) visited n) :
    (implementsFrom interface size fuel visited (ctx.snapshot.find? n)).answer ctx.snapshot = true ↔
      ctx.Finds (ctx.DeclaredAt interface) n := by
  induction fuel generalizing visited n with
  | zero => omega
  | succ fuel ih =>
    cases ht : ctx.snapshot.find? n with
    | none =>
      have hgoal : ¬ ctx.DeclaredAt interface n := by simp [Context.DeclaredAt, ht]
      have hm : ctx.baseName? n = none := by simp [Context.baseName?, ht]
      simp [implementsFrom, answer, Context.not_finds_of_none hgoal hm]
    | some t =>
      have hdeclares : (t.interfaces.anyM (declaredAs interface size)).answer ctx.snapshot = true ↔
          ctx.DeclaredAt interface n := by
        rw [declares_iff hsize]
        simp [Context.DeclaredAt, ht]
      rw [answer_implementsFrom_succ ht]
      by_cases hseen : n ∈ visited
      · simp [hseen, htrail.not_finds hseen]
      · rw [if_neg hseen]
        by_cases hgoal : ctx.DeclaredAt interface n
        · rw [if_pos (hdeclares.2 hgoal)]
          simp [Context.finds_of_goal hgoal]
        · rw [if_neg (mt hdeclares.1 hgoal)]
          cases hm : ctx.baseName? n with
          | none => simp [Context.not_finds_of_none hgoal hm]
          | some m =>
            have hlt := Context.unseen_cons_lt hseen hm
            rw [Context.finds_iff_of_some hgoal hm]
            exact ih (by omega) (htrail.step hgoal hm)

theorem same_implementsFrom (hsize : ctx.walkBound ≤ size) (hsize' : ctx.walkBound ≤ size')
    (hfuel : BaseChain.unseen ctx visited < fuel) (hfuel' : BaseChain.unseen ctx visited < fuel') :
    Same ctx.snapshot (implementsFrom interface size fuel visited (ctx.snapshot.find? n))
      (implementsFrom interface size' fuel' visited (ctx.snapshot.find? n)) := by
  induction fuel generalizing fuel' visited n with
  | zero => omega
  | succ fuel ih =>
    obtain ⟨fuel', rfl⟩ : ∃ k, fuel' = k + 1 := ⟨fuel' - 1, by omega⟩
    cases ht : ctx.snapshot.find? n with
    | none => exact .refl _
    | some t =>
      have hname := Snapshot.find?_name ht
      rw [implementsFrom, implementsFrom, hname]
      refine .bind _ fun _ _ => ?_
      split
      · exact .refl _
      · next hseen =>
        have hinterfaces : Same ctx.snapshot (t.interfaces.anyM (declaredAs interface size))
            (t.interfaces.anyM (declaredAs interface size')) :=
          .anyM (same_declaredAs hsize hsize') _
        refine (hinterfaces.bind_left _).trans (.bind _ fun declared _ => ?_)
        split
        · exact .refl _
        · cases hbase : t.base with
          | none => exact .refl _
          | some base =>
            have hm : ctx.baseName? n = some base.name := by
              simp [Context.baseName?, ht, hbase]
            have hlt := Context.unseen_cons_lt hseen hm
            refine .bind _ fun found hfound => ?_
            rw [answer_find?] at hfound
            rw [hfound]
            exact ih (by omega) (by omega)

end Walk

/-! ## The questions -/

namespace Context

variable (ctx : Context)

theorem derivesWalk_iff (n base : String) :
    (ctx.derivesWalk n base).answer ctx.snapshot = true ↔ ctx.DerivesFrom n base :=
  Walk.derives_iff ctx.unseen_nil_lt_walkBound trail_nil

theorem implementsWalk_iff (n i : String) :
    (ctx.implementsWalk n i).answer ctx.snapshot = true ↔ ctx.Implements n i := by
  have hwalk := Walk.implementsFrom_iff (n := n) (Nat.le_refl ctx.walkBound)
    ctx.unseen_nil_lt_walkBound (trail_nil (p := ctx.DeclaredAt i))
  rw [implementsWalk, Walk.answer_bind, Walk.answer_find?, hwalk]
  constructor
  · rintro ⟨m, hm, t, ht, hdeclares⟩
    have hknown : (ctx.snapshot.find? n).isSome := by
      -- a name without a type has no base, so that nothing else is reached from it
      rcases hm.cases_head with rfl | ⟨k, hk, -⟩
      · rw [ht, Option.isSome_some]
      · obtain ⟨base, hbase, -⟩ := Option.map_eq_some_iff.1 hk
        obtain ⟨u, hu, -⟩ := Option.bind_eq_some_iff.1 hbase
        rw [hu, Option.isSome_some]
    rw [← Snapshot.find?_name ht] at hm
    exact ⟨hknown, t, Snapshot.mem_of_find? ht, hm, hdeclares⟩
  · rintro ⟨-, t, ht, hreached, hdeclares⟩
    exact ⟨t.name, hreached, t, Snapshot.find?_of_mem ht, hdeclares⟩

instance (n base : String) : Decidable (ctx.DerivesFrom n base) :=
  decidable_of_iff _ (ctx.derivesWalk_iff n base)

instance (n i : String) : Decidable (ctx.Implements n i) :=
  decidable_of_iff _ (ctx.implementsWalk_iff n i)

/-- **Questions about derivation are questions of reachability**, in every snapshot, whatever its
    base references do. So derivation is reflexive and transitive. The walks end of themselves: with
    any larger bound they poll, look up and find the same. -/
theorem queries_eq_reachability :
    (∀ n base, ∃ r, (ctx.derivesWalk n base).run ctx.snapshot {} = (some r, {}) ∧
      (r = true ↔ ctx.DerivesFrom n base)) ∧
    (∀ n i, ∃ r, (ctx.implementsWalk n i).run ctx.snapshot {} = (some r, {}) ∧
      (r = true ↔ ctx.Implements n i)) ∧
    (∀ n, (ctx.derivesWalk n n).run ctx.snapshot {} = (some true, {})) ∧
    (∀ a b c, (ctx.derivesWalk a b).run ctx.snapshot {} = (some true, {}) →
      (ctx.derivesWalk b c).run ctx.snapshot {} = (some true, {}) →
      (ctx.derivesWalk a c).run ctx.snapshot {} = (some true, {})) ∧
    (∀ n base more,
      Walk.Same ctx.snapshot (Walk.derives base (ctx.walkBound + more) [] n)
        (ctx.derivesWalk n base)) ∧
    ∀ n i more,
      Walk.Same ctx.snapshot
        (Walk.find? n >>= Walk.implementsFrom i (ctx.walkBound + more) (ctx.walkBound + more) [])
        (ctx.implementsWalk n i) := by
  have hunseen := ctx.unseen_nil_lt_walkBound
  have hfound : ∀ a b, (ctx.derivesWalk a b).run ctx.snapshot {} = (some true, {}) ↔
      ctx.DerivesFrom a b := by
    intro a b
    rw [Walk.run_quiet, ← ctx.derivesWalk_iff]
    simp
  refine ⟨fun n base => ⟨_, Walk.run_quiet _, ctx.derivesWalk_iff n base⟩,
    fun n i => ⟨_, Walk.run_quiet _, ctx.implementsWalk_iff n i⟩, ?_, ?_, ?_, ?_⟩
  · intro n
    exact (hfound n n).2 .refl
  · intro a b c hab hbc
    exact (hfound a c).2 (((hfound a b).1 hab).trans ((hfound b c).1 hbc))
  · intro n base more
    exact Walk.same_derives (by omega) hunseen
  · intro n i more
    refine .bind _ fun found hn => ?_
    rw [Walk.answer_find?] at hn
    rw [hn]
    exact Walk.same_implementsFrom (by omega) (Nat.le_refl _) (by omega) hunseen

end Context

end SnapshotLint

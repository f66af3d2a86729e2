/-
  The declaration of a name.

  A list of declarations is gone through from the first to the last, and the names seen so far are
  kept. This ends at the first name that was seen before (`firstRepeated?_eq_some`), so the list is
  refused iff two of its declarations share a name. Otherwise each declared name has one
  declaration, and a lookup of the name ends there: `ofTypes_lookup`.
-/
import Mathlib.Order.Bounds.Basic
import SnapshotLint.Proofs.BaseWalk

namespace SnapshotLint.Snapshot

/-- The declaration at a position is one of the name. -/
def DeclaredAt (types : List TypeSymbol) (name : String) (i : Nat) : Prop :=
  ∃ t, types[i]? = some t ∧ t.name = name

/-- The declaration at a position is of a name that is declared before. -/
def RepeatedAt (types : List TypeSymbol) (i : Nat) : Prop :=
  ∃ name, DeclaredAt types name i ∧ ∃ j < i, DeclaredAt types name j

variable {types : List TypeSymbol} {source : Option String} {name : String} {i : Nat}

theorem declaredAt_iff : DeclaredAt types name i ↔ (types.map (·.name))[i]? = some name := by
  simp [DeclaredAt]

/-! ## Names seen before -/

/-- The name that is found was seen before, or stands behind a front that it occurs in; the names of
    the front are all new. -/
theorem firstRepeated?_eq_some {seen names : List String}
    (h : firstRepeated? seen names = some name) :
    ∃ front back, names = front ++ name :: back ∧ (name ∈ front ∨ name ∈ seen) ∧ front.Nodup ∧
      ∀ n ∈ front, n ∉ seen := by
  induction names generalizing seen with
  | nil => cases h
  | cons n names ih =>
    unfold firstRepeated? at h
    split at h
    · next hn =>
      cases h
      exact ⟨[], names, rfl, .inr hn, List.nodup_nil, by simp⟩
    · next hn =>
      -- what is seen from here on is what was seen before and the name at hand
      obtain ⟨front, back, rfl, hname, hnodup, hfresh⟩ := ih h
      refine ⟨n :: front, back, rfl, ?_, ?_, ?_⟩
      · rcases hname with hname | hname
        · exact .inl (List.mem_cons_of_mem _ hname)
        · rcases List.mem_cons.1 hname with rfl | hname
          · exact .inl List.mem_cons_self
          · exact .inr hname
      · exact List.nodup_cons.2 ⟨fun hmem => hfresh n hmem List.mem_cons_self, hnodup⟩
      · intro m hm hseen
        rcases List.mem_cons.1 hm with rfl | hm
        · exact hn hseen
        · exact hfresh m hm (List.mem_cons_of_mem _ hseen)

theorem eq_of_declaredAt (hnames : (types.map (·.name)).Nodup) {j : Nat}
    (hi : DeclaredAt types name i) (hj : DeclaredAt types name j) : i = j := by
  rw [declaredAt_iff] at hi hj
  obtain ⟨hlt, -⟩ := List.getElem?_eq_some_iff.1 hi
  exact (List.getElem?_inj hlt hnames).1 (hi.trans hj.symm)

/-- The name that is found stands at the first position where a name is repeated. -/
theorem exists_isLeast_repeatedAt (h : firstRepeated? [] (types.map (·.name)) = some name) :
    ∃ i, DeclaredAt types name i ∧ IsLeast {i | RepeatedAt types i} i := by
  obtain ⟨front, back, heq, hname, hnodup, -⟩ := firstRepeated?_eq_some h
  have hfront : ∀ {n : String} {k : Nat}, k < front.length →
      (DeclaredAt types n k ↔ front[k]? = some n) := by
    intro n k hk
    rw [declaredAt_iff, heq, List.getElem?_append_left hk]
  have hat : DeclaredAt types name front.length := by
    rw [declaredAt_iff, heq]
    simp
  refine ⟨front.length, hat, ⟨name, hat, ?_⟩, ?_⟩
  · have hmem : name ∈ front := hname.resolve_right List.not_mem_nil
    obtain ⟨j, hj⟩ := List.mem_iff_getElem?.1 hmem
    obtain ⟨hlt, -⟩ := List.getElem?_eq_some_iff.1 hj
    exact ⟨j, hlt, (hfront hlt).2 hj⟩
  · -- a repetition before this position would be one within the front
    rintro k ⟨n, hk, j, hjk, hj⟩
    by_contra hlt
    rw [not_le] at hlt
    rw [hfront hlt] at hk
    rw [hfront (hjk.trans hlt)] at hj
    have hjk' : j = k := (List.getElem?_inj (hjk.trans hlt) hnodup).1 (hj.trans hk.symm)
    omega

/-! ## Lookups -/

theorem find?_of_declaredAt {s : Snapshot} (h : DeclaredAt s.types name i) :
    s.find? name = s.types[i]? := by
  obtain ⟨t, ht, rfl⟩ := h
  rw [ht, find?_of_mem (List.mem_of_getElem? ht)]

theorem find?_eq_none_iff {s : Snapshot} :
    s.find? name = none ↔ ∀ i, ¬ DeclaredAt s.types name i := by
  constructor
  · intro hnone i hi
    obtain ⟨t, ht, -⟩ := id hi
    have hfind := find?_of_declaredAt hi
    rw [hnone, ht] at hfind
    cases hfind
  · intro hnot
    rw [Option.eq_none_iff_forall_ne_some]
    intro t hfind
    obtain ⟨i, hi⟩ := List.mem_iff_getElem?.1 (mem_of_find? hfind)
    exact hnot i ⟨t, hi, find?_name hfind⟩

theorem ofTypes_cases (types : List TypeSymbol) (source : Option String) :
    (∃ name, firstRepeated? [] (types.map (·.name)) = some name ∧
      ofTypes types source = .error (.duplicateType name)) ∨
    ∃ s, ofTypes types source = .ok s ∧ s.types = types ∧ s.source = source := by
  unfold ofTypes
  split
  · next name h => exact .inl ⟨name, h, rfl⟩
  · exact .inr ⟨_, rfl, rfl, rfl⟩

/-- **A name leads to its only declaration.** A list of declarations is refused iff two of them
    share a name, and the error gives the name at the first position where the name came before.
    Otherwise the snapshot has the declarations in their order, a lookup of a declared name gives
    its only declaration, and a lookup gives nothing iff the name is not declared. -/
theorem ofTypes_lookup (types : List TypeSymbol) (source : Option String) :
    ((∃ e, ofTypes types source = .error e) ↔
      ∃ name i j, i ≠ j ∧ DeclaredAt types name i ∧ DeclaredAt types name j) ∧
    (∀ e, ofTypes types source = .error e → ∃ name i, e = .duplicateType name ∧
      DeclaredAt types name i ∧ IsLeast {i | RepeatedAt types i} i) ∧
    (∀ s, ofTypes types source = .ok s → s.types = types ∧ s.source = source ∧
      ∀ name, (∀ i, DeclaredAt types name i → s.find? name = types[i]? ∧
          ∀ j, DeclaredAt types name j → j = i) ∧
        (s.find? name = none ↔ ∀ i, ¬ DeclaredAt types name i)) := by
  rcases ofTypes_cases types source with ⟨name, hrepeated, herror⟩ | ⟨s, hok, rfl, rfl⟩
  · obtain ⟨i, hi, hleast⟩ := exists_isLeast_repeatedAt hrepeated
    rw [herror]
    refine ⟨⟨fun _ => ?_, fun _ => ⟨_, rfl⟩⟩, ?_, by simp⟩
    · obtain ⟨n, hn, j, hj, hnj⟩ := hleast.1
      exact ⟨n, j, i, hj.ne, hnj, hn⟩
    · rintro e ⟨⟩
      exact ⟨name, i, rfl, hi, hleast⟩
  · rw [hok]
    refine ⟨⟨by simp, ?_⟩, by simp, ?_⟩
    · rintro ⟨name, i, j, hne, hi, hj⟩
      exact absurd (eq_of_declaredAt s.distinct hi hj) hne
    · rintro s' ⟨⟩
      refine ⟨rfl, rfl, fun name => ⟨fun i hi => ⟨find?_of_declaredAt hi, fun j hj => ?_⟩,
        find?_eq_none_iff⟩⟩
      exact eq_of_declaredAt s.distinct hj hi

/-- Of two names that are declared twice, the one that is met again first is named. -/
example :
    (match ofTypes [{ name := "A" }, { name := "B" }, { name := "B" }, { name := "A" }] with
      | .error e => e.message
      | .ok _ => "") = "Duplicate type `B` in snapshot" := by
  decide

end SnapshotLint.Snapshot

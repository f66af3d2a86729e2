/-
  The order of results, by what is written.

  * `Path.Before`, `Violation.Precedes`: what comes first, component by component and then by line,
    column and code. `Violation.Level`: nothing comes first, as the files are written differently at
    most. The comparison tells which is the case (`Violation.cmp_eq_lt_iff`,
    `Violation.cmp_eq_eq_iff`).
  * `LintResult.sort_ordered`: the comparison is one of a total preorder, and results are sorted
    stably by it.
-/
import SnapshotLint.Proofs.PathSpelling
import SnapshotLint.Proofs.ReportOrder

namespace SnapshotLint

/-! ## Orders -/

/-- The comparison is one of a total preorder, of which it tells both directions. -/
structure IsTotalPreorder {α : Type} (cmp : α → α → Ordering) : Prop where
  swap : ∀ a b, cmp b a = (cmp a b).swap
  refl : ∀ a, cmp a a = .eq
  total : ∀ a b, cmp a b ≠ .gt ∨ cmp b a ≠ .gt
  trans : ∀ a b c, cmp a b ≠ .gt → cmp b c ≠ .gt → cmp a c ≠ .gt

/-- The second list has the elements of the first in order, and tied elements as they were. -/
structure StablySorted {α : Type} (cmp : α → α → Ordering) (l l' : List α) : Prop where
  perm : l'.Perm l
  ordered : l'.Pairwise fun a b => cmp a b ≠ .gt
  stable : ∀ a, l'.filter (cmp a · = .eq) = l.filter (cmp a · = .eq)

theorem compare_text_eq_lt_iff {s t : String} : compare s t = .lt ↔ s < t :=
  compareOfLessAndEq_eq_lt

/-! ## Paths -/

namespace Path

/-- Components in order: the root, `.`, `..` and then names, by their characters. -/
inductive Component.Before : Component → Component → Prop
  | kind {a b : Component} : a.rank < b.rank → Before a b
  | name {s t : String} : s < t → Before (.name s) (.name t)

/-- At the first difference, the component of the first path comes first or is missing. -/
def Before (p q : String) : Prop := List.Lex Component.Before (components p) (components q)

theorem Component.cmp_eq_lt_iff {a b : Component} : a.cmp b = .lt ↔ Before a b := by
  rw [cmp, Ordering.then_eq_lt, Nat.compare_eq_lt, Nat.compare_eq_eq, compare_text_eq_lt_iff]
  constructor
  · rintro (hrank | ⟨hrank, hlabel⟩)
    · exact .kind hrank
    · -- components other than names have no label to differ in
      cases a with
      | name s =>
        cases b with
        | name t => exact .name hlabel
        | root | current | parent => cases hrank
      | root | current | parent =>
        cases b with
        | name t => cases hrank
        | root | current | parent => exact absurd hlabel (String.lt_irrefl "")
  · rintro (hrank | hname)
    · exact .inl hrank
    · exact .inr ⟨rfl, hname⟩

theorem cmp_eq_lt_iff {p q : String} : cmp p q = .lt ↔ Before p q := by
  unfold cmp Before
  generalize components p = as
  generalize components q = bs
  induction as generalizing bs with
  | nil =>
    cases bs with
    | nil => simp [cmpList]
    | cons b bs => simp [cmpList]
  | cons a as ih =>
    cases bs with
    | nil => simp [cmpList]
    | cons b bs =>
      rw [cmpList, Ordering.then_eq_lt, Component.cmp_eq_lt_iff,
        Std.LawfulEqCmp.compare_eq_iff_eq, ih, List.cons_lex_cons_iff]

theorem cmp_eq_eq_iff {p q : String} : cmp p q = .eq ↔ Respelled p q := by
  rw [cmp, cmpList_eq, Std.LawfulEqCmp.compare_eq_iff_eq, components_eq_iff]

/-- The order of paths is not that of their texts. -/
example :
    cmp "a/b" "a-b" = .lt ∧ "a-b" < "a/b" ∧ cmp "a//b/." "a/b" = .eq ∧ cmp "./a" "a" = .lt := by
  decide

end Path

/-! ## Violations -/

namespace Violation

/-- The first violation comes first: by its file, and in the same file by its line, in the same line
    by its column, and at the same place by its code. -/
inductive Precedes (v w : Violation) : Prop
  | file : Path.Before v.location.file w.location.file → Precedes v w
  | line : Path.Respelled v.location.file w.location.file → v.location.line < w.location.line →
      Precedes v w
  | column : Path.Respelled v.location.file w.location.file → v.location.line = w.location.line →
      v.location.column < w.location.column → Precedes v w
  | code : Path.Respelled v.location.file w.location.file → v.location.line = w.location.line →
      v.location.column = w.location.column → v.code < w.code → Precedes v w

/-- The violations are at the same place and have the same code. -/
structure Level (v w : Violation) : Prop where
  file : Path.Respelled v.location.file w.location.file
  line : v.location.line = w.location.line
  column : v.location.column = w.location.column
  code : v.code = w.code

variable {v w : Violation}

theorem cmp_eq_lt_iff : v.cmp w = .lt ↔ v.Precedes w := by
  rw [cmp, Ordering.then_eq_lt, Ordering.then_eq_lt, Ordering.then_eq_lt, Path.cmp_eq_lt_iff,
    Path.cmp_eq_eq_iff, Std.compare_eq_lt, Std.compare_eq_lt, compare_text_eq_lt_iff,
    Std.LawfulEqCmp.compare_eq_iff_eq, Std.LawfulEqCmp.compare_eq_iff_eq]
  constructor
  · rintro (hfile | ⟨hfile, hline | ⟨hline, hcolumn | ⟨hcolumn, hcode⟩⟩⟩)
    · exact .file hfile
    · exact .line hfile hline
    · exact .column hfile hline hcolumn
    · exact .code hfile hline hcolumn hcode
  · rintro (hfile | ⟨hfile, hline⟩ | ⟨hfile, hline, hcolumn⟩ | ⟨hfile, hline, hcolumn, hcode⟩)
    · exact .inl hfile
    · exact .inr ⟨hfile, .inl hline⟩
    · exact .inr ⟨hfile, .inr ⟨hline, .inl hcolumn⟩⟩
    · exact .inr ⟨hfile, .inr ⟨hline, .inr ⟨hcolumn, hcode⟩⟩⟩

theorem orderKey_eq_iff : v.orderKey = w.orderKey ↔ v.Level w := by
  simp only [orderKey, Prod.mk.injEq, Path.components_eq_iff]
  constructor
  · rintro ⟨hfile, hline, hcolumn, hcode⟩
    exact ⟨hfile, hline, hcolumn, hcode⟩
  · rintro ⟨hfile, hline, hcolumn, hcode⟩
    exact ⟨hfile, hline, hcolumn, hcode⟩

theorem cmp_eq_eq_iff : v.cmp w = .eq ↔ v.Level w := cmp_eq_iff_orderKey.trans orderKey_eq_iff

theorem le_iff_ne_gt : v.le w = true ↔ v.cmp w ≠ .gt := by
  rw [le, bne_iff_ne]

theorem isTotalPreorder_cmp : IsTotalPreorder cmp where
  swap v w := cmp_swap v w
  refl v := cmp_eq_iff_orderKey.2 rfl
  total v w := by
    rw [← le_iff_ne_gt, ← le_iff_ne_gt, ← Bool.or_eq_true]
    exact le_total v w
  trans u v w := by
    simp only [← le_iff_ne_gt]
    exact le_trans u v w

theorem stablySorted_sort (vs : List Violation) : StablySorted cmp vs (sort vs) where
  perm := List.mergeSort_perm vs le
  ordered := (List.pairwise_mergeSort le_trans le_total vs).imp le_iff_ne_gt.1
  stable v := by
    have htied : (fun w => decide (v.cmp w = .eq)) = Tied le v := by
      funext w
      rw [Bool.eq_iff_iff, decide_eq_true_iff, tied_iff_cmp]
    rw [htied]
    exact filter_mergeSort le_trans le_total v vs

/-- What is in order stays as it is. -/
theorem sort_sort (vs : List Violation) : sort (sort vs) = sort vs :=
  List.mergeSort_of_pairwise (List.pairwise_mergeSort le_trans le_total vs)

end Violation

namespace LintResult

/-- **Results are sorted stably.** The comparison of violations is one of a total preorder. Of two
    violations the one comes first whose file has the smaller component at the first difference or
    ends there, then the one with the smaller line, column and code; they are tied if they agree in
    line, column and code and their files differ only in repeated separators, separators at the end
    and `.` components that are not at the beginning. To sort a result rearranges its violations
    into this order, with tied violations as they were, and changes nothing else. So it does
    nothing a second time, and it may come before or after violations are left out or changed in
    what is not compared. -/
theorem sort_ordered :
    IsTotalPreorder Violation.cmp ∧
    (∀ v w : Violation, (v.cmp w = .lt ↔ v.Precedes w) ∧ (v.cmp w = .eq ↔ v.Level w)) ∧
    ∀ r : LintResult,
      StablySorted Violation.cmp r.violations r.sort.violations ∧
      r.sort = { r with violations := r.sort.violations } ∧
      r.sort.sort = r.sort ∧
      (∀ keep : Violation → Bool,
        sort { r with violations := r.violations.filter keep } =
          { r.sort with violations := r.sort.violations.filter keep }) ∧
      ∀ change : Violation → Violation, (∀ v ∈ r.violations, (change v).Level v) →
        sort { r with violations := r.violations.map change } =
          { r.sort with violations := r.sort.violations.map change } := by
  refine ⟨Violation.isTotalPreorder_cmp,
    fun v w => ⟨Violation.cmp_eq_lt_iff, Violation.cmp_eq_eq_iff⟩, fun r =>
    ⟨Violation.stablySorted_sort r.violations, rfl, ?_, fun keep => ?_, fun change hlevel => ?_⟩⟩
  · simp only [sort, Violation.sort_sort]
  · simp only [sort, Violation.sort_filter]
  · have hkeys : ∀ v ∈ r.violations, (change v).orderKey = v.orderKey :=
      fun v hv => Violation.orderKey_eq_iff.2 (hlevel v hv)
    simp only [sort, Violation.sort_map_of_orderKey hkeys]

end LintResult

end SnapshotLint

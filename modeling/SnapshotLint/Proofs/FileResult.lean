/-
  The analysis of files under the token that nobody cancels.

  A file that holds a snapshot adds the result for it (`Analyzer.resultOf`), and any other file is
  passed over. So an analysis has a result as soon as its files are found, and the violations are
  those that its rules find in the snapshots: `Analyzer.analyze_uninterrupted`,
  `Analyzer.perm_violations`.
-/
import SnapshotLint.Proofs.ReportedOnce

namespace SnapshotLint

namespace LintResult

/-- Results one after the other. -/
def join (rs : List LintResult) : LintResult := rs.foldr append {}

theorem violations_join (rs : List LintResult) :
    (join rs).violations = rs.flatMap (·.violations) := by
  induction rs with
  | nil => rfl
  | cons r rs ih =>
    rw [List.flatMap_cons, ← ih]
    rfl

theorem checked_join {α : Type} {f g : α → LintResult}
    (hsnapshots : ∀ x, (f x).snapshotsChecked = (g x).snapshotsChecked)
    (htypes : ∀ x, (f x).typesChecked = (g x).typesChecked) (xs : List α) :
    (join (xs.map f)).snapshotsChecked = (join (xs.map g)).snapshotsChecked ∧
      (join (xs.map f)).typesChecked = (join (xs.map g)).typesChecked := by
  induction xs with
  | nil => exact ⟨rfl, rfl⟩
  | cons x xs ih =>
    exact ⟨congrArg₂ (· + ·) (hsnapshots x) ih.1, congrArg₂ (· + ·) (htypes x) ih.2⟩

theorem reaches_congr {r r' : LintResult} (h : ∀ v, v ∈ r.violations ↔ v ∈ r'.violations)
    (threshold : Severity) : r.reaches threshold = r'.reaches threshold := by
  rw [Bool.eq_iff_iff, reaches, reaches, List.any_eq_true, List.any_eq_true]
  simp only [h]

end LintResult

namespace Analyzer

variable {a : Analyzer}

/-- The result for a snapshot. -/
def resultOf (a : Analyzer) (s : Snapshot) : LintResult :=
  withSource s (LintResult.sort ⟨(a.found s).map a.override, 0,
    .ofNat (checkedCount (a.context s) (a.handlersOf s) s.types)⟩)

/-- The result for several snapshots. -/
def resultOfAll (a : Analyzer) (ss : List Snapshot) : LintResult :=
  (LintResult.join (ss.map a.resultOf)).sort

/-- The snapshots in those files that hold one. -/
def usable (fs : FileSystem) (paths : List String) : List Snapshot :=
  paths.filterMap fun path => (load fs path).toOption

theorem analyzeFiles_uninterrupted (h : a.rules.Observes) (hinvalid : a.failOnInvalid = false)
    (fs : FileSystem) (paths : List String) :
    a.analyzeFiles fs paths {} = (.ok (.join ((usable fs paths).map a.resultOf)), {}) := by
  induction paths with
  | nil => rfl
  | cons path rest ih =>
    have hpoll : ({} : Token).poll = {} := rfl
    have hcancelled : ({} : Token).cancelled = false := rfl
    rw [analyzeFiles, hpoll, hcancelled, if_neg Bool.false_ne_true, usable, List.filterMap_cons]
    cases hload : load fs path with
    | error cause =>
      rw [hinvalid]
      exact ih
    | ok s =>
      simp only [analyzeSnapshot_uninterrupted h s, ih]
      rfl

/-- **An analysis of files that nobody interrupts fails only if the files are not found.** -/
theorem analyze_uninterrupted (h : a.rules.Observes) (hinvalid : a.failOnInvalid = false)
    (fs : FileSystem) :
    (a.analyze fs {}).1 = (a.discover fs).map fun paths => a.resultOfAll (usable fs paths) := by
  rw [analyze]
  cases a.discover fs with
  | error e => rfl
  | ok paths =>
    simp only [analyzeFiles_uninterrupted h hinvalid]
    rfl

theorem perm_violations (a : Analyzer) (ss : List Snapshot) :
    (a.resultOfAll ss).violations.Perm (ss.flatMap fun s => (a.found s).map (a.finish s)) := by
  refine (List.mergeSort_perm _ _).trans ?_
  rw [LintResult.violations_join, List.flatMap_map]
  exact List.Perm.flatMap_left _ fun s _ => violations_withSource a s _ _

/-- What counts as checked does not depend on the rules. -/
theorem checked_resultOfAll (a a' : Analyzer) (h : a.config = a'.config) (ss : List Snapshot) :
    (a.resultOfAll ss).snapshotsChecked = (a'.resultOfAll ss).snapshotsChecked ∧
      (a.resultOfAll ss).typesChecked = (a'.resultOfAll ss).typesChecked := by
  have hwithSource : ∀ s r, (withSource s r).snapshotsChecked = 1 ∧
      (withSource s r).typesChecked = r.typesChecked := by
    intro s r
    unfold withSource
    split <;> exact ⟨rfl, rfl⟩
  refine LintResult.checked_join (fun s => ?_) (fun s => ?_) ss
  · rw [resultOf, (hwithSource s _).1, resultOf, (hwithSource s _).1]
  · rw [resultOf, (hwithSource s _).2, resultOf, (hwithSource s _).2]
    simp only [LintResult.sort, handlersOf, context, h]

theorem rule_finish (a : Analyzer) (s : Snapshot) (v : Violation) :
    (a.finish s v).rule = v.rule := by
  unfold finish inFile
  repeat' split
  all_goals simp only [override_eq]

end Analyzer

end SnapshotLint

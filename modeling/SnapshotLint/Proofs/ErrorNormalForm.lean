/-
  Errors in normal form.

  An error is a tree whose inner nodes are batches, of any depth and width. When it is handed on,
  its leaves are all that counts, in the order in which they are read from left to right: a
  cancellation among them prevails, and otherwise they are joined without any nesting.

  * `CheckError.HasLeaves`: the leaves of an error, by its structure.
  * `AnalyzeError.ofCheck_eq`: what becomes of an error, by its leaves.
  * `AnalyzeError.ofCheck_normalizes`: errors with the same leaves have the same outcome, the
    outcome has the leaves of the error, and to hand it on once more changes nothing.
-/
import SnapshotLint.Check.Error

namespace SnapshotLint

namespace CheckError

/-- The error stands for several others. -/
def IsBatch (e : CheckError) : Prop := ∃ causes, e = batch causes

/-- The leaves of an error, from left to right. An error that is no batch is its only leaf; a batch
    has the leaves of its causes, one after the other. -/
inductive HasLeaves : CheckError → List CheckError → Prop
  | leaf {e : CheckError} (h : ¬ e.IsBatch) : HasLeaves e [e]
  | nil : HasLeaves (batch []) []
  | cons {e : CheckError} {es ls ms : List CheckError} (he : HasLeaves e ls)
      (hes : HasLeaves (batch es) ms) : HasLeaves (batch (e :: es)) (ls ++ ms)

mutual
theorem hasLeaves_leaves : (e : CheckError) → HasLeaves e e.leaves
  | cancelled => .leaf (by simp [IsBatch])
  | failed .. => .leaf (by simp [IsBatch])
  | panicked .. => .leaf (by simp [IsBatch])
  | batch causes => hasLeaves_leavesList causes

theorem hasLeaves_leavesList : (es : List CheckError) → HasLeaves (batch es) (leavesList es)
  | [] => .nil
  | e :: es => .cons (hasLeaves_leaves e) (hasLeaves_leavesList es)
end

namespace HasLeaves

variable {e : CheckError} {ls : List CheckError}

theorem leaves_eq (h : HasLeaves e ls) : e.leaves = ls := by
  induction h with
  | @leaf e h =>
    cases e with
    | batch causes => exact absurd ⟨causes, rfl⟩ h
    | cancelled | failed | panicked => rfl
  | nil => rfl
  | @cons e es ls ms _ _ ih ihs =>
    change leaves e ++ leaves (batch es) = ls ++ ms
    rw [ih, ihs]

theorem not_isBatch (h : HasLeaves e ls) : ∀ l ∈ ls, ¬ l.IsBatch := by
  induction h with
  | leaf h => exact fun l hl => List.mem_singleton.1 hl ▸ h
  | nil => exact fun l hl => absurd hl List.not_mem_nil
  | cons _ _ ih ihs => exact List.forall_mem_append.2 ⟨ih, ihs⟩

/-- To look for a cancellation in a tree is to look for it among the leaves. -/
theorem isCancellation_iff (h : HasLeaves e ls) : e.isCancellation = true ↔ cancelled ∈ ls := by
  induction h with
  | @leaf e h =>
    cases e with
    | batch causes => exact absurd ⟨causes, rfl⟩ h
    | cancelled | failed | panicked => simp [isCancellation]
  | nil => simp [isCancellation, anyCancellation]
  | @cons e es ls ms _ _ ih ihs =>
    have hor : (batch (e :: es)).isCancellation = (e.isCancellation || (batch es).isCancellation) :=
      rfl
    rw [hor, Bool.or_eq_true, ih, ihs, List.mem_append]

end HasLeaves

/-! ## Leaves joined again -/

/-- Several causes as one error; a single one stands for itself. -/
def joined : List CheckError → CheckError
  | [cause] => cause
  | causes => batch causes

theorem hasLeaves_batch {ls : List CheckError} (h : ∀ l ∈ ls, ¬ l.IsBatch) :
    HasLeaves (batch ls) ls := by
  induction ls with
  | nil => exact .nil
  | cons l ls ih =>
    obtain ⟨hl, hls⟩ := List.forall_mem_cons.1 h
    exact .cons (.leaf hl) (ih hls)

theorem joined_of_length_ne_one {ls : List CheckError} (h : ls.length ≠ 1) :
    joined ls = batch ls := by
  match ls, h with
  | [], _ => rfl
  | _ :: _ :: _, _ => rfl

theorem hasLeaves_joined {ls : List CheckError} (h : ∀ l ∈ ls, ¬ l.IsBatch) :
    HasLeaves (joined ls) ls := by
  by_cases hone : ls.length = 1
  · obtain ⟨l, rfl⟩ := List.length_eq_one_iff.1 hone
    exact .leaf (h l List.mem_cons_self)
  · rw [joined_of_length_ne_one hone]
    exact hasLeaves_batch h

end CheckError

namespace AnalyzeError

open CheckError

/-- What becomes of an error is decided by its leaves. -/
theorem ofCheck_eq {e : CheckError} {ls : List CheckError} (h : e.HasLeaves ls) :
    ofCheck e = if CheckError.cancelled ∈ ls then cancelled else failed (joined ls) := by
  simp only [ofCheck, h.isCancellation_iff, h.leaves_eq]
  split
  · rfl
  · rcases ls with _ | ⟨l, _ | ⟨l', ls⟩⟩ <;> rfl

/-- **Errors are handed on in normal form.** Every error has leaves in one order only. It counts as
    a cancellation iff one of them is a cancellation. Otherwise it is handed on as a failure with
    just these leaves, which is the leaf itself if there is one, and else a batch of them without
    any batch in it; and this failure is handed on as it is. Errors with the same leaves, however
    they are nested, have the same outcome. -/
theorem ofCheck_normalizes (e : CheckError) :
    ∃ ls, e.HasLeaves ls ∧ (∀ ms, e.HasLeaves ms → ms = ls) ∧
      (ofCheck e = .cancelled ↔ CheckError.cancelled ∈ ls) ∧
      (CheckError.cancelled ∉ ls → ∃ c, ofCheck e = .failed c ∧ c.HasLeaves ls ∧
        (∀ l, ls = [l] → c = l) ∧
        (ls.length ≠ 1 → c = .batch ls ∧ ∀ l ∈ ls, ¬ l.IsBatch) ∧
        ofCheck c = .failed c) ∧
      ∀ e', e'.HasLeaves ls → ofCheck e' = ofCheck e := by
  have hleaves := e.hasLeaves_leaves
  have houtcome := ofCheck_eq hleaves
  refine ⟨e.leaves, hleaves, fun ms hms => hms.leaves_eq.symm, ?_, fun hnone => ?_,
    fun e' he' => (ofCheck_eq he').trans houtcome.symm⟩
  · rw [houtcome]
    split <;> simp_all
  · have hjoined := hasLeaves_joined hleaves.not_isBatch
    rw [if_neg hnone] at houtcome
    refine ⟨joined e.leaves, houtcome, hjoined, fun l hl => ?_, fun hlength => ?_, ?_⟩
    · rw [hl]
      rfl
    · exact ⟨joined_of_length_ne_one hlength, hleaves.not_isBatch⟩
    · rw [ofCheck_eq hjoined, if_neg hnone]

/-- Batches without causes leave nothing behind, and a batch of one cause no trace. -/
example :
    ofCheck (.batch [.batch [.batch []], .batch [.batch [.failed "a" "x"]]]) =
        .failed (.failed "a" "x") ∧
      ofCheck (.batch [.failed "a" "x", .batch [.panicked "b" "y", .batch [.failed "c" "z"]]]) =
        .failed (.batch [.failed "a" "x", .panicked "b" "y", .failed "c" "z"]) ∧
      ofCheck (.batch [.batch [], .batch []]) = .failed (.batch []) := by
  decide

end AnalyzeError

end SnapshotLint

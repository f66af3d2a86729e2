/-
  How the check of a model by a rule can go wrong, and what becomes of several failures: a
  cancellation among them prevails, nested batches are laid flat, and a single failure stands for
  itself.

  Main equations: `AnalyzeError.ofCheck` depends on the leaves of an error only.
-/
import SnapshotLint.Token

namespace SnapshotLint

/-- The failure of a check. -/
inductive CheckError where
  /-- The token was found cancelled. -/
  | cancelled
  /-- The rule gave up. -/
  | failed (rule message : String)
  /-- The rule broke off. -/
  | panicked (rule message : String)
  /-- Several failures. -/
  | batch (causes : List CheckError)
deriving Inhabited

namespace CheckError

mutual
/-- Whether two errors are the same. -/
def decEq : (a b : CheckError) → Decidable (a = b)
  | cancelled, cancelled => isTrue rfl
  | failed r m, failed r' m' =>
    if h : r = r' ∧ m = m' then isTrue (by rw [h.1, h.2]) else isFalse (by simpa using h)
  | panicked r m, panicked r' m' =>
    if h : r = r' ∧ m = m' then isTrue (by rw [h.1, h.2]) else isFalse (by simpa using h)
  | batch as, batch bs =>
    match decEqList as bs with
    | isTrue h => isTrue (by rw [h])
    | isFalse h => isFalse (by simpa using h)
  | cancelled, failed .. | cancelled, panicked .. | cancelled, batch _
  | failed .., cancelled | failed .., panicked .. | failed .., batch _
  | panicked .., cancelled | panicked .., failed .. | panicked .., batch _
  | batch _, cancelled | batch _, failed .. | batch _, panicked .. => isFalse (by simp)

/-- Whether two lists of errors are the same. -/
def decEqList : (as bs : List CheckError) → Decidable (as = bs)
  | [], [] => isTrue rfl
  | [], _ :: _ => isFalse (by simp)
  | _ :: _, [] => isFalse (by simp)
  | a :: as, b :: bs =>
    match decEq a b, decEqList as bs with
    | isTrue ha, isTrue has => isTrue (by rw [ha, has])
    | isFalse ha, _ => isFalse (by simp [ha])
    | _, isFalse has => isFalse (by simp [has])
end

instance : DecidableEq CheckError := decEq

mutual
/-- Whether an error is a cancellation or holds one. -/
def isCancellation : CheckError → Bool
  | cancelled => true
  | failed .. => false
  | panicked .. => false
  | batch causes => anyCancellation causes

/-- Whether a list of errors holds a cancellation. -/
def anyCancellation : List CheckError → Bool
  | [] => false
  | e :: es => isCancellation e || anyCancellation es
end

mutual
/-- The errors other than batches, from left to right. -/
def leaves : CheckError → List CheckError
  | batch causes => leavesList causes
  | e => [e]

/-- The errors other than batches in a list. -/
def leavesList : List CheckError → List CheckError
  | [] => []
  | e :: es => leaves e ++ leavesList es
end

/-- What is said of an error. -/
def message : CheckError → String
  | cancelled => cancelledMessage
  | failed rule message => "rule `" ++ rule ++ "` failed: " ++ message
  | panicked rule message => "rule `" ++ rule ++ "` panicked: " ++ message
  | batch causes => toString causes.length ++ " rule-checkers failed"

end CheckError

/-- The failure of an aggregated check. -/
inductive AnalyzeError where
  /-- Cancellation was requested. -/
  | cancelled
  /-- A rule failed. -/
  | failed (cause : CheckError)
deriving DecidableEq

namespace AnalyzeError

/-- What becomes of an error. -/
def ofCheck (e : CheckError) : AnalyzeError :=
  if e.isCancellation then cancelled
  else match e.leaves with
    | [cause] => failed cause
    | causes => failed (.batch causes)

/-- What is said of a failure. -/
def message : AnalyzeError → String
  | cancelled => cancelledMessage
  | failed cause => cause.message

end AnalyzeError

end SnapshotLint

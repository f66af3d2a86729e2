/-
  The token by which a running analysis is cancelled. It is polled between the steps of the work;
  once cancelled it stays so. A token may be set to become cancelled by itself at a given poll or
  at a given type lookup, which is how every moment of a run can be tried.
-/

namespace SnapshotLint

/-- The state of a cancellation token. -/
structure Token where
  /-- Whether cancellation has been requested. -/
  cancelled : Bool := false
  /-- How many polls are still to come before the one that finds the token cancelled. -/
  pollsLeft : Option Nat := none
  /-- How many lookups are still to come before the one at which the token becomes cancelled. -/
  lookupsLeft : Option Nat := none
deriving DecidableEq, Inhabited

namespace Token

/-- The token after a poll; the poll sees the new state. -/
def poll (t : Token) : Token :=
  match t.pollsLeft with
  | none => t
  | some 0 => { t with cancelled := true }
  | some (n + 1) => { t with pollsLeft := some n }

/-- The token once a lookup has begun. -/
def lookup (t : Token) : Token :=
  match t.lookupsLeft with
  | none => t
  | some 0 => { t with cancelled := true }
  | some (n + 1) => { t with lookupsLeft := some n }

/-- The token after a request to cancel. -/
def cancel (t : Token) : Token := { t with cancelled := true }

theorem cancelled_poll {t : Token} (h : t.cancelled = true) : t.poll.cancelled = true := by
  unfold poll; split <;> simp [h]

theorem cancelled_lookup {t : Token} (h : t.cancelled = true) : t.lookup.cancelled = true := by
  unfold lookup; split <;> simp [h]

end Token

/-- What is said when a token was found cancelled. -/
def cancelledMessage : String := "analysis was cancelled"

end SnapshotLint

/-
  Analyses: computations that look up types in a snapshot, ask questions about them, and poll the
  cancellation token. An analysis is a tree of such steps, so that it can be interpreted in two
  ways: `answer` is what it computes when nobody interrupts it, and `run` carries it out under a
  token. A `Walk` has only lookups and polls; an `Analysis` may also ask a yes-or-no question by a
  walk, and then takes an interrupted walk for a no.

  Main equations: `answer_bind` and `run_bind`.
-/
import SnapshotLint.Snapshot
import SnapshotLint.Framework
import SnapshotLint.Token

namespace SnapshotLint

/-- A walk through the types of a snapshot. -/
inductive Walk (α : Type) where
  /-- The end of the walk. -/
  | done (a : α)
  /-- Stop here if the token is cancelled. -/
  | poll (next : Unit → Walk α)
  /-- Look up a type and go on with what was found. -/
  | lookup (name : String) (next : Option TypeSymbol → Walk α)

namespace Walk

variable {α β : Type}

/-- One walk after another. -/
def bind : Walk α → (α → Walk β) → Walk β
  | done a, f => f a
  | poll next, f => poll fun u => (next u).bind f
  | lookup name next, f => lookup name fun t => (next t).bind f

instance : Monad Walk where
  pure := done
  bind := bind

/-- What a walk finds when nobody interrupts it. -/
def answer (s : Snapshot) : Walk α → α
  | done a => a
  | poll next => (next ()).answer s
  | lookup name next => (next (s.find? name)).answer s

/-- A walk under a token: nothing is found if a poll finds it cancelled. -/
def run (s : Snapshot) : Walk α → Token → Option α × Token
  | done a, t => (some a, t)
  | poll next, t => if t.poll.cancelled then (none, t.poll) else (next ()).run s t.poll
  | lookup name next, t => (next (s.find? name)).run s t.lookup

end Walk

/-- An analysis. -/
inductive Analysis (α : Type) where
  /-- The end of the analysis. -/
  | done (a : α)
  /-- Stop here if the token is cancelled. -/
  | poll (next : Unit → Analysis α)
  /-- Look up a type and go on with what was found. -/
  | lookup (name : String) (next : Option TypeSymbol → Analysis α)
  /-- Ask a question; the answer is no if the walk was interrupted. -/
  | ask (question : Walk Bool) (next : Bool → Analysis α)

namespace Analysis

variable {α β : Type}

/-- One analysis after another. -/
def bind : Analysis α → (α → Analysis β) → Analysis β
  | done a, f => f a
  | poll next, f => poll fun u => (next u).bind f
  | lookup name next, f => lookup name fun t => (next t).bind f
  | ask question next, f => ask question fun b => (next b).bind f

instance : Monad Analysis where
  pure := done
  bind := bind

/-- What an analysis computes when nobody interrupts it. -/
def answer (s : Snapshot) : Analysis α → α
  | done a => a
  | poll next => (next ()).answer s
  | lookup name next => (next (s.find? name)).answer s
  | ask question next => (next (question.answer s)).answer s

/-- An analysis under a token: there is no result if a poll of its own finds it cancelled. -/
def run (s : Snapshot) : Analysis α → Token → Option α × Token
  | done a, t => (some a, t)
  | poll next, t => if t.poll.cancelled then (none, t.poll) else (next ()).run s t.poll
  | lookup name next, t => (next (s.find? name)).run s t.lookup
  | ask question next, t =>
    (next ((question.run s t).1.getD false)).run s (question.run s t).2

/-- A walk as part of an analysis: if it is interrupted, so is the analysis. -/
def ofWalk : Walk α → Analysis α
  | .done a => done a
  | .poll next => poll fun u => ofWalk (next u)
  | .lookup name next => lookup name fun t => ofWalk (next t)

/-- Poll the token. -/
def pollToken : Analysis Unit := poll fun _ => done ()

/-- Look up a type. -/
def find? (name : String) : Analysis (Option TypeSymbol) := lookup name done

/-- Ask a question. -/
def query (question : Walk Bool) : Analysis Bool := ask question done

theorem answer_bind (s : Snapshot) (x : Analysis α) (f : α → Analysis β) :
    (x >>= f).answer s = (f (x.answer s)).answer s := by
  change (x.bind f).answer s = _
  induction x with
  | done a => rfl
  | poll next ih => exact ih ()
  | lookup name next ih => exact ih _
  | ask question next ih => exact ih _

theorem run_bind (s : Snapshot) (x : Analysis α) (f : α → Analysis β) (t : Token) :
    (x >>= f).run s t =
      match x.run s t with
      | (some a, t) => (f a).run s t
      | (none, t) => (none, t) := by
  change (x.bind f).run s t = _
  induction x generalizing t with
  | done a => rfl
  | poll next ih =>
    simp only [bind, run]
    split
    · rfl
    · exact ih () t.poll
  | lookup name next ih => exact ih _ t.lookup
  | ask question next ih => exact ih _ _

end Analysis

/-- What an analysis is about: the types and the framework's names. -/
structure Context where
  snapshot : Snapshot
  framework : Framework := {}

end SnapshotLint

/-
  Derivation of types from one another: along base references, and through implemented interfaces.
  A base reference may name a type outside the snapshot, where a walk ends, and bases may form a
  cycle, where a walk ends at the first name it has seen before.
-/
import SnapshotLint.Analysis

namespace SnapshotLint

namespace Walk

/-- Poll the token. -/
def pollToken : Walk Unit := poll fun _ => done ()

/-- Look up a type. -/
def find? (name : String) : Walk (Option TypeSymbol) := lookup name done

/-- Whether a base reference from `name` onwards names `base`, before a name comes up again. -/
def derives (base : String) : (fuel : Nat) → (visited : List String) → (name : String) → Walk Bool
  | 0, _, _ => done false
  | fuel + 1, visited, name => do
    pollToken
    if name = base then return true
    if name ∈ visited then return false
    match (← find? name).bind (·.base) with
    | none => return false
    | some next => derives base fuel (name :: visited) next.name

/-- Whether a type of the base chain that begins with `current` declares an interface that is
    `interface` or derives from it. -/
def implementsFrom (interface : String) (size : Nat) :
    (fuel : Nat) → (visited : List String) → (current : Option TypeSymbol) → Walk Bool
  | _, _, none => done false
  | 0, _, some _ => done false
  | fuel + 1, visited, some symbol => do
    pollToken
    if symbol.name ∈ visited then return false
    let declared ← symbol.interfaces.anyM fun d =>
      if d.name = interface then return true else derives interface size [] d.name
    if declared then return true
    match symbol.base with
    | none => return false
    | some base => implementsFrom interface size fuel (symbol.name :: visited) (← find? base.name)

end Walk

namespace Context

/-- How many steps a walk can take at most: it meets every type of the snapshot once and then
    either a name outside it or one met before. -/
def walkBound (ctx : Context) : Nat := ctx.snapshot.types.length + 1

/-- Whether the type called `name` is `base` or derives from it. -/
def derivesWalk (ctx : Context) (name base : String) : Walk Bool :=
  Walk.derives base ctx.walkBound [] name

/-- Whether the type called `name` or one of its bases implements `interface`. -/
def implementsWalk (ctx : Context) (name interface : String) : Walk Bool := do
  Walk.implementsFrom interface ctx.walkBound ctx.walkBound [] (← Walk.find? name)

/-- The question whether `name` is `base` or derives from it. -/
def derives (ctx : Context) (name base : String) : Analysis Bool :=
  Analysis.query (ctx.derivesWalk name base)

/-- The question whether `name` or one of its bases implements `interface`. -/
def implements (ctx : Context) (name interface : String) : Analysis Bool :=
  Analysis.query (ctx.implementsWalk name interface)

end Context

end SnapshotLint

/-
  Linearization: the types whose members together make up a graph, a data access class or an
  extension, from the most basic layer to the type itself.

  An extension names what it extends by the type arguments of its root: the last one is the target,
  those before it are lower extensions, the highest first.
-/
import SnapshotLint.Derivation

namespace SnapshotLint

/-- Where a type was met: in the snapshot, or handed in from outside. -/
inductive Origin where
  | snapshot
  | standalone
deriving DecidableEq, Inhabited

/-- A type as the analysis holds it. -/
structure TypeHandle where
  symbol : TypeSymbol
  origin : Origin := .snapshot
deriving DecidableEq, Inhabited

namespace TypeHandle

/-- The name of the type. -/
def name (t : TypeHandle) : String := t.symbol.name

/-- Whether two handles are of one declaration: names are unique within the snapshot, and there is
    at most one type from outside. -/
def same (a b : TypeHandle) : Bool := a.origin == b.origin && a.name == b.name

end TypeHandle

/-- A member together with the type that declares it. -/
structure MemberHandle where
  owner : TypeHandle
  /-- Position among the members of the owner. -/
  index : Nat
  member : Member
deriving DecidableEq, Inhabited

namespace MemberHandle

/-- The name of the member. -/
def name (m : MemberHandle) : String := m.member.name

/-- The place of the member, or else of its owner. -/
def location (m : MemberHandle) : Option Location := m.member.location <|> m.owner.symbol.location

end MemberHandle

/-- The members of a type in the order of their declarations. -/
def TypeHandle.members (t : TypeHandle) : List MemberHandle :=
  t.symbol.members.zipIdx.map fun (m, i) => ⟨t, i, m⟩

/-- What a type is to a family of framework entities. -/
inductive Role where
  /-- The entity itself. -/
  | primary
  /-- An extension of an entity. -/
  | extension
  /-- Neither. -/
  | unrelated
deriving DecidableEq, Inhabited

/-- The families of framework entities. -/
inductive Family where
  /-- Graphs and their extensions. -/
  | graph
  /-- Data access classes and their extensions. -/
  | dac
deriving DecidableEq, Inhabited

/-- A type that takes part in a hierarchy. -/
structure Layer where
  type : TypeHandle
  /-- Position from the most basic layer, which has position zero. -/
  index : Nat
deriving DecidableEq, Inhabited

/-- A linearized type. -/
structure Hierarchy where
  role : Role := .unrelated
  /-- The layers, the most basic first. -/
  layers : List Layer := []
  /-- The entity that the type is or extends, if it is known. -/
  target : Option TypeHandle := none
  /-- The base reference at which the chain of bases ended. -/
  root : Option TypeRef := none
deriving DecidableEq, Inhabited

/-- A type with its bases in the snapshot, and the first base reference that led out of it. -/
structure BaseChain where
  types : List TypeHandle
  exit : Option TypeRef
deriving DecidableEq, Inhabited

namespace BaseChain

/-- The chain that begins with `current`. It ends before a root, at a name outside the snapshot,
    and before a type it has met. -/
def walk (roots : List String) :
    (fuel : Nat) → (visited : List String) → (current : TypeHandle) → Analysis BaseChain
  | 0, _, current => return ⟨[current], none⟩
  | fuel + 1, visited, current => do
    Analysis.pollToken
    match current.symbol.base with
    | none => return ⟨[current], none⟩
    | some base =>
      if base.name ∈ roots then return ⟨[current], some base⟩
      match ← Analysis.find? base.name with
      | none => return ⟨[current], some base⟩
      | some next =>
        if next.name ∈ visited then return ⟨[current], none⟩
        let rest ← walk roots fuel (next.name :: visited) ⟨next, .snapshot⟩
        return ⟨current :: rest.types, rest.exit⟩

/-- The base chain of a type. -/
def ofType (ctx : Context) (roots : List String) (t : TypeHandle) : Analysis BaseChain :=
  walk roots ctx.walkBound [t.name] t

end BaseChain

/-- Further layers on top of those there are; a type that is a layer already is left out. -/
def addLayers (layers : List Layer) (types : List TypeHandle) : List Layer :=
  types.foldl (fun ls t =>
    if ls.any (·.type.name == t.name) then ls else ls ++ [⟨t, ls.length⟩]) layers

namespace Family

/-- The root that entities of the family derive from, if there is one. -/
def primaryRoot? (f : Framework) : Family → Option String
  | graph => some f.graph
  | dac => none

/-- The roots that extensions of the family derive from. -/
def extensionRoots (f : Framework) : Family → List String
  | graph => [f.graphExtension]
  | dac => [f.dacExtension, f.mappedDacExtension]

/-- All roots of the family. -/
def roots (f : Framework) (family : Family) : List String :=
  family.extensionRoots f ++ (family.primaryRoot? f).toList

end Family

namespace Hierarchy

/-- The layers of the lower extensions, given from the lowest to the highest, on top of others. -/
def addLower (ctx : Context) (roots : List String) (layers : List Layer) (lower : List TypeRef) :
    Analysis (List Layer) :=
  lower.foldlM (fun layers arg => do
    Analysis.pollToken
    match ← Analysis.find? arg.name with
    | none => return layers
    | some t =>
      let chain ← BaseChain.ofType ctx roots ⟨t, .snapshot⟩
      return addLayers layers chain.types.reverse) layers

/-- The type that the last type argument of an extension root names. -/
def findTarget (args : List TypeRef) : Analysis (Option TypeSymbol) :=
  match args.getLast? with
  | none => return none
  | some arg => Analysis.find? arg.name

/-- The layers of the target of an extension. -/
def targetLayers (ctx : Context) (roots : List String) :
    Option TypeSymbol → Analysis (List Layer)
  | none => return []
  | some t => do
    let chain ← BaseChain.ofType ctx roots ⟨t, .snapshot⟩
    return addLayers [] chain.types.reverse

/-- An extension: the layers of its target, then of the lower extensions, then its own. -/
def ofExtension (ctx : Context) (roots : List String) (chain : BaseChain) :
    Analysis Hierarchy := do
  let args := (chain.exit.map (·.args)).getD []
  let target ← findTarget args
  let layers ← targetLayers ctx roots target
  let layers ← addLower ctx roots layers args.dropLast.reverse
  return {
    role := .extension
    layers := addLayers layers chain.types.reverse
    target := target.map fun t => ⟨t, .snapshot⟩
    root := chain.exit }

/-- Whether a type whose base chain leads to no extension root is an entity of the family. -/
def isPrimary (ctx : Context) (family : Family) (t : TypeHandle) (chain : BaseChain) :
    Analysis Bool :=
  match family with
  | .graph => return chain.exit.any (·.name == ctx.framework.graph)
  | .dac => Analysis.ofWalk (ctx.implementsWalk t.name ctx.framework.dac)

/-- The hierarchy of a type. -/
def linearize (ctx : Context) (family : Family) (t : TypeHandle) : Analysis Hierarchy := do
  let roots := family.roots ctx.framework
  let chain ← BaseChain.ofType ctx roots t
  if chain.exit.any fun exit => (family.extensionRoots ctx.framework).contains exit.name then
    ofExtension ctx roots chain
  else if ← isPrimary ctx family t chain then
    return {
      role := .primary
      layers := addLayers [] chain.types.reverse
      target := some t
      root := chain.exit }
  else
    return {}

/-- The names of the layers. -/
def layerNames (h : Hierarchy) : List String := h.layers.map (·.type.name)

end Hierarchy

end SnapshotLint

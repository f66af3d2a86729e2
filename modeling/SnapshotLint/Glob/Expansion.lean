/-
  The paths that a glob pattern names. A component without wildcards is taken as it stands; any
  other is compared with the names in the directory, in increasing order.
-/
import SnapshotLint.FileTree
import SnapshotLint.Glob.Pattern

namespace SnapshotLint.Glob

/-- The patterns of the components, with one `**` in the place of several in a row. -/
def mergeRecursive : List Pattern → List Pattern
  | [] => []
  | p :: ps =>
    match mergeRecursive ps with
    | q :: qs => if p.isRecursive && q.isRecursive then q :: qs else p :: q :: qs
    | [] => [p]

/-- The patterns of the components of an absolute path. An empty last component does not count. -/
def components? (pattern : String) : Option (List Pattern) := do
  let pieces := Text.segments '/' (String.ofList (pattern.toList.drop 1))
  let pieces := if pieces.getLast? == some "" then pieces.dropLast else pieces
  return mergeRecursive (← pieces.mapM Pattern.parse?)

/-- The entries of the directory itself and of its parent that a pattern stands for: it must begin
    with a dot. -/
def dotNames (p : Pattern) : List String :=
  if p.tokens.head? == some (.char '.') then ["..", "."].filter p.accepts else []

/-- Something that a directory holds. -/
structure Found where
  path : String
  name : String
  tree : FileTree

/-- What a directory holds, in order. -/
def children (path : String) : FileTree → List Found
  | .file _ => []
  | .directory entries => entries.map fun (name, t) => ⟨Path.join path name, name, t⟩

mutual
/-- All that a directory holds at any depth: each thing comes before what it holds itself. -/
def descendants (path : String) : FileTree → List Found
  | .file _ => []
  | .directory entries => descendantsOf path entries

/-- The same for a list of entries. -/
def descendantsOf (path : String) : List (String × FileTree) → List Found
  | [] => []
  | (name, t) :: rest =>
    ⟨Path.join path name, name, t⟩ :: descendants (Path.join path name) t ++
      descendantsOf path rest
end

/-- What a path leads to, if it exists. -/
def atPath (fs : FileSystem) (path name : String) : List Found :=
  ((fs.find? (Path.join path name)).map fun t => ⟨Path.join path name, name, t⟩).toList

/-- What one component other than `**` names in a directory. -/
def step (fs : FileSystem) (p : Pattern) (path : String) (t : FileTree) : List Found :=
  match p.literal? with
  | some name => atPath fs path name
  | none =>
    match t with
    | .file _ => []
    | .directory _ =>
      (dotNames p).flatMap (atPath fs path) ++ (children path t).filter (p.accepts ·.name)

/-- The paths that components name, starting from a path and what it leads to. After `**`, the next
    component is compared with everything below; at the end, `**` names the directories below. -/
def expand (fs : FileSystem) : List Pattern → (path : String) → FileTree → List String
  | [], path, _ => [path]
  | p :: ps, path, t =>
    if !p.isRecursive then (step fs p path t).flatMap fun f => expand fs ps f.path f.tree
    else match ps with
      | [] => ((descendants path t).filter (!·.tree.isFile)).map (·.path)
      | q :: qs =>
        ((descendants path t).filter (q.accepts ·.name)).flatMap fun f => expand fs qs f.path f.tree

/-- The paths that an absolute pattern names, unless it is no pattern. -/
def paths? (fs : FileSystem) (pattern : String) : Option (List String) := do
  let _ ← Pattern.parse? pattern
  return expand fs (← components? pattern) "/" fs.root

end SnapshotLint.Glob

/-
  File paths as texts, and their order. A path is compared component by component, so that
  repeated separators and `.` components count only at the beginning.

  Main equations: `Path.cmp` is `Component` order taken lexicographically, a shorter path first.
-/
import SnapshotLint.Text.Segment

namespace SnapshotLint

/-- One step of a path. -/
inductive Path.Component where
  /-- The leading separator of an absolute path. -/
  | root
  /-- A leading `.` of a relative path. -/
  | current
  /-- `..`. -/
  | parent
  /-- A file or directory name. -/
  | name (s : String)
deriving DecidableEq

namespace Path

namespace Component

/-- The kinds of components in increasing order. -/
def rank : Component → Nat
  | root => 0
  | current => 1
  | parent => 2
  | name _ => 3

/-- The text of a name, and nothing of another component. -/
def label : Component → String
  | name s => s
  | _ => ""

/-- The order of components: by kind, then names by their characters. -/
def cmp (a b : Component) : Ordering :=
  (compare a.rank b.rank).then (compare a.label b.label)

end Component

/-- Whether a path starts with a separator. -/
def isAbsolute (p : String) : Bool := p.toList.head? == some '/'

/-- The component that a piece between separators gives, if it counts. -/
def component? : List Char → Option Component
  | [] => none
  | ['.'] => none
  | ['.', '.'] => some .parent
  | cs => some (.name (String.ofList cs))

/-- The components of a path. -/
def components (p : String) : List Component :=
  let pieces := Text.pieces '/' p.toList
  let leading : List Component :=
    if isAbsolute p then [.root] else if pieces.head? == some ['.'] then [.current] else []
  leading ++ pieces.filterMap component?

/-- The lexicographic order of component lists. -/
def cmpList : List Component → List Component → Ordering
  | [], [] => .eq
  | [], _ :: _ => .lt
  | _ :: _, [] => .gt
  | a :: as, b :: bs => (a.cmp b).then (cmpList as bs)

/-- The order of paths. -/
def cmp (p q : String) : Ordering := cmpList (components p) (components q)

/-- A path continued by another; an absolute one replaces it. -/
def join (p q : String) : String :=
  if isAbsolute q then q
  else if p.isEmpty || p.toList.getLast? == some '/' then p ++ q
  else p ++ "/" ++ q

end Path

end SnapshotLint

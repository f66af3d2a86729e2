/-
  Overriding: declarations of one name in successive layers form a chain, the oldest first. Within
  one layer the last declaration of a name replaces the earlier ones.
-/
import SnapshotLint.Hierarchy

namespace SnapshotLint

/-- One declaration. -/
structure Declaration (α : Type) where
  item : α
  /-- Position of the layer that declares it. -/
  layer : Nat
  /-- How many declarations, of any name, came before. -/
  order : Nat
deriving DecidableEq

/-- A declaration among all those of its name. -/
structure Overridable (α : Type) where
  name : String
  /-- The declaration itself. -/
  this : Declaration α
  /-- What it overrides, the nearest first. -/
  older : List (Declaration α) := []
  /-- What overrides it, the nearest first. -/
  newer : List (Declaration α) := []
deriving DecidableEq

namespace Overridable

variable {α : Type}

/-- All declarations of the name, the oldest first. -/
def chain (o : Overridable α) : List (Declaration α) := o.older.reverse ++ o.this :: o.newer

/-- The item declared. -/
def item (o : Overridable α) : α := o.this.item

/-- The newest declaration of the name. -/
def nearest (o : Overridable α) : Declaration α := o.newer.getLastD o.this

/-- The items of the declaration and of what it overrides, the newest first. -/
def thisAndOverridden (o : Overridable α) : List α := o.item :: o.older.map (·.item)

/-- The items of what the declaration overrides, the newest first. -/
def justOverridden (o : Overridable α) : List α := o.older.map (·.item)

/-- The declaration that this one overrides directly. -/
def overridden? (o : Overridable α) : Option (Overridable α) :=
  match o.older with
  | [] => none
  | d :: ds => some { o with this := d, older := ds, newer := o.this :: o.newer }

/-- Whether the declaration overrides another. -/
def isOverride (o : Overridable α) : Bool := !o.older.isEmpty

/-- The chain after one more declaration: it takes the place of the newest one unless that one
    belongs to a lower layer. -/
def declare (o : Overridable α) (d : Declaration α) : Overridable α :=
  if d.layer ≤ o.this.layer then { o with this := d }
  else { o with this := d, older := o.this :: o.older }

end Overridable

/-- The newest declaration of each name, in the order in which the names first came up. -/
structure Collection (α : Type) where
  items : List (Overridable α) := []
  /-- How many declarations have been added. -/
  added : Nat := 0
deriving DecidableEq

namespace Collection

variable {α : Type}

instance : Inhabited (Collection α) := ⟨{}⟩

/-- The newest declaration of a name. -/
def get? (c : Collection α) (name : String) : Option (Overridable α) :=
  c.items.find? (·.name == name)

/-- Whether a name has been declared. -/
def contains (c : Collection α) (name : String) : Bool := c.items.any (·.name == name)

/-- The names, in the order in which they first came up. -/
def names (c : Collection α) : List String := c.items.map (·.name)

/-- How many names have been declared. -/
def size (c : Collection α) : Nat := c.items.length

/-- Whether no name has been declared. -/
def isEmpty (c : Collection α) : Bool := c.items.isEmpty

/-- The collection after a declaration in a layer. -/
def add (c : Collection α) (name : String) (layer : Nat) (item : α) : Collection α :=
  let d : Declaration α := ⟨item, layer, c.added⟩
  { items :=
      if c.contains name then
        c.items.map fun o => if o.name == name then o.declare d else o
      else c.items ++ [{ name, this := d }]
    added := c.added + 1 }

/-- The collection of a list of declarations, each with its name and layer. -/
def ofList (ds : List (String × Nat × α)) : Collection α :=
  ds.foldl (fun c d => c.add d.1 d.2.1 d.2.2) {}

/-- The newest declarations in the order in which they came up. -/
def sorted (c : Collection α) : List (Overridable α) :=
  c.items.mergeSort fun a b => a.this.order ≤ b.this.order

/-- The collection of what is selected from each layer, from the most basic one on. The token is
    polled before each layer and before each declaration. -/
def build (layers : List Layer) (select : Layer → Analysis (List (String × α))) :
    Analysis (Collection α) :=
  layers.foldlM (fun c layer => do
    Analysis.pollToken
    let selected ← select layer
    selected.foldlM (fun c s => do
      Analysis.pollToken
      return c.add s.1 layer.index s.2) c) {}

end Collection

end SnapshotLint

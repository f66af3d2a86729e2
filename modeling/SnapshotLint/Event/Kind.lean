/-
  The events that the framework raises.
-/

namespace SnapshotLint

/-- Whether an event concerns a record or one of its fields. -/
inductive EventCategory where
  | row
  | field
deriving DecidableEq, Inhabited

/-- The events. -/
inductive EventKind where
  | rowSelecting
  | rowSelected
  | rowInserting
  | rowInserted
  | rowUpdating
  | rowUpdated
  | rowDeleting
  | rowDeleted
  | rowPersisting
  | rowPersisted
  | fieldSelecting
  | fieldDefaulting
  | fieldVerifying
  | fieldUpdating
  | fieldUpdated
  | cacheAttached
  | commandPreparing
  | exceptionHandling
deriving DecidableEq, Inhabited

/-- How many underscores the name of a classic hook has. -/
def EventCategory.underscores : EventCategory → Nat
  | row => 1
  | field => 2

namespace EventKind

/-- All events, in the order of the catalog. -/
def all : List EventKind :=
  [rowSelecting, rowSelected, rowInserting, rowInserted, rowUpdating, rowUpdated, rowDeleting,
    rowDeleted, rowPersisting, rowPersisted, fieldSelecting, fieldDefaulting, fieldVerifying,
    fieldUpdating, fieldUpdated, cacheAttached, commandPreparing, exceptionHandling]

/-- The name of an event. -/
def name : EventKind → String
  | rowSelecting => "RowSelecting"
  | rowSelected => "RowSelected"
  | rowInserting => "RowInserting"
  | rowInserted => "RowInserted"
  | rowUpdating => "RowUpdating"
  | rowUpdated => "RowUpdated"
  | rowDeleting => "RowDeleting"
  | rowDeleted => "RowDeleted"
  | rowPersisting => "RowPersisting"
  | rowPersisted => "RowPersisted"
  | fieldSelecting => "FieldSelecting"
  | fieldDefaulting => "FieldDefaulting"
  | fieldVerifying => "FieldVerifying"
  | fieldUpdating => "FieldUpdating"
  | fieldUpdated => "FieldUpdated"
  | cacheAttached => "CacheAttached"
  | commandPreparing => "CommandPreparing"
  | exceptionHandling => "ExceptionHandling"

/-- The event with a name. -/
def ofName? (s : String) : Option EventKind := all.find? (·.name == s)

/-- The category of an event. -/
def category : EventKind → EventCategory
  | rowSelecting | rowSelected | rowInserting | rowInserted | rowUpdating | rowUpdated
  | rowDeleting | rowDeleted | rowPersisting | rowPersisted => .row
  | fieldSelecting | fieldDefaulting | fieldVerifying | fieldUpdating | fieldUpdated
  | cacheAttached | commandPreparing | exceptionHandling => .field

theorem mem_all (k : EventKind) : k ∈ all := by cases k <;> decide

theorem ofName?_name (k : EventKind) : ofName? k.name = some k := by cases k <;> decide

end EventKind

end SnapshotLint

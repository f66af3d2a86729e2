/-
  Symbols: types, their members, and the attributes applied to them, as a front end describes them.
-/
import SnapshotLint.Location
import SnapshotLint.Text.Segment

namespace SnapshotLint

/-- A reference to a type by name, with type arguments if it is generic. -/
structure TypeRef where
  /-- The name; dots separate a nested type from the types around it. -/
  name : String
  args : List TypeRef := []
deriving Inhabited

namespace TypeRef

mutual
/-- Whether two references agree in every name. -/
def decEq : (a b : TypeRef) → Decidable (a = b)
  | ⟨n, as⟩, ⟨m, bs⟩ =>
    match decEqList as bs with
    | isTrue h => if hn : n = m then isTrue (by rw [h, hn]) else isFalse (by simp [hn])
    | isFalse h => isFalse (by simp [h])

/-- Whether two lists of references agree. -/
def decEqList : (as bs : List TypeRef) → Decidable (as = bs)
  | [], [] => isTrue rfl
  | [], _ :: _ => isFalse (by simp)
  | _ :: _, [] => isFalse (by simp)
  | a :: as, b :: bs =>
    match decEq a b, decEqList as bs with
    | isTrue ha, isTrue has => isTrue (by rw [ha, has])
    | isFalse ha, _ => isFalse (by simp [ha])
    | _, isFalse has => isFalse (by simp [has])
end

instance : DecidableEq TypeRef := decEq

/-- The last dotted part of the name. -/
def simpleName (t : TypeRef) : String := Text.simpleName t.name

/-- The name without its last dotted part. -/
def containingName (t : TypeRef) : Option String := Text.containingName t.name

end TypeRef

/-- The kinds of members. -/
inductive MemberKind where
  | method
  | property
  | field
  | constructor
  | staticConstructor
  | nestedType
deriving DecidableEq, Inhabited

/-- A parameter of a method. -/
structure Parameter where
  name : String
  type : TypeRef
deriving DecidableEq, Inhabited

/-- A constant given to an attribute. -/
inductive AttributeValue where
  | bool (b : Bool)
  | int (n : Int64)
  | str (s : String)
deriving DecidableEq, Inhabited

/-- An attribute applied to a type or a member. -/
structure Attribute where
  /-- Name of the attribute's type. -/
  typeName : String
  /-- Arguments by position. -/
  args : List AttributeValue := []
  /-- Arguments by name. -/
  named : OrderedMap AttributeValue := .empty
  location : Option Location := none
deriving DecidableEq, Inhabited

/-- A member of a type. -/
structure Member where
  name : String
  kind : MemberKind
  isStatic : Bool := false
  isOverride : Bool := false
  /-- The declared type, or the type a method returns. -/
  type : Option TypeRef := none
  parameters : List Parameter := []
  attributes : List Attribute := []
  location : Option Location := none
deriving DecidableEq, Inhabited

/-- A registration of a handler that runs when an instance of a graph has been created. -/
structure InitDelegate where
  /-- Name of the graph. -/
  graph : String
  /-- Name of the handler. -/
  delegate : String
  location : Option Location := none
deriving DecidableEq, Inhabited

/-- A type declaration. -/
structure TypeSymbol where
  name : String
  base : Option TypeRef := none
  interfaces : List TypeRef := []
  attributes : List Attribute := []
  /-- The members in the order of their declarations. -/
  members : List Member := []
  initDelegates : List InitDelegate := []
  location : Option Location := none
deriving DecidableEq, Inhabited

namespace MemberKind

/-- All kinds. -/
def all : List MemberKind :=
  [method, property, field, constructor, staticConstructor, nestedType]

/-- The written name of a kind. -/
def name : MemberKind → String
  | method => "method"
  | property => "property"
  | field => "field"
  | constructor => "constructor"
  | staticConstructor => "static_constructor"
  | nestedType => "nested_type"

/-- The kind with a written name. -/
def ofName? (s : String) : Option MemberKind := all.find? (·.name == s)

theorem ofName?_name (k : MemberKind) : ofName? k.name = some k := by cases k <;> rfl

end MemberKind

namespace TypeSymbol

/-- The members of one kind. -/
def membersOfKind (t : TypeSymbol) (k : MemberKind) : List Member :=
  t.members.filter (·.kind = k)

end TypeSymbol

end SnapshotLint

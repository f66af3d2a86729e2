/-
  JSON values as they are written: the fields of an object keep their order and their repetitions,
  an integer literal is told apart from any other number, and a string literal whose escapes name
  half of a surrogate pair denotes no text.
-/

namespace SnapshotLint

/-- The text of a string literal, if it denotes one. -/
abbrev Json.Literal := Option String

/-- A JSON value. -/
inductive Json where
  /-- The literal `null`. -/
  | null
  /-- A truth value. -/
  | bool (b : Bool)
  /-- A number written as an integer; `-0` is not one. -/
  | int (n : Int)
  /-- Any other number, as written. -/
  | decimal (lexeme : String)
  /-- A string literal. -/
  | str (literal : Json.Literal)
  /-- An array. -/
  | arr (items : List Json)
  /-- An object, its fields as written. -/
  | obj (fields : List (Json.Literal × Json))
deriving Inhabited

namespace Json

/-- A text as a value. -/
def text (s : String) : Json := .str (some s)

/-- A natural number as a value. -/
def nat (n : Nat) : Json := .int n

/-- An object with the given names. -/
def record (fields : List (String × Json)) : Json :=
  .obj (fields.map fun f => (some f.1, f.2))

/-- A value, or `null` where there is none. -/
def ofOption {α : Type} (f : α → Json) : Option α → Json
  | none => .null
  | some a => f a

/-- A list of values. -/
def list {α : Type} (f : α → Json) (xs : List α) : Json := .arr (xs.map f)

mutual
/-- How many arrays and objects stand inside one another at most. -/
def depth : Json → Nat
  | .arr items => depthItems items + 1
  | .obj fields => depthFields fields + 1
  | _ => 0

/-- The greatest depth in a list of values. -/
def depthItems : List Json → Nat
  | [] => 0
  | j :: js => max (depth j) (depthItems js)

/-- The greatest depth in a list of fields. -/
def depthFields : List (Literal × Json) → Nat
  | [] => 0
  | (_, j) :: fs => max (depth j) (depthFields fs)
end

end Json

end SnapshotLint

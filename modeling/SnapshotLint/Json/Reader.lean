/-
  Reading JSON texts. The open arrays and objects stand on a stack, so that the nesting of a text
  is limited by nothing but its length.
-/
import SnapshotLint.Json.Token

namespace SnapshotLint.Json

/-- An open array or object, with what it holds so far in reverse. -/
inductive Frame where
  | array (items : List Json)
  | object (fields : List (Literal × Json)) (name : Literal)

/-- What may come next. -/
inductive Expected where
  /-- A value. -/
  | value
  /-- A value or the end of the array. -/
  | firstItem
  /-- The name of a field of the object with the given fields. -/
  | name (fields : List (Literal × Json))
  /-- The name of a field, or the end of the object. -/
  | firstName
  /-- A colon after a name. -/
  | colon (fields : List (Literal × Json)) (name : Literal)
  /-- A comma or the end of the innermost array or object, which the value belongs to. -/
  | separator (value : Json)

/-- The reader of a token list. -/
structure Builder where
  stack : List Frame := []
  expected : Expected := .value

namespace Builder

/-- The value of an array or object that ends. -/
def close : Frame → Json → Json
  | .array items, v => .arr (v :: items).reverse
  | .object fields name, v => .obj ((name, v) :: fields).reverse

/-- A token where a value may stand. -/
def value (b : Builder) : Token → Option Builder
  | .scalar v => some { b with expected := .separator v }
  | .string s => some { b with expected := .separator (.str s) }
  | .openBracket => some { b with expected := .firstItem }
  | .openBrace => some { b with expected := .firstName }
  | _ => none

/-- One token. An array is put on the stack when its first item begins, an object for each value
    of it. -/
def step (b : Builder) (t : Token) : Option Builder :=
  match b.expected, t with
  | .value, t => b.value t
  | .firstItem, .closeBracket => some { b with expected := .separator (.arr []) }
  | .firstItem, t => { b with stack := .array [] :: b.stack }.value t
  | .firstName, .closeBrace => some { b with expected := .separator (.obj []) }
  | .firstName, .string s => some { b with expected := .colon [] s }
  | .name fields, .string s => some { b with expected := .colon fields s }
  | .colon fields name, .colon =>
    some ⟨.object fields name :: b.stack, .value⟩
  | .separator v, t =>
    match b.stack, t with
    | .array items :: stack, .comma => some ⟨.array (v :: items) :: stack, .value⟩
    | .object fields name :: stack, .comma => some ⟨stack, .name ((name, v) :: fields)⟩
    | .array items :: stack, .closeBracket => some ⟨stack, .separator (close (.array items) v)⟩
    | .object fields name :: stack, .closeBrace =>
      some ⟨stack, .separator (close (.object fields name) v)⟩
    | _, _ => none
  | _, _ => none

/-- The value read, once the tokens have ended. -/
def finish (b : Builder) : Option Json :=
  match b.stack, b.expected with
  | [], .separator v => some v
  | _, _ => none

end Builder

/-- The value that a text denotes, if it is JSON. -/
def parse? (s : String) : Option Json := do
  let ts ← tokens? s
  (← ts.foldlM Builder.step {}).finish

end SnapshotLint.Json

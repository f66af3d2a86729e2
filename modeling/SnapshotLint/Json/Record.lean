/-
  Reading data out of JSON values. A record is given as an object, whose unknown fields do not
  count, or as an array of its fields in their order. Every array and object on the way to a datum
  uses up one level of the nesting that the caller allows.
-/
import SnapshotLint.Json.Value
import SnapshotLint.OrderedMap

namespace SnapshotLint.Json

/-- Why a value does not fit a type. -/
inductive DecodeError where
  /-- The value is of another kind. -/
  | mismatch (expected : String)
  /-- A field without a default is missing. -/
  | missing (field : String)
  /-- A field is given twice. -/
  | repeated (field : String)
  /-- An array holds more than the record has fields. -/
  | surplus
  /-- A number lies outside the range of its type. -/
  | outOfRange
  /-- Arrays and objects are nested too deeply. -/
  | tooDeep
deriving DecidableEq

/-- The outcome of reading a datum. -/
abbrev Decoded (α : Type) := Except DecodeError α

/-- A reader of data; the number is how many levels of arrays and objects it may enter. -/
abbrev Decoder (α : Type) := Nat → Json → Decoded α

/-- The levels left inside an array or object. -/
def enter : Nat → Decoded Nat
  | 0 => .error .tooDeep
  | levels + 1 => .ok levels

/-- Reads a text. -/
def decodeText : Json → Decoded String
  | .str (some s) => .ok s
  | _ => .error (.mismatch "string")

/-- Reads a truth value. -/
def decodeBool : Json → Decoded Bool
  | .bool b => .ok b
  | _ => .error (.mismatch "boolean")

/-- Reads a natural number below `2 ^ 64`. -/
def decodeUInt64 : Json → Decoded UInt64
  | .int n =>
    if 0 ≤ n ∧ n.toNat < UInt64.size then .ok (UInt64.ofNat n.toNat) else .error .outOfRange
  | _ => .error (.mismatch "unsigned integer")

/-- Reads an integer from `-2 ^ 63` to below `2 ^ 63`. -/
def decodeInt64 : Json → Decoded Int64
  | .int n =>
    if Int64.minValue.toInt ≤ n ∧ n ≤ Int64.maxValue.toInt then .ok (Int64.ofInt n)
    else .error .outOfRange
  | _ => .error (.mismatch "integer")

/-- Reads a list. -/
def decodeList {α : Type} (item : Json → Decoded α) : Json → Decoded (List α)
  | .arr items => items.mapM item
  | _ => .error (.mismatch "array")

/-- Reads a map; of two entries with one name the later counts. -/
def decodeMap {α : Type} (item : Json → Decoded α) : Json → Decoded (OrderedMap α)
  | .obj fields => do
    let entries ← fields.mapM fun f => do
      let some name := f.1 | throw (.mismatch "string")
      return (name, ← item f.2)
    return OrderedMap.ofList entries
  | _ => .error (.mismatch "object")

/-- Reads one of several names: the name alone, or an object that gives it the value `null`. -/
def decodeName {α : Type} (ofName? : String → Option α) : Json → Decoded α
  | .str (some s) => named s
  | .obj [(some s, .null)] => named s
  | _ => .error (.mismatch "name")
where
  /-- The value of a name. -/
  named (s : String) : Decoded α :=
    match ofName? s with
    | some a => .ok a
    | none => .error (.mismatch "name")

/-- Reads a value that may be `null`. -/
def decodeNullable {α : Type} (item : Json → Decoded α) : Json → Decoded (Option α)
  | .null => .ok none
  | j => some <$> item j

/-- The known fields of a record. -/
structure Record where
  /-- Each field that is given, once. -/
  fields : List (String × Json)
  /-- Whether the record was given as an array. -/
  positional : Bool

namespace Record

/-- The fields of an object that belong to a record, each at most once. -/
def collect (names : List String) : List (Literal × Json) → Decoded (List (String × Json))
  | [] => .ok []
  | (none, _) :: _ => .error (.mismatch "string")
  | (some name, j) :: rest => do
    let others ← collect names rest
    if !names.contains name then return others
    else if others.any (·.1 == name) then throw (.repeated name)
    else return (name, j) :: others

/-- The record with the given field names that a value gives. -/
def ofJson (names : List String) : Json → Decoded Record
  | .obj fields => do return ⟨← collect names fields, false⟩
  | .arr items =>
    if items.length ≤ names.length then .ok ⟨names.zip items, true⟩ else .error .surplus
  | _ => .error (.mismatch "record")

/-- The value of a field. -/
def find? (r : Record) (name : String) : Option Json :=
  (r.fields.find? (·.1 == name)).map (·.2)

/-- A field that must be given. -/
def required {α : Type} (r : Record) (name : String) (item : Json → Decoded α) : Decoded α :=
  match r.find? name with
  | some j => item j
  | none => .error (.missing name)

/-- A field that has a default. -/
def orElse {α : Type} (r : Record) (name : String) (item : Json → Decoded α) (default : α) :
    Decoded α :=
  match r.find? name with
  | some j => item j
  | none => .ok default

/-- A field that may be missing or `null`. -/
def optional {α : Type} (r : Record) (name : String) (item : Json → Decoded α) :
    Decoded (Option α) :=
  r.orElse name (decodeNullable item) none

/-- A field that may be `null`, and may be missing from an object but not from an array. -/
def nullable {α : Type} (r : Record) (name : String) (item : Json → Decoded α) :
    Decoded (Option α) :=
  if r.positional then r.required name (decodeNullable item) else r.optional name item

end Record

end SnapshotLint.Json

/-
  TOML values.
-/
import SnapshotLint.Decimal.Binary64
import SnapshotLint.Toml.Datetime

namespace SnapshotLint.Toml

/-- A value. The entries of a table have distinct names and keep their order. -/
inductive Value where
  | str (s : String)
  | int (n : Int64)
  | float (x : Binary64)
  | bool (b : Bool)
  | datetime (d : Datetime)
  | arr (items : List Value)
  | table (entries : List (String × Value))
deriving Inhabited

namespace Value

/-- The name under which a moment is seen by a reader that asks for a table. -/
def datetimeField : String := "$__toml_private_datetime"

/-- The entries of a table; a moment is taken for a table with its text as the only entry. -/
def entries? : Value → Option (List (String × Value))
  | table entries => some entries
  | datetime d => some [(datetimeField, str d.render)]
  | _ => none

/-- The text, if the value is one. -/
def text? : Value → Option String
  | str s => some s
  | _ => none

/-- The truth value, if the value is one. -/
def bool? : Value → Option Bool
  | bool b => some b
  | _ => none

/-- The integer, if the value is one. -/
def int? : Value → Option Int64
  | int n => some n
  | _ => none

/-- The items, if the value is an array. -/
def items? : Value → Option (List Value)
  | arr items => some items
  | _ => none

/-- The texts, if the value is an array of texts. -/
def texts? (v : Value) : Option (List String) := v.items? >>= List.mapM text?

end Value

end SnapshotLint.Toml

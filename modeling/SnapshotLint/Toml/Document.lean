/-
  TOML documents. Tables are opened by headers, by dotted keys, or on the way to either; the marks
  on a table tell how it came about, and so what may still be added to it.
-/
import SnapshotLint.Toml.Scalar

namespace SnapshotLint.Toml

mutual
/-- What stands under a name while a document is read. -/
inductive Item where
  | value (v : Value)
  | table (t : Table)
  /-- The tables of a repeated header. -/
  | tables (ts : List Table)

/-- A table under construction. -/
inductive Table where
  /-- `implicit`: no header has named it. `dotted`: a dotted key has opened it. -/
  | mk (entries : List (String × Item)) (implicit dotted : Bool)
end

namespace Table

/-- The entries of a table. -/
def entries : Table → List (String × Item)
  | mk entries _ _ => entries

/-- Whether no header has named the table. -/
def implicit : Table → Bool
  | mk _ implicit _ => implicit

/-- Whether a dotted key has opened the table. -/
def dotted : Table → Bool
  | mk _ _ dotted => dotted

/-- A table that a header has named, without entries. -/
def empty : Table := mk [] false false

instance : Inhabited Table := ⟨empty⟩

/-- What stands under a name. -/
def find? (t : Table) (name : String) : Option Item :=
  (t.entries.find? (·.1 == name)).map (·.2)

/-- The table with an item under a name, in the place of the one there was. -/
def set (t : Table) (name : String) (item : Item) : Table :=
  match t.find? name with
  | none => mk (t.entries ++ [(name, item)]) t.implicit t.dotted
  | some _ =>
    mk (t.entries.map fun e => if e.1 == name then (name, item) else e) t.implicit t.dotted

/-- The table with a change made to the one at the end of a path. Tables on the way are opened; a
    dotted key cannot enter a table that a header has named. -/
def modify (dotted : Bool) (change : Table → Option Table) : List String → Table → Option Table
  | [], t => change t
  | name :: path, t => do
    match t.find? name with
    | none =>
      let inner ← modify dotted change path (mk [] true dotted)
      return t.set name (.table inner)
    | some (.value _) => none
    | some (.table inner) =>
      if dotted && !inner.implicit then none
      else return t.set name (.table (← modify dotted change path inner))
    | some (.tables ts) =>
      let last ← modify dotted change path (← ts.getLast?)
      return t.set name (.tables (ts.dropLast ++ [last]))

/-- The table with a value under a dotted key. -/
def assign (key : List String × String) (v : Value) (t : Table) : Option Table :=
  modify true (fun inner =>
    if !key.1.isEmpty && !inner.dotted then none
    else match inner.find? key.2 with
      | some _ => none
      | none => some (inner.set key.2 (.value v))) key.1 t

/-- The table after a header: a table that was only on the way to others is now named. -/
def openTable (key : List String × String) (t : Table) : Option Table :=
  modify false (fun parent =>
    match parent.find? key.2 with
    | none => some (parent.set key.2 (.table empty))
    | some (.table (mk entries true false)) =>
      some (parent.set key.2 (.table (mk entries false false)))
    | some _ => none) key.1 t

/-- The table after a repeated header: one more table in the list. -/
def openTables (key : List String × String) (t : Table) : Option Table :=
  modify false (fun parent =>
    match parent.find? key.2 with
    | none => some (parent.set key.2 (.tables [empty]))
    | some (.tables ts) => some (parent.set key.2 (.tables (ts ++ [empty])))
    | some _ => none) key.1 t

mutual
/-- A finished item as a value. -/
def itemValue : Item → Value
  | .value v => v
  | .table t => toValue t
  | .tables ts => .arr (tableValues ts)

/-- A finished table as a value. -/
def toValue : Table → Value
  | mk entries _ _ => .table (entryValues entries)

/-- Finished tables as values. -/
def tableValues : List Table → List Value
  | [] => []
  | t :: ts => toValue t :: tableValues ts

/-- Finished entries with their values. -/
def entryValues : List (String × Item) → List (String × Value)
  | [] => []
  | (name, item) :: rest => (name, itemValue item) :: entryValues rest
end

end Table

/-! ## Values -/

mutual
/-- A value; the depth says how many arrays and inline tables it stands in. -/
def value : (fuel : Nat) → (depth : Nat) → Reader Value
  | 0, _, _ => none
  | fuel + 1, depth, cs =>
    match cs with
    | [] => none
    | c :: rest =>
      if c = '"' ∨ c = '\'' then (string? cs).map fun (s, rest) => (.str s, rest)
      else if c = '[' then
        if nestingLimit ≤ depth + 1 then none
        else (items fuel (depth + 1) [] rest).map fun (vs, rest) => (.arr vs, rest)
      else if c = '\x7b' then
        if nestingLimit ≤ depth + 1 then none
        else match skipBlanks rest with
          | '\x7d' :: rest => some (.table [], rest)
          | rest => (pairs fuel (depth + 1) .empty rest).map fun (t, rest) => (t.toValue, rest)
      else
        match Datetime.read? cs with
        | some (d, rest) => some (.datetime d, rest)
        | none =>
          let run := cs.takeWhile isNumberChar
          let rest := cs.dropWhile isNumberChar
          if run = ['t', 'r', 'u', 'e'] then some (.bool true, rest)
          else if run = ['f', 'a', 'l', 's', 'e'] then some (.bool false, rest)
          else (number? run).map fun v => (v, rest)

/-- The rest of an array; what was read stands in reverse. -/
def items : (fuel : Nat) → (depth : Nat) → (read : List Value) → Reader (List Value)
  | 0, _, _, _ => none
  | fuel + 1, depth, read, cs =>
    match skipLines (cs.length + 1) cs with
    | ']' :: rest => some (read.reverse, rest)
    | cs => do
      let (v, rest) ← value fuel depth cs
      match skipLines (rest.length + 1) rest with
      | ',' :: rest => items fuel depth (v :: read) rest
      | ']' :: rest => return ((v :: read).reverse, rest)
      | _ => none

/-- The rest of an inline table, from a key on. -/
def pairs : (fuel : Nat) → (depth : Nat) → (t : Table) → Reader Table
  | 0, _, _, _ => none
  | fuel + 1, depth, t, cs => do
    let (key, rest) ← key? cs
    let rest ← after? '=' rest
    let (v, rest) ← value fuel depth (skipBlanks rest)
    let t ← t.assign key v
    match skipBlanks rest with
    | ',' :: rest => pairs fuel depth t rest
    | '\x7d' :: rest => return (t, rest)
    | _ => none
end

/-- A value at the beginning of a text. -/
def value? (cs : List Char) : Option (Value × List Char) := value (2 * cs.length + 2) 0 cs

/-! ## Documents -/

/-- A document being read: the outermost table and the path of the one that keys go into. -/
structure Document where
  root : Table := .empty
  path : List String := []

namespace Document

/-- One header, repeated header or entry, with the rest of its line. -/
def statement (d : Document) (cs : List Char) : Option (Document × List Char) :=
  match cs with
  | '[' :: '[' :: cs => do
    let (key, cs) ← key? cs
    let cs ← after? ']' cs >>= after? ']'
    return (⟨← d.root.openTables key, key.1 ++ [key.2]⟩, ← lineEnd? cs)
  | '[' :: cs => do
    let (key, cs) ← key? cs
    let cs ← after? ']' cs
    return (⟨← d.root.openTable key, key.1 ++ [key.2]⟩, ← lineEnd? cs)
  | cs => do
    let (key, cs) ← key? cs
    let cs ← after? '=' cs
    let (v, cs) ← value? (skipBlanks cs)
    return ({ d with root := ← d.root.modify false (·.assign key v) d.path }, ← lineEnd? cs)

/-- The lines of a document. -/
def lines : (fuel : Nat) → Document → List Char → Option Document
  | 0, _, _ => none
  | fuel + 1, d, cs =>
    match skipLines (cs.length + 1) cs with
    | [] => some d
    | cs => do
      let (d, cs) ← d.statement cs
      lines fuel d cs

end Document

/-- The outermost table of a text, if it is TOML; a byte order mark in front does not count. -/
def parse? (s : String) : Option (List (String × Value)) := do
  let cs := match s.toList with
    | '\ufeff' :: cs => cs
    | cs => cs
  let d ← Document.lines (cs.length + 1) {} cs
  return Table.entryValues d.root.entries

end SnapshotLint.Toml

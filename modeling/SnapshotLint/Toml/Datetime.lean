/-
  Dates and times of day, alone or together, with or without an offset.
-/
import SnapshotLint.Json.Token

namespace SnapshotLint.Toml

/-- What follows a given character. -/
def after? (c : Char) : List Char → Option (List Char)
  | [] => none
  | d :: cs => if c = d then some cs else none

/-- A day. -/
structure Date where
  year : Nat
  month : Nat
  day : Nat
deriving DecidableEq

/-- A time of day. -/
structure Time where
  hour : Nat
  minute : Nat
  second : Nat
  nanosecond : Nat
deriving DecidableEq

/-- An offset from universal time. -/
inductive Offset where
  | utc
  | minutes (n : Int)
deriving DecidableEq

/-- A moment, as far as it is given. -/
inductive Datetime where
  | date (d : Date)
  | time (t : Time)
  | local (d : Date) (t : Time)
  | zoned (d : Date) (t : Time) (o : Offset)
deriving DecidableEq

/-- A number with zeros in front up to a width. -/
def padded (width n : Nat) : String :=
  let digits := Nat.toDigits 10 n
  String.ofList (List.replicate (width - digits.length) '0' ++ digits)

namespace Date

/-- A day as text. -/
def render (d : Date) : String :=
  padded 4 d.year ++ "-" ++ padded 2 d.month ++ "-" ++ padded 2 d.day

/-- How many days a month has. -/
def daysInMonth (year month : Nat) : Nat :=
  if month = 2 then
    if year % 4 = 0 ∧ (year % 100 ≠ 0 ∨ year % 400 = 0) then 29 else 28
  else if month = 4 ∨ month = 6 ∨ month = 9 ∨ month = 11 then 30
  else 31

end Date

/-- A time of day as text; the part of a second loses the zeros at its end. -/
def Time.render (t : Time) : String :=
  padded 2 t.hour ++ ":" ++ padded 2 t.minute ++ ":" ++ padded 2 t.second ++
    (if t.nanosecond = 0 then ""
     else
      let digits := (padded 9 t.nanosecond).toList
      "." ++ String.ofList (digits.reverse.dropWhile (· == '0')).reverse)

/-- An offset as text. -/
def Offset.render : Offset → String
  | utc => "Z"
  | minutes n =>
    (if n < 0 then "-" else "+") ++ padded 2 (n.natAbs / 60) ++ ":" ++ padded 2 (n.natAbs % 60)

namespace Datetime

/-- A moment as text. -/
def render : Datetime → String
  | date d => d.render
  | time t => t.render
  | «local» d t => d.render ++ "T" ++ t.render
  | zoned d t o => d.render ++ "T" ++ t.render ++ o.render

/-- A number of exactly the given count of digits, within bounds. -/
def digits? (count low high : Nat) (cs : List Char) : Option (Nat × List Char) :=
  let ds := cs.take count
  if ds.length = count ∧ ds.all Char.isDigit then
    let n := Json.digitsValue ds
    if low ≤ n ∧ n ≤ high then some (n, cs.drop count) else none
  else none

/-- A day at the beginning of a text. -/
def date? (cs : List Char) : Option (Date × List Char) := do
  let (year, cs) ← digits? 4 0 9999 cs
  let cs ← after? '-' cs
  let (month, cs) ← digits? 2 1 12 cs
  let cs ← after? '-' cs
  let (day, cs) ← digits? 2 1 (Date.daysInMonth year month) cs
  return (⟨year, month, day⟩, cs)

/-- A part of a second in billionths; further digits do not count. -/
def fraction? (cs : List Char) : Option (Nat × List Char) :=
  match after? '.' cs with
  | none => some (0, cs)
  | some rest =>
    let ds := rest.takeWhile Char.isDigit
    if ds.isEmpty then none
    else
      let nine := ds.take 9 ++ List.replicate (9 - ds.length) '0'
      some (Json.digitsValue nine, rest.dropWhile Char.isDigit)

/-- A time of day at the beginning of a text. -/
def time? (cs : List Char) : Option (Time × List Char) := do
  let (hour, cs) ← digits? 2 0 23 cs
  let cs ← after? ':' cs
  let (minute, cs) ← digits? 2 0 59 cs
  let cs ← after? ':' cs
  let (second, cs) ← digits? 2 0 60 cs
  let (nanosecond, cs) ← fraction? cs
  return (⟨hour, minute, second, nanosecond⟩, cs)

/-- An offset at the beginning of a text. -/
def offset? (cs : List Char) : Option (Offset × List Char) :=
  match cs with
  | 'Z' :: cs | 'z' :: cs => some (.utc, cs)
  | '+' :: cs => signed 1 cs
  | '-' :: cs => signed (-1) cs
  | _ => none
where
  /-- Hours and minutes with a sign. -/
  signed (sign : Int) (cs : List Char) : Option (Offset × List Char) := do
    let (hour, cs) ← digits? 2 0 23 cs
    let cs ← after? ':' cs
    let (minute, cs) ← digits? 2 0 59 cs
    return (.minutes (sign * (hour * 60 + minute)), cs)

/-- The time that may follow a day: after a `T` or one blank. -/
def timeAfterDate? : List Char → Option (Time × List Char)
  | 'T' :: cs | 't' :: cs | ' ' :: cs => time? cs
  | _ => none

/-- A moment at the beginning of a text. -/
def read? (cs : List Char) : Option (Datetime × List Char) :=
  match date? cs with
  | some (d, rest) =>
    match timeAfterDate? rest with
    | some (t, rest) =>
      match offset? rest with
      | some (o, rest) => some (zoned d t o, rest)
      | none => some («local» d t, rest)
    | none => some (date d, rest)
  | none => (time? cs).map fun (t, rest) => (time t, rest)

end Datetime

end SnapshotLint.Toml

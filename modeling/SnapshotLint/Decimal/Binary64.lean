/-
  Double precision numbers in exact arithmetic: the double nearest to a decimal, and the shortest
  decimal that denotes a double. A finite double is `m * 2 ^ e` with `m` below `2 ^ 53` and `e` at
  least `-1074`; the significand is as large as that allows.
-/

namespace SnapshotLint

/-- A double precision number. -/
inductive Binary64 where
  | nan
  | infinite (negative : Bool)
  /-- The number `significand * 2 ^ exponent`, with a sign. -/
  | finite (negative : Bool) (significand : Nat) (exponent : Int)
deriving DecidableEq, Inhabited

/-- A positive fraction or zero. -/
structure Fraction where
  num : Nat
  den : Nat

namespace Fraction

/-- `n * b ^ k` for a positive base. -/
def scaled (n b : Nat) (k : Int) : Fraction :=
  if 0 ≤ k then ⟨n * Nat.pow b k.toNat, 1⟩ else ⟨n, Nat.pow b (-k).toNat⟩

/-- The quotient by a power of a base. -/
def divPow (f : Fraction) (b : Nat) (k : Int) : Fraction :=
  if 0 ≤ k then ⟨f.num, f.den * Nat.pow b k.toNat⟩ else ⟨f.num * Nat.pow b (-k).toNat, f.den⟩

/-- The whole part. -/
def floor (f : Fraction) : Nat := f.num / f.den

/-- The nearest natural number; of two that are equally near, the even one. -/
def roundEven (f : Fraction) : Nat :=
  let q := f.num / f.den
  let twice := 2 * (f.num % f.den)
  if twice < f.den then q
  else if f.den < twice then q + 1
  else if q % 2 = 0 then q else q + 1

/-- Whether a fraction is less than another. -/
def lt (f g : Fraction) : Bool := f.num * g.den < g.num * f.den

/-- Whether a fraction is less than another or equal to it. -/
def le (f g : Fraction) : Bool := f.num * g.den ≤ g.num * f.den

/-- How far two fractions are apart. -/
def distance (f g : Fraction) : Fraction :=
  let a := f.num * g.den
  let b := g.num * f.den
  ⟨(a - b) + (b - a), f.den * g.den⟩

end Fraction

namespace Binary64

/-- The exponent of the smallest positive double. -/
def minExponent : Int := -1074

/-- The greatest exponent of a finite double. -/
def maxExponent : Int := 971

/-- The least significand with all its digits, `2 ^ 52`. -/
def leastSignificand : Nat := 0x10000000000000

/-- The double nearest to a positive fraction. -/
def ofFraction (negative : Bool) (f : Fraction) : Binary64 :=
  let guess : Int := (f.num.log2 : Int) - (f.den.log2 : Int) - 52
  let above := if (f.divPow 2 guess).floor < leastSignificand then guess - 1 else guess
  let exact := if 2 * leastSignificand ≤ (f.divPow 2 above).floor then above + 1 else above
  let e := max exact minExponent
  let m := (f.divPow 2 e).roundEven
  let (m, e) := if m = 2 * leastSignificand then (leastSignificand, e + 1) else (m, e)
  if maxExponent < e then infinite negative else finite negative m e

/-- How many decimal digits a number has. -/
def digitCount (n : Nat) : Nat := (Nat.toDigits 10 n).length

/-- The double nearest to `digits * 10 ^ exponent`. -/
def ofDecimal (negative : Bool) (digits : Nat) (exponent : Int) : Binary64 :=
  if digits = 0 then finite negative 0 0
  else
    let magnitude := (digitCount digits : Int) + exponent
    if 310 < magnitude then infinite negative
    else if magnitude < -330 then finite negative 0 0
    else ofFraction negative (.scaled digits 10 exponent)

/-- A decimal `digits * 10 ^ exponent`. -/
structure Decimal where
  digits : Nat
  exponent : Int

/-- The real numbers that round to a double: those between two bounds, which belong to them if the
    significand is even. -/
structure Neighbourhood where
  value : Fraction
  lower : Fraction
  upper : Fraction
  closed : Bool

/-- The neighbourhood of `m * 2 ^ e`. -/
def neighbourhood (m : Nat) (e : Int) : Neighbourhood where
  value := .scaled (4 * m) 2 (e - 2)
  lower := .scaled (4 * m - (if m = leastSignificand ∧ minExponent < e then 1 else 2)) 2 (e - 2)
  upper := .scaled (4 * m + 2) 2 (e - 2)
  closed := m % 2 = 0

/-- Whether a fraction lies in a neighbourhood. -/
def Neighbourhood.holds (n : Neighbourhood) (f : Fraction) : Bool :=
  if n.closed then n.lower.le f && f.le n.upper else n.lower.lt f && f.lt n.upper

/-- The power of ten just above a positive fraction, found from below. -/
def magnitudeFrom (f : Fraction) : Nat → Int → Int
  | 0, k => k
  | fuel + 1, k => if f.lt (.scaled 1 10 k) then k else magnitudeFrom f fuel (k + 1)

/-- The decimal with at most `count` digits that lies in a neighbourhood: of two the nearer to its
    value, and the greater if both are equally near. -/
def candidate? (n : Neighbourhood) (magnitude : Int) (count : Nat) : Option Decimal :=
  let k := magnitude - count
  let below := (n.value.divPow 10 k).floor
  let low := Fraction.scaled below 10 k
  let high := Fraction.scaled (below + 1) 10 k
  match n.holds low, n.holds high with
  | true, true =>
    if (n.value.distance low).lt (n.value.distance high) then some ⟨below, k⟩
    else some ⟨below + 1, k⟩
  | true, false => some ⟨below, k⟩
  | false, true => some ⟨below + 1, k⟩
  | false, false => none

/-- A decimal without zeros at its end. -/
def dropZeros : Nat → Decimal → Decimal
  | 0, d => d
  | fuel + 1, d =>
    if d.digits ≠ 0 ∧ d.digits % 10 = 0 then dropZeros fuel ⟨d.digits / 10, d.exponent + 1⟩ else d

/-- The shortest decimal that denotes `m * 2 ^ e`; seventeen digits always suffice. -/
def shortest (m : Nat) (e : Int) : Decimal :=
  let n := neighbourhood m e
  let start : Int := (((m.log2 : Int) + e) * 30103) / 100000 - 1
  let magnitude := magnitudeFrom n.value 5 start
  match (List.range 17).findSome? fun i => candidate? n magnitude (i + 1) with
  | some d => dropZeros 20 d
  | none => ⟨m, e⟩

/-- Digits with a point after the given number of them, and a digit on both sides of it. -/
def positional (digits : List Char) (point : Int) : String :=
  if point ≤ 0 then
    "0." ++ String.ofList (List.replicate (-point).toNat '0' ++ digits)
  else
    let whole := digits.take point.toNat
    let padding := List.replicate (point.toNat - digits.length) '0'
    let rest := digits.drop point.toNat
    String.ofList (whole ++ padding) ++ "." ++ (if rest.isEmpty then "0" else String.ofList rest)

/-- Digits with a point after the first one, and a power of ten. -/
def exponential (digits : List Char) (point : Int) : String :=
  let fraction := digits.drop 1
  String.ofList (digits.take 1) ++
    (if fraction.isEmpty then "" else "." ++ String.ofList fraction) ++ "e" ++ toString (point - 1)

/-- A double as text: positional from `10 ^ -4` to below `10 ^ 16` and for zero, with a power of ten
    otherwise. -/
def render : Binary64 → String
  | nan => "NaN"
  | infinite negative => (if negative then "-" else "") ++ "inf"
  | finite negative m e =>
    let sign := if negative then "-" else ""
    if m = 0 then sign ++ "0.0"
    else
      let d := shortest m e
      let digits := Nat.toDigits 10 d.digits
      let point := d.exponent + digits.length
      sign ++
        if -4 < point ∧ point ≤ 16 then positional digits point else exponential digits point

end Binary64

end SnapshotLint

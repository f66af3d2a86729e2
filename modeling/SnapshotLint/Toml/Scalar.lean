/-
  The parts of a TOML text that hold no others: blanks, comments, keys, strings and numbers. Each
  reader takes a text and gives what it found and the rest.
-/
import SnapshotLint.Text.Segment
import SnapshotLint.Toml.Value

namespace SnapshotLint.Toml

/-- A reader of the beginning of a text. -/
abbrev Reader (α : Type) := List Char → Option (α × List Char)

/-- A text without blanks and tabs in front. -/
def skipBlanks (cs : List Char) : List Char := cs.dropWhile fun c => c == ' ' || c == '\t'

/-- What follows a line end. -/
def newline? : List Char → Option (List Char)
  | '\n' :: cs => some cs
  | '\r' :: '\n' :: cs => some cs
  | _ => none

/-- The characters of a comment: a tab, and whatever is no control character. -/
def isCommentChar (c : Char) : Bool := c == '\t' || (0x20 ≤ c.toNat && c.toNat != 0x7F)

/-- A text without a comment in front. -/
def skipComment : List Char → List Char
  | '#' :: cs => cs.dropWhile isCommentChar
  | cs => cs

/-- What follows the end of a line: blanks, a comment, and a line end or the end of the text. -/
def lineEnd? (cs : List Char) : Option (List Char) :=
  match skipComment (skipBlanks cs) with
  | [] => some []
  | cs => newline? cs

/-- A text without blanks, comments and line ends in front. -/
def skipLines : (fuel : Nat) → List Char → List Char
  | 0, cs => cs
  | fuel + 1, cs =>
    let cs := skipComment (skipBlanks cs)
    match newline? cs with
    | some rest => skipLines fuel rest
    | none => cs

/-! ## Strings -/

/-- The character of a code point, unless it is half of a surrogate pair or too large. -/
def scalar? (n : Nat) : Option Char :=
  if n < 0xD800 ∨ (0xE000 ≤ n ∧ n < 0x110000) then some (Char.ofNat n) else none

/-- The number that a list of hexadecimal digits denotes. -/
def hexValue? (cs : List Char) : Option Nat :=
  cs.foldlM (fun n c => (Json.hexDigit? c).map (n * 16 + ·)) 0

/-- What follows a backslash: the character it denotes. -/
def escape? : Reader Char
  | 'b' :: cs => some ('\x08', cs)
  | 't' :: cs => some ('\t', cs)
  | 'n' :: cs => some ('\n', cs)
  | 'f' :: cs => some ('\x0c', cs)
  | 'r' :: cs => some ('\r', cs)
  | '"' :: cs => some ('"', cs)
  | '\\' :: cs => some ('\\', cs)
  | 'u' :: cs => code 4 cs
  | 'U' :: cs => code 8 cs
  | _ => none
where
  /-- A code point of the given count of hexadecimal digits. -/
  code (count : Nat) (cs : List Char) : Option (Char × List Char) := do
    let ds := cs.take count
    if ds.length < count then none
    else return (← (hexValue? ds) >>= scalar?, cs.drop count)

/-- Whether a character may stand unescaped on one line of a string. -/
def isTextChar (c : Char) : Bool := isCommentChar c

/-- The rest of a string in double quotes; what was read stands in reverse. -/
def basic : (fuel : Nat) → (read : List Char) → Reader String
  | 0, _, _ => none
  | _ + 1, _, [] => none
  | fuel + 1, read, c :: cs =>
    if c = '"' then some (String.ofList read.reverse, cs)
    else if c = '\\' then do
      let (e, cs) ← escape? cs
      basic fuel (e :: read) cs
    else if isTextChar c then basic fuel (c :: read) cs
    else none

/-- The rest of a string in single quotes. -/
def literal : (fuel : Nat) → (read : List Char) → Reader String
  | 0, _, _ => none
  | _ + 1, _, [] => none
  | fuel + 1, read, c :: cs =>
    if c = '\'' then some (String.ofList read.reverse, cs)
    else if isTextChar c then literal fuel (c :: read) cs
    else none

/-- A text without blanks, tabs and line ends in front. -/
def skipSpace : (fuel : Nat) → List Char → List Char
  | 0, cs => cs
  | fuel + 1, cs =>
    let cs := skipBlanks cs
    match newline? cs with
    | some rest => skipSpace fuel rest
    | none => cs

/-- The quotes at the end of a string over several lines: three end it, and up to two more belong to
    it. -/
def closing? (quote : Char) (cs : List Char) : Option (Nat × List Char) :=
  let run := min 5 (cs.takeWhile (· == quote)).length
  if 3 ≤ run then some (run - 3, cs.drop run) else none

/-- The rest of a string in three double quotes. A backslash at the end of a line joins it with the
    next text. -/
def multiBasic : (fuel : Nat) → (read : List Char) → Reader String
  | 0, _, _ => none
  | fuel + 1, read, cs =>
    match closing? '"' cs with
    | some (extra, rest) => some (String.ofList (List.replicate extra '"' ++ read).reverse, rest)
    | none =>
      match newline? cs with
      | some rest => multiBasic fuel ('\n' :: read) rest
      | none =>
        match cs with
        | [] => none
        | '\\' :: rest =>
          match newline? (skipBlanks rest) with
          | some rest => multiBasic fuel read (skipSpace rest.length rest)
          | none => do
            let (e, rest) ← escape? rest
            multiBasic fuel (e :: read) rest
        | c :: rest => if isTextChar c then multiBasic fuel (c :: read) rest else none

/-- The rest of a string in three single quotes. -/
def multiLiteral : (fuel : Nat) → (read : List Char) → Reader String
  | 0, _, _ => none
  | fuel + 1, read, cs =>
    match closing? '\'' cs with
    | some (extra, rest) => some (String.ofList (List.replicate extra '\'' ++ read).reverse, rest)
    | none =>
      match newline? cs with
      | some rest => multiLiteral fuel ('\n' :: read) rest
      | none =>
        match cs with
        | [] => none
        | c :: rest => if isTextChar c then multiLiteral fuel (c :: read) rest else none

/-- A text without a line end in front. -/
def skipNewline (cs : List Char) : List Char := (newline? cs).getD cs

/-- A string. -/
def string? : Reader String
  | '"' :: '"' :: '"' :: cs => multiBasic (cs.length + 1) [] (skipNewline cs)
  | '\'' :: '\'' :: '\'' :: cs => multiLiteral (cs.length + 1) [] (skipNewline cs)
  | '"' :: cs => basic (cs.length + 1) [] cs
  | '\'' :: cs => literal (cs.length + 1) [] cs
  | _ => none

/-! ## Keys -/

/-- The characters of a key without quotes. -/
def isBareChar (c : Char) : Bool := c.isAlphanum || c == '_' || c == '-'

/-- One part of a key. -/
def simpleKey? (cs : List Char) : Option (String × List Char) :=
  match cs with
  | '"' :: rest => basic (rest.length + 1) [] rest
  | '\'' :: rest => literal (rest.length + 1) [] rest
  | cs =>
    let bare := cs.takeWhile isBareChar
    if bare.isEmpty then none else some (String.ofList bare, cs.dropWhile isBareChar)

/-- How many parts a key, and how many levels a value, must stay below. -/
def nestingLimit : Nat := 80

/-- The parts of a key, with dots between them and blanks around them. -/
def keyParts : (fuel : Nat) → (read : List String) → Reader (List String)
  | 0, _, _ => none
  | fuel + 1, read, cs => do
    let (part, cs) ← simpleKey? (skipBlanks cs)
    match skipBlanks cs with
    | '.' :: cs => keyParts fuel (part :: read) cs
    | cs => return ((part :: read).reverse, cs)

/-- A key: the names of the tables on the way, and the name in the last one. -/
def key? (cs : List Char) : Option ((List String × String) × List Char) := do
  let (parts, cs) ← keyParts (cs.length + 1) [] cs
  if nestingLimit ≤ parts.length then none
  else return ((parts.dropLast, ← parts.getLast?), cs)

/-! ## Numbers -/

/-- The characters of a number. -/
def isNumberChar (c : Char) : Bool := c.isAlphanum || c == '_' || c == '+' || c == '-' || c == '.'

/-- Digits with single underscores between them, without the underscores. -/
def grouped? (isDigit : Char → Bool) (cs : List Char) : Option (List Char) :=
  let groups := Text.pieces '_' cs
  if groups.all fun g => !g.isEmpty && g.all isDigit then some groups.flatten else none

/-- The digits of a decimal number without a needless zero in front. -/
def whole? (cs : List Char) : Option (List Char) := do
  let digits ← grouped? Char.isDigit cs
  if 1 < digits.length ∧ digits.head? = some '0' then none else return digits

/-- The number that digits denote in a base. -/
def valueInBase (base : Nat) (cs : List Char) : Nat :=
  cs.foldl (fun n c => n * base + (Json.hexDigit? c).getD 0) 0

/-- An integer, if it is in range. -/
def ofInt? (n : Int) : Option Value :=
  if Int64.minValue.toInt ≤ n ∧ n ≤ Int64.maxValue.toInt then some (.int (Int64.ofInt n)) else none

/-- A number in a base other than ten. -/
def based? (base : Nat) (cs : List Char) : Option Value := do
  let digits ← grouped? (fun c => (Json.hexDigit? c).any (· < base)) cs
  ofInt? (valueInBase base digits)

/-- The sign of a number and what follows it. -/
def splitSign : List Char → Bool × List Char
  | '+' :: cs => (false, cs)
  | '-' :: cs => (true, cs)
  | cs => (false, cs)

/-- An exponent, if the text is one or empty. -/
def exponent? : List Char → Option Int
  | [] => some 0
  | e :: cs =>
    if e = 'e' ∨ e = 'E' then do
      let (negative, cs) := splitSign cs
      let n : Int := Json.digitsValue (← grouped? Char.isDigit cs)
      return if negative then -n else n
    else none

/-- A number with a point or an exponent. One that is too large is refused, one that is too small
    is infinite. -/
def float? (negative : Bool) (cs : List Char) : Option Value := do
  let isDigit := fun c : Char => c.isDigit || c == '_'
  let whole ← whole? (cs.takeWhile isDigit)
  let rest := cs.dropWhile isDigit
  let (fraction, rest) ← match rest with
    | '.' :: rest => do
      pure (← grouped? Char.isDigit (rest.takeWhile isDigit), rest.dropWhile isDigit)
    | rest => pure ([], rest)
  let exponent ← exponent? rest
  let x := Binary64.ofDecimal negative (Json.digitsValue (whole ++ fraction))
    (exponent - fraction.length)
  if x = .infinite false then none else return .float x

/-- The number that a run of number characters denotes. -/
def number? (cs : List Char) : Option Value :=
  match cs with
  | '0' :: 'x' :: digits => based? 16 digits
  | '0' :: 'o' :: digits => based? 8 digits
  | '0' :: 'b' :: digits => based? 2 digits
  | cs =>
    let (negative, body) := splitSign cs
    if body = ['i', 'n', 'f'] then some (.float (.infinite negative))
    else if body = ['n', 'a', 'n'] then some (.float .nan)
    else match whole? body with
      | some digits =>
        let n : Int := Json.digitsValue digits
        ofInt? (if negative then -n else n)
      | none => float? negative body

end SnapshotLint.Toml

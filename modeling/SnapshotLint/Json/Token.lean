/-
  The tokens of a JSON text, read one character at a time. Reading is a fold over the characters,
  so it ends on every text; a number or a word ends where a character cannot belong to it.
-/
import SnapshotLint.Json.Value

namespace SnapshotLint.Json

/-- A token. -/
inductive Token where
  | openBracket
  | closeBracket
  | openBrace
  | closeBrace
  | comma
  | colon
  /-- A value that is not made of others. -/
  | scalar (value : Json)
  /-- A string literal: a value or the name of a field. -/
  | string (literal : Literal)

/-- One element of a string literal: a character, or the code unit of a `\u` escape. -/
inductive Element where
  | char (c : Char)
  | unit (n : Nat)

/-- The text of a literal: a high surrogate unit must be followed by a low one, which stands
    nowhere else. -/
def assemble : List Element → List Char → Option String
  | [], acc => some (String.ofList acc.reverse)
  | .char c :: rest, acc => assemble rest (c :: acc)
  | .unit n :: rest, acc =>
    if 0xD800 ≤ n ∧ n < 0xDC00 then
      match rest with
      | .unit m :: rest =>
        if 0xDC00 ≤ m ∧ m < 0xE000 then
          assemble rest (Char.ofNat (0x10000 + (n - 0xD800) * 0x400 + (m - 0xDC00)) :: acc)
        else none
      | _ => none
    else if 0xDC00 ≤ n ∧ n < 0xE000 then none
    else assemble rest (Char.ofNat n :: acc)

/-- The value of a hexadecimal digit. -/
def hexDigit? (c : Char) : Option Nat :=
  if '0' ≤ c ∧ c ≤ '9' then some (c.toNat - '0'.toNat)
  else if 'a' ≤ c ∧ c ≤ 'f' then some (c.toNat - 'a'.toNat + 10)
  else if 'A' ≤ c ∧ c ≤ 'F' then some (c.toNat - 'A'.toNat + 10)
  else none

/-- The number that a list of decimal digits denotes. -/
def digitsValue (cs : List Char) : Nat :=
  cs.foldl (fun n c => n * 10 + (c.toNat - '0'.toNat)) 0

/-- Whether a text may stand for the whole part of a number: digits without a needless zero. -/
def isWhole : List Char → Bool
  | [] => false
  | ['0'] => true
  | '0' :: _ => false
  | cs => cs.all Char.isDigit

/-- Whether a text is an optional exponent. -/
def isExponent : List Char → Bool
  | [] => true
  | e :: cs =>
    (e == 'e' || e == 'E') &&
      (let digits := match cs with
        | '+' :: rest => rest
        | '-' :: rest => rest
        | rest => rest
       !digits.isEmpty && digits.all Char.isDigit)

/-- The number that a run of number characters denotes, if it is well formed. -/
def number? (cs : List Char) : Option Json :=
  let negative := cs.head? == some '-'
  let body := if negative then cs.drop 1 else cs
  let whole := body.takeWhile Char.isDigit
  let rest := body.dropWhile Char.isDigit
  if !isWhole whole then none
  else match rest with
    | [] =>
      let n := digitsValue whole
      if negative && n == 0 then some (.decimal (String.ofList cs))
      else some (.int (if negative then -(n : Int) else n))
    | '.' :: fraction =>
      if (fraction.takeWhile Char.isDigit).isEmpty then none
      else if isExponent (fraction.dropWhile Char.isDigit) then
        some (.decimal (String.ofList cs))
      else none
    | rest => if isExponent rest then some (.decimal (String.ofList cs)) else none

/-- The value that a word denotes. -/
def word? (cs : List Char) : Option Json :=
  if cs = ['n', 'u', 'l', 'l'] then some .null
  else if cs = ['t', 'r', 'u', 'e'] then some (.bool true)
  else if cs = ['f', 'a', 'l', 's', 'e'] then some (.bool false)
  else none

/-- What the reader is in the middle of; the collected characters stand in reverse. -/
inductive Reading where
  /-- Between tokens. -/
  | between
  /-- In a word. -/
  | word (seen : List Char)
  /-- In a number. -/
  | number (seen : List Char)
  /-- In a string literal. -/
  | string (seen : List Element)
  /-- After a backslash in a string literal. -/
  | escape (seen : List Element)
  /-- In a `\u` escape, with the digits still to come and the value so far. -/
  | unit (seen : List Element) (missing : Nat) (value : Nat)

/-- The reader: what it is in and the tokens so far, in reverse. -/
structure Lexer where
  reading : Reading := .between
  tokens : List Token := []

namespace Lexer

/-- Whether a character can stand in a number. -/
def isNumberChar (c : Char) : Bool :=
  c.isDigit || c == '-' || c == '+' || c == '.' || c == 'e' || c == 'E'

/-- The reader after a token. -/
def emit (l : Lexer) (t : Token) : Lexer := ⟨.between, t :: l.tokens⟩

/-- One character between tokens. -/
def start (l : Lexer) (c : Char) : Option Lexer :=
  match c with
  | ' ' | '\t' | '\n' | '\r' => some { l with reading := .between }
  | '[' => some (l.emit .openBracket)
  | ']' => some (l.emit .closeBracket)
  | '\x7b' => some (l.emit .openBrace)
  | '\x7d' => some (l.emit .closeBrace)
  | ',' => some (l.emit .comma)
  | ':' => some (l.emit .colon)
  | '"' => some { l with reading := .string [] }
  | c =>
    if c.isDigit || c == '-' then some { l with reading := .number [c] }
    else if c.isLower then some { l with reading := .word [c] }
    else none

/-- The character that a one-letter escape stands for. -/
def simpleEscape? : Char → Option Char
  | '"' => some '"'
  | '\\' => some '\\'
  | '/' => some '/'
  | 'b' => some '\x08'
  | 'f' => some '\x0c'
  | 'n' => some '\n'
  | 'r' => some '\r'
  | 't' => some '\t'
  | _ => none

/-- One character. -/
def step (l : Lexer) (c : Char) : Option Lexer :=
  match l.reading with
  | .between => l.start c
  | .word seen =>
    if c.isLower then some { l with reading := .word (c :: seen) }
    else do (l.emit (.scalar (← word? seen.reverse))).start c
  | .number seen =>
    if isNumberChar c then some { l with reading := .number (c :: seen) }
    else do (l.emit (.scalar (← number? seen.reverse))).start c
  | .string seen =>
    if c = '"' then some (l.emit (.string (assemble seen.reverse [])))
    else if c = '\\' then some { l with reading := .escape seen }
    else if c.toNat < 0x20 then none
    else some { l with reading := .string (.char c :: seen) }
  | .escape seen =>
    if c = 'u' then some { l with reading := .unit seen 4 0 }
    else do return { l with reading := .string (.char (← simpleEscape? c) :: seen) }
  | .unit seen missing value => do
    let value := value * 16 + (← hexDigit? c)
    if missing ≤ 1 then return { l with reading := .string (.unit value :: seen) }
    else return { l with reading := .unit seen (missing - 1) value }

/-- The tokens, once the text has ended. -/
def finish (l : Lexer) : Option (List Token) :=
  match l.reading with
  | .between => some l.tokens.reverse
  | .word seen => do return (.scalar (← word? seen.reverse) :: l.tokens).reverse
  | .number seen => do return (.scalar (← number? seen.reverse) :: l.tokens).reverse
  | _ => none

end Lexer

/-- The tokens of a text, if it consists of tokens. -/
def tokens? (s : String) : Option (List Token) :=
  (s.toList.foldlM Lexer.step {}) >>= Lexer.finish

end SnapshotLint.Json

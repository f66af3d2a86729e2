/-
  Writing JSON values: on one line, or over several with two blanks for each level.
-/
import SnapshotLint.Json.Value

namespace SnapshotLint.Json

/-- The lower-case hexadecimal digit of a number below sixteen. -/
def hexChar (n : Nat) : Char :=
  if n < 10 then Char.ofNat ('0'.toNat + n) else Char.ofNat ('a'.toNat + (n - 10))

/-- A character inside a string literal: the quote, the backslash and the control characters are
    escaped, and nothing else. -/
def escapeChar (c : Char) : List Char :=
  match c with
  | '"' => ['\\', '"']
  | '\\' => ['\\', '\\']
  | '\n' => ['\\', 'n']
  | '\r' => ['\\', 'r']
  | '\t' => ['\\', 't']
  | '\x08' => ['\\', 'b']
  | '\x0c' => ['\\', 'f']
  | c =>
    if c.toNat < 0x20 then
      ['\\', 'u', '0', '0', hexChar (c.toNat / 16), hexChar (c.toNat % 16)]
    else [c]

/-- A text as a string literal. -/
def quote (s : String) : String :=
  "\"" ++ String.ofList (s.toList.flatMap escapeChar) ++ "\""

/-- A literal as written; one without a text cannot be written and appears empty. -/
def literal (l : Literal) : String := quote (l.getD "")

mutual
/-- A value on one line. -/
def compact : Json → String
  | .null => "null"
  | .bool true => "true"
  | .bool false => "false"
  | .int n => toString n
  | .decimal lexeme => lexeme
  | .str l => literal l
  | .arr items => "[" ++ ",".intercalate (compactItems items) ++ "]"
  | .obj fields => "\x7b" ++ ",".intercalate (compactFields fields) ++ "\x7d"

/-- The values of a list, each on one line. -/
def compactItems : List Json → List String
  | [] => []
  | j :: js => compact j :: compactItems js

/-- The fields of an object, each on one line. -/
def compactFields : List (Literal × Json) → List String
  | [] => []
  | (name, j) :: fs => (literal name ++ ":" ++ compact j) :: compactFields fs
end

/-- The start of a line at the given level. -/
def newline (level : Nat) : String :=
  "\n" ++ String.ofList (List.replicate (2 * level) ' ')

/-- Parts that each stand on a line of their own, between brackets. -/
def block (level : Nat) (opening closing : String) : List String → String
  | [] => opening ++ closing
  | parts =>
    opening ++ newline (level + 1) ++ ("," ++ newline (level + 1)).intercalate parts ++
      newline level ++ closing

mutual
/-- A value over several lines, its first line standing at the given level. -/
def prettyAt : Json → Nat → String
  | .arr items, level => block level "[" "]" (prettyItems items (level + 1))
  | .obj fields, level => block level "\x7b" "\x7d" (prettyFields fields (level + 1))
  | .null, _ => "null"
  | .bool true, _ => "true"
  | .bool false, _ => "false"
  | .int n, _ => toString n
  | .decimal lexeme, _ => lexeme
  | .str l, _ => literal l

/-- The values of a list at the given level. -/
def prettyItems : List Json → Nat → List String
  | [], _ => []
  | j :: js, level => prettyAt j level :: prettyItems js level

/-- The fields of an object at the given level. -/
def prettyFields : List (Literal × Json) → Nat → List String
  | [], _ => []
  | (name, j) :: fs, level =>
    (literal name ++ ": " ++ prettyAt j level) :: prettyFields fs level
end

/-- A value over several lines. -/
def pretty (j : Json) : String := prettyAt j 0

end SnapshotLint.Json

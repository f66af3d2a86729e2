/-
  Wrapping: a text is cut into words, and each line takes as many of them as fit. A word may also be
  cut after a hyphen inside it, and anywhere if it is longer than a line.
-/
import SnapshotLint.Text.Alphanumeric
import SnapshotLint.Text.LineBreak
import SnapshotLint.Text.Segment

namespace SnapshotLint.Text

/-- A word with the blanks after it. -/
structure Word where
  letters : List Char
  blanks : List Char := []

namespace Word

/-- The columns of a word without its blanks. -/
def columns (w : Word) : Nat := width w.letters

/-- The word in a piece of text. -/
def ofPiece (piece : List Char) : Word :=
  let blanks := piece.reverse.takeWhile (· == ' ')
  ⟨piece.take (piece.length - blanks.length), blanks⟩

/-- The parts of a word that end with a hyphen between letters or digits. The part read so far
    stands in reverse. -/
def hyphenParts (part : List Char) : List Char → List (List Char)
  | [] => [part.reverse]
  | '-' :: c :: cs =>
    if part.head?.any isAlphanumeric && isAlphanumeric c then
      ('-' :: part).reverse :: hyphenParts [] (c :: cs)
    else hyphenParts ('-' :: part) (c :: cs)
  | c :: cs => hyphenParts (c :: part) cs

/-- The parts of a word that fit into so many columns. -/
def fittingParts (limit : Nat) (part : List Char) : List Char → List (List Char)
  | [] => if part.isEmpty then [] else [part.reverse]
  | c :: cs =>
    if 0 < width part && limit < width part + charWidth c then
      part.reverse :: fittingParts limit [c] cs
    else fittingParts limit (c :: part) cs

/-- Parts of a word as words, the last with the blanks. -/
def withBlanks (blanks : List Char) : List (List Char) → List Word
  | [] => []
  | [part] => [⟨part, blanks⟩]
  | part :: parts => ⟨part, []⟩ :: withBlanks blanks parts

/-- A word cut after its hyphens. -/
def cutAtHyphens (w : Word) : List Word := withBlanks w.blanks (hyphenParts [] w.letters)

/-- A word cut to fit into so many columns. -/
def cutToFit (limit : Nat) (w : Word) : List Word :=
  if limit < w.columns then withBlanks w.blanks (fittingParts limit [] w.letters) else [w]

end Word

/-- Whether a break after a character is left to the hyphens of a word. -/
def isHyphenLike (c : Char) : Bool := c == '-' || c == '\u00ad'

/-- The pieces of a line that are kept apart. The last two are one if the line ends with a
    hyphen. -/
def linePieces (line : List Char) : List (List Char) :=
  let pieces := breakPieces (!isHyphenLike ·) line
  if line.getLast?.any isHyphenLike then
    match pieces.reverse with
    | last :: before :: rest => (rest.reverse) ++ [before ++ last]
    | _ => pieces
  else pieces

/-- The words of a line, none of them wider than so many columns if that can be had. -/
def words (limit : Nat) (line : List Char) : List Word :=
  ((linePieces line).map Word.ofPiece).flatMap fun w => w.cutAtHyphens.flatMap (Word.cutToFit limit)

/-- The lines that words fill, and their columns so far; a line takes a word if it fits. -/
def fill (limit : Nat) (line : List Word) (columns : Nat) : List Word → List (List Word)
  | [] => [line.reverse]
  | w :: ws =>
    if limit < columns + w.columns && !line.isEmpty then
      line.reverse :: fill limit [w] (w.columns + w.blanks.length) ws
    else fill limit (w :: line) (columns + w.columns + w.blanks.length) ws

/-- A line of words, without the blanks at its end. -/
def joinWords : List Word → List Char
  | [] => []
  | [w] => w.letters
  | w :: ws => w.letters ++ w.blanks ++ joinWords ws

/-- A text wrapped into lines of so many columns, each line with an indent. -/
def wrap (limit : Nat) (firstIndent indent : String) (s : String) : String :=
  let lines := (pieces '\n' s.toList).flatMap fun line =>
    (fill limit [] 0 (words limit line)).map joinWords
  let indented := lines.zipIdx.map fun (line, i) =>
    (if i = 0 then firstIndent else indent) ++ String.ofList line
  String.intercalate "\n" indented

end SnapshotLint.Text

/-
  Where a text may be broken into lines. Marks that combine with a character count as part of it,
  and blanks stay at the end of what they follow.
-/
import SnapshotLint.Text.LineBreak.Class

namespace SnapshotLint.Text

/-- What stands before a place in a text. -/
structure LineState where
  /-- The class of the last character that is neither a blank nor part of another one. -/
  last : LineClass
  /-- Whether blanks follow it. -/
  blanks : Bool := false
  /-- Whether the character right before is a joiner. -/
  joined : Bool := false
  /-- Whether the last character is a hyphen, or the like, after a Hebrew letter. -/
  afterHebrew : Bool := false
  /-- Whether the last character is the first half of a flag. -/
  halfFlag : Bool := false

namespace LineClass

/-- Whether a character ends a line. -/
def endsLine : LineClass → Bool
  | hardBreak | carriageReturn | lineFeed | nextLine => true
  | _ => false

/-- Letters of any kind. -/
def isLetter : LineClass → Bool
  | letter | hebrew => true
  | _ => false

/-- Whether a character belongs to the one before it. -/
def isMark : LineClass → Bool
  | combining | joiner => true
  | _ => false

/-- Opening punctuation of any width. -/
def opens : LineClass → Bool
  | opening | wideOpening => true
  | _ => false

/-- Closing punctuation. -/
def closes : LineClass → Bool
  | close | closeParen => true
  | _ => false

/-- Signs that behave like ideographs next to a number. -/
def isPicture : LineClass → Bool
  | ideograph | emojiBase | emojiModifier => true
  | _ => false

/-- Parts of a syllable block. -/
def isSyllable : LineClass → Bool
  | leadingJamo | vowelJamo | trailingJamo | openSyllable | closedSyllable => true
  | _ => false

/-- Whether two parts belong to one syllable block. -/
def sameBlock : LineClass → LineClass → Bool
  | leadingJamo, b =>
    b == leadingJamo || b == vowelJamo || b == openSyllable || b == closedSyllable
  | vowelJamo, b | openSyllable, b => b == vowelJamo || b == trailingJamo
  | trailingJamo, b | closedSyllable, b => b == trailingJamo
  | _, _ => false

/-- Characters that no line begins with, even after blanks. -/
def clings : LineClass → Bool
  | close | closeParen | exclamation | infixNumber | slash => true
  | _ => false

/-- Whether two characters side by side belong to one number. -/
def sameNumber (a b : LineClass) : Bool :=
  (a.closes || a == digit) && (b == afterNumber || b == beforeNumber) ||
  (a == afterNumber || a == beforeNumber) && (b.opens || b == digit) ||
  (a == hyphen || a == infixNumber || a == digit || a == slash) && b == digit

/-- Whether two characters side by side stay together, once blanks, joiners and glue have been
    looked at. -/
def together (a b : LineClass) : Bool :=
  if a == quotation || b == quotation then true
  else if a == contingent || b == contingent then false
  else
    b == breakAfter || b == hyphen || b == nonstarter || a == breakBefore ||
    a == slash && b == hebrew ||
    b == inseparable ||
    a.isLetter && b == digit || a == digit && b.isLetter ||
    a == beforeNumber && b.isPicture || a.isPicture && b == afterNumber ||
    (a == beforeNumber || a == afterNumber) && b.isLetter ||
    a.isLetter && (b == beforeNumber || b == afterNumber) ||
    sameNumber a b ||
    sameBlock a b ||
    a.isSyllable && b == afterNumber || a == beforeNumber && b.isSyllable ||
    a.isLetter && b.isLetter ||
    a == infixNumber && b.isLetter ||
    (a.isLetter || a == digit) && b == opening || a == closeParen && (b.isLetter || b == digit) ||
    a == emojiBase && b == emojiModifier

end LineClass

namespace LineState

open LineClass

/-- Whether marks can belong to what stands before. -/
def takesMarks (s : LineState) : Bool :=
  !s.blanks && !s.last.endsLine && s.last != .space && s.last != .zeroSpace

/-- The class of the next character: a mark that has nothing to belong to is a letter. -/
def resolve (k : LineClass) : LineClass := if k.isMark then .letter else k

/-- Whether a line may be broken before a character of a class. -/
def breaksBefore (s : LineState) (k : LineClass) : Bool :=
  if s.last.endsLine && !s.blanks then !(s.last == .carriageReturn && k == .lineFeed)
  else if k.endsLine || k == .space || k == .zeroSpace then false
  else if s.last == .zeroSpace then true
  else if s.joined then false
  else if k.isMark && s.takesMarks then false
  else
    let b := resolve k
    let direct := !s.blanks
    if b == .wordJoiner || direct && (s.last == .wordJoiner || s.last == .glue) then false
    else if b == .glue && direct && s.last != .breakAfter && s.last != .hyphen then false
    else if b.clings || s.last.opens then false
    else if s.last == .quotation && b.opens then false
    else if s.last.closes && b == .nonstarter then false
    else if s.last == .bothSides && b == .bothSides then false
    else if s.blanks then true
    else if s.last == .regional && b == .regional then !s.halfFlag
    else if s.afterHebrew && b != .contingent then false
    else !together s.last b

/-- What stands before once a character has been passed. -/
def pass (s : LineState) (k : LineClass) : LineState :=
  if k == .space then
    if s.last.endsLine && !s.blanks then { last := .space, blanks := true }
    else { s with blanks := true, joined := false }
  else if k.isMark && s.takesMarks then { s with joined := k == .joiner }
  else
    { last := resolve k
      joined := k == .joiner
      afterHebrew := s.last == .hebrew && !s.blanks && (k == .hyphen || k == .breakAfter)
      halfFlag := k == .regional && !(s.last == .regional && !s.blanks && s.halfFlag) }

/-- What stands before the second character of a text. -/
def first (k : LineClass) : LineState :=
  { last := resolve k, blanks := k == .space, joined := k == .joiner, halfFlag := k == .regional }

end LineState

/-- The pieces of a text between the places where it may be broken, as far as `allowed` agrees with
    a break after a character. -/
def breakPieces (allowed : Char → Bool) : List Char → List (List Char)
  | [] => []
  | c :: cs => go (.first (.ofChar c)) c [] cs
where
  /-- The pieces from the character `before` on, which is part of the piece in reverse. -/
  go (s : LineState) (before : Char) (piece : List Char) : List Char → List (List Char)
    | [] => [(before :: piece).reverse]
    | c :: cs =>
      let k := LineClass.ofChar c
      if s.breaksBefore k && allowed before then
        (before :: piece).reverse :: go (s.pass k) c [] cs
      else go (s.pass k) c (before :: piece) cs

end SnapshotLint.Text

/-
  Names cut at a separator, and letters compared without regard to ASCII case.
-/

namespace SnapshotLint.Text

/-- The pieces of a text between the occurrences of a separator: one more than there are
    occurrences, so never an empty list. -/
def pieces (sep : Char) : List Char → List (List Char)
  | [] => [[]]
  | c :: cs =>
    if c = sep then [] :: pieces sep cs
    else match pieces sep cs with
      | [] => [[c]]
      | p :: ps => (c :: p) :: ps

/-- The pieces put together again with the separator between them. -/
def rejoin (sep : Char) : List (List Char) → List Char
  | [] => []
  | [p] => p
  | p :: ps => p ++ sep :: rejoin sep ps

theorem pieces_ne_nil (sep : Char) (cs : List Char) : pieces sep cs ≠ [] := by
  cases cs with
  | nil => simp [pieces]
  | cons c cs => unfold pieces; split <;> (try split) <;> simp

theorem rejoin_pieces (sep : Char) (cs : List Char) : rejoin sep (pieces sep cs) = cs := by
  induction cs with
  | nil => rfl
  | cons c cs ih =>
    unfold pieces
    by_cases h : c = sep
    · subst h
      cases hp : pieces c cs with
      | nil => exact absurd hp (pieces_ne_nil c cs)
      | cons p ps =>
        rw [hp] at ih
        simp [rejoin, ih]
    · simp only [h, if_false]
      cases hp : pieces sep cs with
      | nil => exact absurd hp (pieces_ne_nil sep cs)
      | cons p ps =>
        rw [hp] at ih
        cases ps <;> simpa [rejoin] using ih

/-- The pieces of a string. -/
def segments (sep : Char) (s : String) : List String :=
  (pieces sep s.toList).map String.ofList

/-- What follows the last dot, or the whole name. -/
def simpleName (s : String) : String :=
  String.ofList ((pieces '.' s.toList).getLastD [])

/-- What precedes the last dot, if there is a dot. -/
def containingName (s : String) : Option String :=
  match (pieces '.' s.toList).dropLast with
  | [] => none
  | ps => some (String.ofList (rejoin '.' ps))

/-- Equality up to the case of the letters `A` to `Z`. -/
def eqIgnoreCase (a b : String) : Bool :=
  a.toList.map Char.toLower == b.toList.map Char.toLower

/-- Whether `part` occurs in `cs` as a run of adjacent characters. -/
def contains (part : List Char) : List Char → Bool
  | [] => part.isEmpty
  | c :: cs => part.isPrefixOf (c :: cs) || contains part cs

/-- Every occurrence of two adjacent stars taken out, from left to right. -/
def dropDoubleStars : List Char → List Char
  | '*' :: '*' :: cs => dropDoubleStars cs
  | c :: cs => c :: dropDoubleStars cs
  | [] => []

/-- The text up to the first line feed. -/
def firstLine (s : String) : String :=
  String.ofList ((pieces '\n' s.toList).headD [])

/-- A text padded with blanks on the right to at least the given number of characters. -/
def padRight (width : Nat) (s : String) : String :=
  s ++ String.ofList (List.replicate (width - s.length) ' ')

end SnapshotLint.Text

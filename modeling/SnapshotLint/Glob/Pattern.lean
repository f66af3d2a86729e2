/-
  Glob patterns: `?` stands for a character, `*` for any text, `[...]` and `[!...]` for a character
  of a class or outside it, and `**` between separators for any number of whole path components.
  A separator is a character like any other for `?`, `*` and classes.
-/

namespace SnapshotLint.Glob

/-- A part of a character class. -/
inductive Span where
  | one (c : Char)
  | range (first last : Char)
deriving DecidableEq

/-- Whether a character belongs to a part of a class. -/
def Span.contains (c : Char) : Span → Bool
  | one d => c == d
  | range first last => first ≤ c && c ≤ last

/-- A part of a pattern. -/
inductive Token where
  /-- The character itself. -/
  | char (c : Char)
  /-- Any character. -/
  | anyChar
  /-- A character of the class. -/
  | within (spans : List Span)
  /-- A character outside the class. -/
  | outside (spans : List Span)
  /-- Any text. -/
  | anyText
  /-- Any number of path components, each with the separator after it. -/
  | anyPath
deriving DecidableEq

/-- Whether a token other than `*` and `**` stands for a character. -/
def Token.accepts (c : Char) : Token → Bool
  | char d => c == d
  | anyChar => true
  | within spans => spans.any (Span.contains c)
  | outside spans => !spans.any (Span.contains c)
  | anyText => false
  | anyPath => false

/-- The character that a token stands for by itself. -/
def Token.char? : Token → Option Char
  | char c => some c
  | _ => none

/-- A pattern. -/
structure Pattern where
  tokens : List Token
deriving DecidableEq, Inhabited

namespace Pattern

/-! ## Reading -/

/-- The parts of a class: three characters with a dash in the middle are a range. -/
def spans : List Char → List Span
  | a :: '-' :: b :: cs => .range a b :: spans cs
  | a :: cs => .one a :: spans cs
  | [] => []

/-- What stands before the next closing bracket and what follows it. The first character is never
    that bracket. -/
def splitClass? : List Char → Option (List Char × List Char)
  | [] => none
  | first :: cs =>
    match cs.dropWhile (· != ']') with
    | [] => none
    | _ :: rest => some (first :: cs.takeWhile (· != ']'), rest)

/-- A class at the beginning of a text, after its opening bracket. -/
def readClass? : List Char → Option (Token × List Char)
  | '!' :: cs => (splitClass? cs).map fun (body, rest) => (.outside (spans body), rest)
  | cs => (splitClass? cs).map fun (body, rest) => (.within (spans body), rest)

theorem length_splitClass? {cs body rest : List Char} (h : splitClass? cs = some (body, rest)) :
    rest.length < cs.length := by
  cases cs with
  | nil => simp [splitClass?] at h
  | cons first cs =>
    simp only [splitClass?] at h
    split at h
    · contradiction
    · next hd =>
      have hle := (List.dropWhile_sublist (p := (· != ']')) (l := cs)).length_le
      simp only [Option.some.injEq, Prod.mk.injEq] at h
      rw [hd] at hle
      simp only [List.length_cons] at hle ⊢
      rw [← h.2]
      omega

theorem length_readClass? {cs rest : List Char} {t : Token}
    (h : readClass? cs = some (t, rest)) : rest.length < cs.length := by
  unfold readClass? at h
  split at h
  · obtain ⟨⟨body, r⟩, hs, he⟩ := Option.map_eq_some_iff.1 h
    simp only [Prod.mk.injEq] at he
    have := length_splitClass? hs
    rw [← he.2, List.length_cons]
    omega
  · obtain ⟨⟨body, r⟩, hs, he⟩ := Option.map_eq_some_iff.1 h
    simp only [Prod.mk.injEq] at he
    rw [← he.2]
    exact length_splitClass? hs

/-- The tokens of a text. The flag says whether the text stands at the beginning of a path
    component; the tokens read before stand in reverse. Of repeated `**` one is enough. -/
def read (atStart : Bool) (before : List Token) : List Char → Option (List Token)
  | [] => some before.reverse
  | '?' :: cs => read false (.anyChar :: before) cs
  | '*' :: '*' :: '*' :: _ => none
  | '*' :: '*' :: cs =>
    let next := match before with
      | .anyPath :: _ :: _ => before
      | _ => .anyPath :: before
    if !atStart then none
    else match cs with
      | [] => read true next []
      | c :: rest => if c = '/' then read true next rest else none
  | '*' :: cs => read false (.anyText :: before) cs
  | '[' :: cs =>
    match h : readClass? cs with
    | none => none
    | some (t, rest) =>
      have := length_readClass? h
      read false (t :: before) rest
  | c :: cs => read (c == '/') (.char c :: before) cs
termination_by cs => cs.length
decreasing_by all_goals (simp_all; try omega)

/-- The pattern of a text, if it is one. -/
def parse? (s : String) : Option Pattern := (read true [] s.toList).map Pattern.mk

/-! ## Matching -/

/-- All ends of a text, the text itself first. -/
def ends : List Char → List (List Char)
  | [] => [[]]
  | c :: cs => (c :: cs) :: ends cs

/-- What may be left of a text once whole path components are taken off: the ends after a
    separator, and nothing. -/
def pathEnds : List Char → List (List Char)
  | [] => [[]]
  | c :: cs => if c = '/' then cs :: pathEnds cs else pathEnds cs

/-- Whether tokens stand for a text. -/
def matchTokens : List Token → List Char → Bool
  | [], cs => cs.isEmpty
  | .anyText :: ts, cs => (ends cs).any (matchTokens ts)
  | .anyPath :: ts, cs => (cs :: pathEnds cs).any (matchTokens ts)
  | _ :: _, [] => false
  | t :: ts, c :: cs => t.accepts c && matchTokens ts cs

/-- Whether a pattern stands for a text. -/
def accepts (p : Pattern) (s : String) : Bool := matchTokens p.tokens s.toList

/-- The one text that a pattern without wildcards stands for. -/
def literal? (p : Pattern) : Option String := (p.tokens.mapM Token.char?).map String.ofList

/-- Whether a pattern has `**` in it. -/
def isRecursive (p : Pattern) : Bool := p.tokens.contains .anyPath

end Pattern

end SnapshotLint.Glob

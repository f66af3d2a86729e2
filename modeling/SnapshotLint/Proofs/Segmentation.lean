/-
  Texts cut at a separator.

  The pieces of a text are one more than its separators (`length_pieces`), have no separator in them
  (`sep_notMem_of_mem_pieces`), and those of a text with a separator in the middle are those of its
  two sides (`pieces_append_cons`). They are what the text splits into as a list
  (`pieces_eq_splitOn`). A string is put together from its segments (`rejoin_of_segments`).
-/
import SnapshotLint.Text.Segment

namespace SnapshotLint.Text

variable {sep : Char}

theorem pieces_of_notMem {cs : List Char} (h : sep ∉ cs) : pieces sep cs = [cs] := by
  induction cs with
  | nil => rfl
  | cons c cs ih =>
    rw [List.mem_cons, not_or] at h
    rw [pieces, if_neg (Ne.symm h.1), ih h.2]

theorem pieces_append_cons (sep : Char) (xs ys : List Char) :
    pieces sep (xs ++ sep :: ys) = pieces sep xs ++ pieces sep ys := by
  induction xs with
  | nil => simp [pieces]
  | cons c xs ih =>
    rw [List.cons_append, pieces, pieces, ih]
    split
    · rfl
    · cases h : pieces sep xs with
      | nil => exact absurd h (pieces_ne_nil sep xs)
      | cons p ps => rfl

theorem pieces_eq_splitOn (sep : Char) (cs : List Char) : pieces sep cs = cs.splitOn sep := by
  induction cs with
  | nil => rfl
  | cons c cs ih =>
    have hsplit : (c :: cs).splitOn sep =
        if c = sep then [] :: cs.splitOn sep else (cs.splitOn sep).modifyHead (c :: ·) := by
      rw [List.splitOn, List.splitOnP_cons_eq_if_modifyHead]
      simp only [beq_iff_eq]
      rfl
    rw [hsplit, ← ih, pieces]
    split
    · rfl
    · cases h : pieces sep cs with
      | nil => exact absurd h (pieces_ne_nil sep cs)
      | cons p ps => rfl

theorem length_pieces (sep : Char) (cs : List Char) :
    (pieces sep cs).length = cs.count sep + 1 := by
  induction cs with
  | nil => rfl
  | cons c cs ih =>
    unfold pieces
    by_cases hc : c = sep
    · subst hc
      simp [ih]
    · rw [if_neg hc, List.count_cons_of_ne hc]
      cases hp : pieces sep cs with
      | nil => exact absurd hp (pieces_ne_nil sep cs)
      | cons p ps =>
        rw [hp] at ih
        exact ih

theorem sep_notMem_of_mem_pieces {cs p : List Char} (hp : p ∈ pieces sep cs) : sep ∉ p := by
  induction cs generalizing p with
  | nil => simp_all [pieces]
  | cons c cs ih =>
    unfold pieces at hp
    split at hp
    · rcases List.mem_cons.1 hp with rfl | hp
      · exact List.not_mem_nil
      · exact ih hp
    · next hc =>
      cases hps : pieces sep cs with
      | nil => exact absurd hps (pieces_ne_nil sep cs)
      | cons q qs =>
        rw [hps] at hp ih
        rcases List.mem_cons.1 hp with rfl | hp
        · have hq : sep ∉ q := ih List.mem_cons_self
          simp [hq, Ne.symm hc]
        · exact ih (List.mem_cons_of_mem _ hp)

theorem length_segments (sep : Char) (s : String) :
    (segments sep s).length = s.toList.count sep + 1 := by
  rw [segments, List.length_map, length_pieces]

/-- The text is put together from its segments, which have no separator in them. -/
theorem rejoin_of_segments {s : String} {parts : List String} (h : segments sep s = parts) :
    rejoin sep (parts.map String.toList) = s.toList ∧ ∀ part ∈ parts, sep ∉ part.toList := by
  subst h
  constructor
  · simp [segments, Function.comp_def, rejoin_pieces]
  · intro part hpart
    obtain ⟨p, hp, rfl⟩ := List.mem_map.1 hpart
    rw [String.toList_ofList]
    exact sep_notMem_of_mem_pieces hp

theorem head?_ne_sep_iff {xs ys : List Char} (h : sep ∉ xs) :
    (xs ++ sep :: ys).head? ≠ some sep ↔ xs ≠ [] := by
  cases xs with
  | nil => simp
  | cons x xs =>
    rw [List.mem_cons, not_or] at h
    simp [Ne.symm h.1]

theorem getLast?_ne_sep_iff {xs ys : List Char} (h : sep ∉ ys) :
    (xs ++ sep :: ys).getLast? ≠ some sep ↔ ys ≠ [] := by
  have hreverse : (xs ++ sep :: ys).getLast? = (ys.reverse ++ sep :: xs.reverse).head? := by
    rw [← List.head?_reverse]
    simp
  rw [hreverse, head?_ne_sep_iff (by simpa using h), List.reverse_ne_nil_iff]

end SnapshotLint.Text

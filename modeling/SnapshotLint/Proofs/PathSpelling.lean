/-
  How paths are written.

  A path is compared by its components, and the same components can be written in several ways.

  * `Respelled`: the paths differ only in what does not count.
  * `components_of_respelled`: nothing of this touches the components.
  * `respelled_spell`: every path is respelled as the one that is written from its components. So
    two paths have the same components iff one is the other respelled: `components_eq_iff`.
-/
import SnapshotLint.Path
import SnapshotLint.Proofs.Segmentation

namespace SnapshotLint.Path

/-- The paths differ only in repeated separators, in `.` components that are not at the beginning,
    and in separators at the end. -/
inductive Respelled : String → String → Prop
  | refl (p : String) : Respelled p p
  | symm {p q : String} : Respelled p q → Respelled q p
  | trans {p q r : String} : Respelled p q → Respelled q r → Respelled p r
  | separators (p q : String) : Respelled (p ++ "//" ++ q) (p ++ "/" ++ q)
  | current (p q : String) : Respelled (p ++ "/./" ++ q) (p ++ "/" ++ q)
  /-- The separator that is a whole path stays. -/
  | trailing {p : String} : p ≠ "" → Respelled (p ++ "/") p

variable {p q r : String}

/-! ## Components -/

theorem toList_join (p q : String) : (p ++ "/" ++ q).toList = p.toList ++ '/' :: q.toList := by
  simp

theorem join_separators (p q : String) : p ++ "//" ++ q = p ++ "/" ++ ("" ++ "/" ++ q) := by
  rw [← String.toList_inj]
  simp

theorem join_current (p q : String) : p ++ "/./" ++ q = p ++ "/" ++ ("." ++ "/" ++ q) := by
  rw [← String.toList_inj]
  simp

/-- The components of what follows a separator. -/
def inner (q : String) : List Component := (Text.pieces '/' q.toList).filterMap component?

theorem inner_join (p q : String) : inner (p ++ "/" ++ q) = inner p ++ inner q := by
  rw [inner, toList_join, Text.pieces_append_cons, List.filterMap_append]
  rfl

theorem components_absolute (q : String) : components ("/" ++ q) = .root :: inner q := by
  have hlist : ("/" ++ q).toList = '/' :: q.toList := by simp
  rw [components, isAbsolute, hlist]
  rfl

theorem components_join (hp : p ≠ "") (q : String) :
    components (p ++ "/" ++ q) = components p ++ inner q := by
  have habsolute : isAbsolute (p ++ "/" ++ q) = isAbsolute p := by
    have hne : p.toList ≠ [] := by simpa using hp
    obtain ⟨c, cs, hcs⟩ := List.exists_cons_of_ne_nil hne
    rw [isAbsolute, isAbsolute, toList_join, hcs]
    rfl
  have hhead : (Text.pieces '/' p.toList ++ Text.pieces '/' q.toList).head? =
      (Text.pieces '/' p.toList).head? := by
    obtain ⟨x, xs, hxs⟩ := List.exists_cons_of_ne_nil (Text.pieces_ne_nil '/' p.toList)
    rw [hxs]
    rfl
  simp only [components, habsolute, toList_join, Text.pieces_append_cons, hhead,
    List.filterMap_append, List.append_assoc]
  rfl

/-- What follows a separator counts by its components. -/
theorem components_congr_inner (p : String) (h : inner q = inner r) :
    components (p ++ "/" ++ q) = components (p ++ "/" ++ r) := by
  by_cases hp : p = ""
  · subst hp
    rw [String.empty_append, components_absolute, components_absolute, h]
  · rw [components_join hp, components_join hp, h]

theorem components_of_respelled (h : Respelled p q) : components p = components q := by
  induction h with
  | refl p => rfl
  | symm _ ih => exact ih.symm
  | trans _ _ ih ih' => exact ih.trans ih'
  | separators p q =>
    rw [join_separators]
    exact components_congr_inner p (inner_join "" q)
  | current p q =>
    rw [join_current]
    exact components_congr_inner p (inner_join "." q)
  | @trailing p hp =>
    have hjoin := components_join hp ""
    rw [String.append_empty] at hjoin
    rw [hjoin]
    exact List.append_nil _

/-! ## Paths written from components -/

/-- How a component is written. -/
def Component.text : Component → String
  | root => "/"
  | current => "."
  | parent => ".."
  | name s => s

/-- Components written after a path. -/
def spellInner : List Component → String
  | [] => ""
  | c :: cs => "/" ++ c.text ++ spellInner cs

/-- Components written as a path. -/
def spell : List Component → String
  | [] => ""
  | c :: cs => c.text ++ spellInner cs

theorem eq_of_component?_eq_none {x : List Char} (h : component? x = none) :
    x = [] ∨ x = ['.'] := by
  unfold component? at h
  split at h <;> simp_all

theorem text_of_component? {x : List Char} {c : Component} (h : component? x = some c) :
    c.text = String.ofList x := by
  unfold component? at h
  split at h
  · cases h
  · cases h
  · cases h
    rfl
  · cases h
    rfl

namespace Respelled

/-- A piece that is no component is left out before a separator. -/
theorem skip {x : List Char} (hx : component? x = none) (p q : String) :
    Respelled (p ++ "/" ++ (String.ofList x ++ "/" ++ q)) (p ++ "/" ++ q) := by
  rcases eq_of_component?_eq_none hx with rfl | rfl
  · have h := separators p q
    rwa [join_separators] at h
  · have h := current p q
    rwa [join_current] at h

/-- A piece that is no component is left out at the end. -/
theorem skip_last {x : List Char} (hx : component? x = none) (hp : p ≠ "") :
    Respelled (p ++ "/" ++ String.ofList x) p := by
  have hne : p ++ "/" ++ String.ofList x ≠ "" := by simp [hp]
  have hskip : Respelled (p ++ "/" ++ String.ofList x ++ "/") (p ++ "/") := by
    simpa only [String.append_empty, String.append_assoc] using skip hx p ""
  exact (trailing hne).symm.trans (hskip.trans (trailing hp))

/-- Pieces that follow a path are written from their components, one by one. -/
theorem spellInner_pieces (hp : p ≠ "") {xs : List (List Char)} (hxs : xs ≠ []) :
    Respelled (p ++ "/" ++ String.ofList (Text.rejoin '/' xs))
      (p ++ spellInner (xs.filterMap component?)) := by
  induction xs generalizing p with
  | nil => exact absurd rfl hxs
  | cons x xs ih =>
    cases xs with
    | nil =>
      cases hx : component? x with
      | none => simpa [hx, Text.rejoin, spellInner] using skip_last hx hp
      | some c =>
        simp only [List.filterMap_cons, List.filterMap_nil, hx, Text.rejoin, spellInner,
          text_of_component? hx, String.append_empty, String.append_assoc]
        exact refl _
    | cons y ys =>
      have hsplit : String.ofList (Text.rejoin '/' (x :: y :: ys)) =
          String.ofList x ++ "/" ++ String.ofList (Text.rejoin '/' (y :: ys)) := by
        rw [← String.toList_inj]
        simp [Text.rejoin]
      rw [hsplit]
      cases hx : component? x with
      | none =>
        rw [List.filterMap_cons_none hx]
        exact (skip hx p _).trans (ih hp (by simp))
      | some c =>
        -- the piece joins the path, and the rest is written after both
        have hrest := ih (show p ++ "/" ++ String.ofList x ≠ "" by simp [hp]) (by simp)
        rw [List.filterMap_cons_some hx, spellInner, text_of_component? hx]
        simpa only [String.append_assoc] using hrest

theorem spellInner_inner (hp : p ≠ "") (q : String) :
    Respelled (p ++ "/" ++ q) (p ++ spellInner (inner q)) := by
  have h := spellInner_pieces hp (Text.pieces_ne_nil '/' q.toList)
  rwa [Text.rejoin_pieces, String.ofList_toList] at h

end Respelled

/-- A path without separators is its only component. -/
theorem components_of_notMem (hp : p ≠ "") (hsep : '/' ∉ p.toList) :
    ∃ c, components p = [c] ∧ c.text = p := by
  have hrelative : isAbsolute p = false := by
    rw [isAbsolute, beq_eq_false_iff_ne]
    exact fun hhead => hsep (List.mem_of_head? hhead)
  simp only [components, Text.pieces_of_notMem hsep, hrelative, List.head?_cons,
    List.filterMap_cons, List.filterMap_nil]
  cases hx : component? p.toList with
  | none =>
    have hdot : p.toList = ['.'] := (eq_of_component?_eq_none hx).resolve_left (by simpa using hp)
    refine ⟨.current, by simp [hdot], ?_⟩
    rw [← String.toList_inj, hdot]
    rfl
  | some c =>
    have hdot : p.toList ≠ ['.'] := by
      intro hdot
      rw [hdot] at hx
      cases hx
    refine ⟨c, by simp [hdot], ?_⟩
    rw [text_of_component? hx, String.ofList_toList]

/-- Every path is respelled as its components are written. -/
theorem respelled_spell (p : String) : Respelled p (spell (components p)) := by
  by_cases hp : p = ""
  · subst hp
    exact .refl _
  by_cases hsep : '/' ∈ p.toList
  · obtain ⟨xs, ys, heq, hxs⟩ := List.eq_append_cons_of_mem hsep
    have hsplit : p = String.ofList xs ++ "/" ++ String.ofList ys := by
      rw [← String.toList_inj, heq]
      simp
    generalize String.ofList ys = q at hsplit
    by_cases hnil : xs = []
    · -- the root stands as a path of its own before the rest
      subst hnil
      have hroot : p = "/" ++ q := by simpa using hsplit
      have hdouble : Respelled ("/" ++ "/" ++ q) ("/" ++ q) := .separators "" q
      rw [hroot, components_absolute]
      exact hdouble.symm.trans (.spellInner_inner (by decide) q)
    · have hne : String.ofList xs ≠ "" := by simpa using hnil
      obtain ⟨c, hc, htext⟩ := components_of_notMem hne (by simpa using hxs)
      rw [hsplit, components_join hne, hc, List.singleton_append, spell, htext]
      exact .spellInner_inner hne q
  · obtain ⟨c, hc, htext⟩ := components_of_notMem hp hsep
    rw [hc, spell, spellInner, String.append_empty, htext]
    exact .refl _

/-- **Paths have the same components iff they differ only in what does not count.** -/
theorem components_eq_iff : components p = components q ↔ Respelled p q := by
  constructor
  · intro h
    have hp := respelled_spell p
    rw [h] at hp
    exact hp.trans (respelled_spell q).symm
  · exact components_of_respelled

end SnapshotLint.Path

/-
  The order of reports.

  The order compares paths by their components, then lines, columns and codes. It is total and
  transitive, but different violations may be tied in it, also in files that are written differently.
  Sorting keeps tied violations in their order (`filter_mergeSort`). As they share a code, the sorted
  list depends on what is reported under each code, and not on how the reports under different codes
  are mixed: `Violation.sort_eq_of_codes`. Sorting also commutes with leaving violations out
  (`Violation.sort_filter`) and with changing what is not compared
  (`Violation.sort_map_of_orderKey`), and the same violations in any order are sorted alike up to
  ties (`Violation.map_orderKey_sort`).
-/
import Mathlib.Data.List.Nodup
import SnapshotLint.LintResult

namespace SnapshotLint

/-! ## Sorting with ties -/

section
variable {α : Type} {le : α → α → Bool}

/-- Neither of two elements has to come before the other. -/
def Tied (le : α → α → Bool) (a b : α) : Bool := le a b && le b a

theorem tied_iff {a b : α} : Tied le a b = true ↔ le a b = true ∧ le b a = true :=
  Bool.and_eq_true_iff

variable (htrans : ∀ a b c, le a b = true → le b c = true → le a c = true)
  (htotal : ∀ a b, (le a b || le b a) = true)

include htrans htotal in
/-- Sorting keeps the order of tied elements. -/
theorem filter_mergeSort (a : α) (l : List α) :
    (l.mergeSort le).filter (Tied le a) = l.filter (Tied le a) := by
  have hsorted : (l.filter (Tied le a)).Pairwise fun b c => le b c = true := by
    refine List.pairwise_of_forall_mem_list fun b hb c hc => ?_
    have hab := tied_iff.1 (List.mem_filter.1 hb).2
    have hac := tied_iff.1 (List.mem_filter.1 hc).2
    exact htrans b a c hab.2 hac.1
  have hsublist : (l.filter (Tied le a)).Sublist ((l.mergeSort le).filter (Tied le a)) := by
    have := (List.sublist_mergeSort htrans htotal hsorted List.filter_sublist).filter (Tied le a)
    simpa only [List.filter_filter, Bool.and_self] using this
  refine (hsublist.eq_of_length ?_).symm
  exact ((List.mergeSort_perm l le).filter _).length_eq.symm

include htotal in
/-- Sorted lists are the same if tied elements come in the same order in both. -/
theorem eq_of_filter_tied {l l' : List α} (hl : l.Pairwise fun a b => le a b = true)
    (hl' : l'.Pairwise fun a b => le a b = true)
    (h : ∀ a, l.filter (Tied le a) = l'.filter (Tied le a)) : l = l' := by
  have hself : ∀ a, Tied le a a = true := by
    intro a
    have := htotal a a
    rw [Bool.or_self] at this
    exact tied_iff.2 ⟨this, this⟩
  have hmem : ∀ {l l' : List α}, (∀ a, l.filter (Tied le a) = l'.filter (Tied le a)) →
      ∀ a ∈ l, a ∈ l' := by
    intro l l' h a ha
    have ha : a ∈ l.filter (Tied le a) := List.mem_filter.2 ⟨ha, hself a⟩
    rw [h a] at ha
    exact (List.mem_filter.1 ha).1
  induction l generalizing l' with
  | nil =>
    cases l' with
    | nil => rfl
    | cons b l' => exact absurd (hmem (fun a => (h a).symm) b List.mem_cons_self) List.not_mem_nil
  | cons a l ih =>
    cases l' with
    | nil => exact absurd (hmem h a List.mem_cons_self) List.not_mem_nil
    | cons b l' =>
      -- the heads are tied, as each of them is the least of the other's list
      have hle : ∀ {x y : α} {ys : List α}, (y :: ys).Pairwise (fun a b => le a b = true) →
          x ∈ y :: ys → le y x = true := by
        intro x y ys hys hx
        rcases List.mem_cons.1 hx with rfl | hx
        · exact (tied_iff.1 (hself x)).1
        · exact (List.pairwise_cons.1 hys).1 x hx
      have hb : b ∈ a :: l := hmem (fun a => (h a).symm) b List.mem_cons_self
      have ha : a ∈ b :: l' := hmem h a List.mem_cons_self
      have hab : Tied le a b = true := tied_iff.2 ⟨hle hl hb, hle hl' ha⟩
      have hheads := h a
      rw [List.filter_cons_of_pos (hself a), List.filter_cons_of_pos hab] at hheads
      cases (List.cons.inj hheads).1
      refine congrArg (a :: ·) (ih hl.of_cons hl'.of_cons fun c => ?_)
      have hc := h c
      simp only [List.filter_cons] at hc
      split at hc
      · exact (List.cons.inj hc).2
      · exact hc

include htrans htotal in
/-- Leaving out elements before sorting or afterwards is the same. -/
theorem mergeSort_filter (keep : α → Bool) (l : List α) :
    (l.filter keep).mergeSort le = (l.mergeSort le).filter keep := by
  refine eq_of_filter_tied htotal (List.pairwise_mergeSort htrans htotal _)
    ((List.pairwise_mergeSort htrans htotal l).filter keep) fun a => ?_
  rw [filter_mergeSort htrans htotal, List.filter_comm, List.filter_comm (Tied le a),
    filter_mergeSort htrans htotal]

include htrans in
/-- Sorted lists of the same elements agree in what is the same for tied elements and for no others,
    place by place. -/
theorem map_eq_of_perm {κ : Type} {key : α → κ}
    (hkey : ∀ a b, Tied le a b = true ↔ key a = key b) {l l' : List α}
    (hl : l.Pairwise fun a b => le a b = true) (hl' : l'.Pairwise fun a b => le a b = true)
    (h : l.Perm l') : l.map key = l'.map key := by
  -- the keys are in order, and only equal keys are tied
  have hpairwise : ∀ {l : List α}, l.Pairwise (fun a b => le a b = true) →
      (l.map key).Pairwise fun k k' => ∃ a b, key a = k ∧ key b = k' ∧ le a b = true :=
    fun hl => List.pairwise_map.2 (hl.imp fun {a b} hab => ⟨a, b, rfl, rfl, hab⟩)
  refine List.Perm.eq_of_pairwise ?_ (hpairwise hl) (hpairwise hl') (h.map key)
  rintro k k' - - ⟨a, b, rfl, rfl, hab⟩ ⟨c, d, hcb, hda, hcd⟩
  have hbc := tied_iff.1 ((hkey b c).2 hcb.symm)
  have hda := tied_iff.1 ((hkey d a).2 hda)
  exact (hkey a b).1 (tied_iff.2 ⟨hab, htrans b d a (htrans b c d hbc.1 hcd) hda.1⟩)

include htrans htotal in
/-- Sorting gives the same list if tied elements come in the same order. -/
theorem mergeSort_eq_of_filter_tied {l l' : List α}
    (h : ∀ a, l.filter (Tied le a) = l'.filter (Tied le a)) : l.mergeSort le = l'.mergeSort le := by
  refine eq_of_filter_tied htotal (List.pairwise_mergeSort htrans htotal l)
    (List.pairwise_mergeSort htrans htotal l') fun a => ?_
  rw [filter_mergeSort htrans htotal, filter_mergeSort htrans htotal, h]

end

/-! ## The order -/

instance : Std.TransCmp Path.Component.cmp :=
  inferInstanceAs (Std.TransCmp (compareLex (compareOn Path.Component.rank)
    (compareOn Path.Component.label)))

instance : Std.LawfulEqCmp Path.Component.cmp where
  eq_of_compare {a b} h := by
    rw [Path.Component.cmp, Ordering.then_eq_eq, Std.LawfulEqCmp.compare_eq_iff_eq,
      Std.LawfulEqCmp.compare_eq_iff_eq] at h
    cases a <;> cases b <;> simp_all [Path.Component.rank, Path.Component.label]

theorem Path.cmpList_eq (as bs : List Component) :
    cmpList as bs = List.compareLex Component.cmp as bs := by
  induction as generalizing bs with
  | nil => cases bs <;> rfl
  | cons a as ih =>
    cases bs with
    | nil => rfl
    | cons b bs => rw [cmpList, ih, List.compareLex_cons_cons]

instance : Std.TransCmp Path.cmp := by
  have hcmp : Path.cmp = fun p q =>
      List.compareLex Path.Component.cmp (Path.components p) (Path.components q) := by
    funext p q
    exact Path.cmpList_eq _ _
  rw [hcmp]
  exact { eq_swap := Std.OrientedCmp.eq_swap, isLE_trans := Std.TransCmp.isLE_trans }

namespace Violation

instance : Std.TransCmp cmp := by
  have hfile : Std.TransCmp fun v w : Violation => Path.cmp v.location.file w.location.file :=
    { eq_swap := Std.OrientedCmp.eq_swap, isLE_trans := Std.TransCmp.isLE_trans }
  exact inferInstanceAs (Std.TransCmp (compareLex
    (fun v w : Violation => Path.cmp v.location.file w.location.file)
    (compareLex (compareOn (·.location.line))
      (compareLex (compareOn (·.location.column)) (compareOn (·.code))))))

theorem cmp_swap (v w : Violation) : w.cmp v = (v.cmp w).swap := Std.OrientedCmp.eq_swap

theorem le_iff {v w : Violation} : v.le w = true ↔ (v.cmp w).isLE = true := by
  rw [le]
  cases v.cmp w <;> decide

theorem le_trans (u v w : Violation) (huv : u.le v = true) (hvw : v.le w = true) :
    u.le w = true :=
  le_iff.2 (Std.TransCmp.isLE_trans (le_iff.1 huv) (le_iff.1 hvw))

theorem le_total (v w : Violation) : (v.le w || w.le v) = true := by
  rw [Bool.or_eq_true, le_iff, le_iff, cmp_swap v w]
  cases v.cmp w <;> decide

theorem sort_filter (keep : Violation → Bool) (vs : List Violation) :
    sort (vs.filter keep) = (sort vs).filter keep := mergeSort_filter le_trans le_total keep vs

/-- What the order compares; files that are written differently may have the same components. -/
def orderKey (v : Violation) : List Path.Component × UInt64 × UInt64 × String :=
  (Path.components v.location.file, v.location.line, v.location.column, v.code)

theorem cmp_eq_iff_orderKey {v w : Violation} : v.cmp w = .eq ↔ v.orderKey = w.orderKey := by
  rw [cmp, Path.cmp, Path.cmpList_eq]
  simp only [Ordering.then_eq_eq, Std.LawfulEqCmp.compare_eq_iff_eq, orderKey, Prod.mk.injEq]

theorem tied_iff_cmp {v w : Violation} : Tied le v w = true ↔ v.cmp w = .eq := by
  rw [tied_iff, le_iff, le_iff, cmp_swap v w]
  cases v.cmp w <;> decide

theorem tied_iff_orderKey (v w : Violation) : Tied le v w = true ↔ v.orderKey = w.orderKey :=
  tied_iff_cmp.trans cmp_eq_iff_orderKey

theorem le_congr {v v' w w' : Violation} (hv : v.orderKey = v'.orderKey)
    (hw : w.orderKey = w'.orderKey) : v.le w = v'.le w' := by
  simp only [orderKey, Prod.mk.injEq] at hv hw
  obtain ⟨hvfile, hvline, hvcolumn, hvcode⟩ := hv
  obtain ⟨hwfile, hwline, hwcolumn, hwcode⟩ := hw
  rw [le, cmp, Path.cmp, hvfile, hvline, hvcolumn, hvcode, hwfile, hwline, hwcolumn, hwcode]
  rfl

/-- Sorting does not look at what a change does outside of the key. -/
theorem sort_map_of_orderKey {f : Violation → Violation} {vs : List Violation}
    (h : ∀ v ∈ vs, (f v).orderKey = v.orderKey) : sort (vs.map f) = (sort vs).map f :=
  (List.map_mergeSort fun v hv w hw => (le_congr (h v hv) (h w hw)).symm).symm

theorem sort_map {f : Violation → Violation} (hlocation : ∀ v, (f v).location = v.location)
    (hcode : ∀ v, (f v).code = v.code) (vs : List Violation) :
    sort (vs.map f) = (sort vs).map f :=
  sort_map_of_orderKey fun v _ => by simp only [orderKey, hlocation, hcode]

theorem map_orderKey_sort {vs ws : List Violation} (h : vs.Perm ws) :
    (sort vs).map orderKey = (sort ws).map orderKey := by
  refine map_eq_of_perm le_trans tied_iff_orderKey (List.pairwise_mergeSort le_trans le_total vs)
    (List.pairwise_mergeSort le_trans le_total ws) ?_
  exact (List.mergeSort_perm vs le).trans (h.trans (List.mergeSort_perm ws le).symm)

/-- Tied violations have the same code. -/
theorem code_eq_of_tied {v w : Violation} (h : Tied le v w = true) : v.code = w.code :=
  congrArg (·.2.2.2) ((tied_iff_orderKey v w).1 h)

/-- The reports under a code, in order. -/
def under (code : String) (vs : List Violation) : List Violation := vs.filter (·.code = code)

theorem under_append (code : String) (vs ws : List Violation) :
    under code (vs ++ ws) = under code vs ++ under code ws := List.filter_append ..

theorem under_map {f : Violation → Violation} (hf : ∀ v, (f v).code = v.code) (code : String)
    (vs : List Violation) : under code (vs.map f) = (under code vs).map f := by
  rw [under, List.filter_map, under]
  simp only [Function.comp_def, hf]

/-- Reports under different codes do not get in each other's way. -/
theorem under_append_comm {vs ws : List Violation} (h : ∀ v ∈ vs, ∀ w ∈ ws, v.code ≠ w.code)
    (code : String) : under code (vs ++ ws) = under code (ws ++ vs) := by
  rw [under_append, under_append]
  by_cases hvs : under code vs = []
  · rw [hvs, List.nil_append, List.append_nil]
  · obtain ⟨v, hv⟩ := List.exists_mem_of_ne_nil _ hvs
    obtain ⟨hv, hcode⟩ := List.mem_filter.1 hv
    have hws : under code ws = [] := by
      refine List.filter_eq_nil_iff.2 fun w hw hcode' => h v hv w hw ?_
      rw [of_decide_eq_true hcode, of_decide_eq_true hcode']
    rw [hws, List.nil_append, List.append_nil]

/-- **The sorted list depends only on the reports under each code.** -/
theorem sort_eq_of_codes {vs ws : List Violation} (h : ∀ code, under code vs = under code ws) :
    sort vs = sort ws := by
  refine mergeSort_eq_of_filter_tied le_trans le_total fun v => ?_
  have htied : ∀ us : List Violation,
      us.filter (Tied le v) = (under v.code us).filter (Tied le v) := by
    intro us
    rw [under, List.filter_filter]
    refine List.filter_congr fun u _ => ?_
    cases hu : Tied le v u with
    | false => rfl
    | true => simp [code_eq_of_tied hu]
  rw [htied, h, ← htied]

end Violation

end SnapshotLint

/-
  Records that are written and read again.

  A record is written as a list of slots, of which those without a value are left out
  (`Json.written`). Its reader finds in every slot what was written there, and may enter it
  (`Record.ofJson_written`). The ways of reading a slot undo the ways of filling it
  (`Record.Shows.required` and the lemmas after it), so that a record is faithful if its parts are:
  `Json.Faithful`.
-/
import Mathlib.Data.List.Nodup
import SnapshotLint.Symbol.Codec

namespace SnapshotLint

/-! ## Maps -/

namespace OrderedMap

variable {α : Type}

theorem insertEntry_of_forall_lt {k : String} {v : α} {l : List (String × α)}
    (h : ∀ e ∈ l, e.1 < k) : insertEntry k v l = l ++ [(k, v)] := by
  induction l with
  | nil => rfl
  | cons head rest ih =>
    obtain ⟨hhead, hrest⟩ := List.forall_mem_cons.1 h
    have hgt : ¬ k < head.1 := String.lt_asymm hhead
    rw [insertEntry, if_neg hgt, if_pos hhead, ih hrest, List.cons_append]

theorem foldl_insert {m : OrderedMap α} {l : List (String × α)}
    (h : (m.entries ++ l).Pairwise (·.1 < ·.1)) :
    (l.foldl (fun m e => m.insert e.1 e.2) m).entries = m.entries ++ l := by
  induction l generalizing m with
  | nil => rw [List.foldl_nil, List.append_nil]
  | cons e l ih =>
    have hlast : (m.insert e.1 e.2).entries = m.entries ++ [e] :=
      insertEntry_of_forall_lt fun e' he' =>
        (List.pairwise_append.1 h).2.2 e' he' e List.mem_cons_self
    have happend : (m.insert e.1 e.2).entries ++ l = m.entries ++ e :: l := by
      rw [hlast, List.append_assoc, List.singleton_append]
    rw [List.foldl_cons, ih (by rwa [happend]), happend]

/-- A map is made of its entries. -/
theorem ofList_entries (m : OrderedMap α) : ofList m.entries = m := by
  have hentries : (ofList m.entries).entries = m.entries := foldl_insert m.ordered
  cases hm : ofList m.entries
  cases m
  simp_all

end OrderedMap

namespace Json

variable {α : Type}

/-! ## Levels -/

theorem depth_lt_of_mem_items {j : Json} {items : List Json} (h : j ∈ items) :
    j.depth < (Json.arr items).depth := by
  rw [depth, Nat.lt_succ_iff]
  induction items with
  | nil => cases h
  | cons item items ih =>
    rw [depthItems]
    rcases List.mem_cons.1 h with rfl | h
    · exact Nat.le_max_left _ _
    · exact Nat.le_trans (ih h) (Nat.le_max_right _ _)

theorem depth_lt_of_mem_fields {field : Literal × Json} {fields : List (Literal × Json)}
    (h : field ∈ fields) : field.2.depth < (Json.obj fields).depth := by
  rw [depth, Nat.lt_succ_iff]
  induction fields with
  | nil => cases h
  | cons head fields ih =>
    rw [depthFields]
    rcases List.mem_cons.1 h with rfl | h
    · exact Nat.le_max_left _ _
    · exact Nat.le_trans (ih h) (Nat.le_max_right _ _)

theorem levels_of_lt {n levels : Nat} (h : n < levels) :
    ∃ inner, levels = inner + 1 ∧ n ≤ inner := by
  cases levels with
  | zero => omega
  | succ inner => exact ⟨inner, rfl, by omega⟩

theorem enter_succ (levels : Nat) : enter (levels + 1) = .ok levels := rfl

theorem ok_bind {β : Type} (a : α) (f : α → Decoded β) : ((.ok a : Decoded α) >>= f) = f a := rfl

/-- What is written with at most so many levels is read back by a reader that may enter them. -/
def FaithfulAt (levels : Nat) (toJson : α → Json) (decode : Decoder α) : Prop :=
  ∀ a, (toJson a).depth ≤ levels → decode levels (toJson a) = .ok a

/-- What is written is read back, if the reader may enter all levels of it. -/
def Faithful (toJson : α → Json) (decode : Decoder α) : Prop :=
  ∀ levels, FaithfulAt levels toJson decode

/-- A faithful form is written differently for different data. -/
theorem Faithful.injective {toJson : α → Json} {decode : Decoder α} (h : Faithful toJson decode) :
    Function.Injective toJson := by
  intro a b heq
  have ha := h _ a (Nat.le_refl _)
  have hb := h _ b (Nat.le_refl _)
  rw [heq, hb] at ha
  exact (Except.ok.inj ha).symm

/-! ## Lists and maps -/

theorem mapM_map_ok {β : Type} {f : α → β} {g : β → Decoded α} {xs : List α}
    (h : ∀ x ∈ xs, g (f x) = .ok x) : (xs.map f).mapM g = .ok xs := by
  induction xs with
  | nil => rfl
  | cons x xs ih =>
    obtain ⟨hx, hxs⟩ := List.forall_mem_cons.1 h
    rw [List.map_cons, List.mapM_cons, hx, ih hxs]
    rfl

theorem decodeItems_list {toJson : α → Json} {decode : Decoder α} {levels : Nat}
    (h : ∀ inner < levels, FaithfulAt inner toJson decode) {xs : List α}
    (hdepth : (list toJson xs).depth ≤ levels) :
    decodeItems decode levels (list toJson xs) = .ok xs := by
  obtain ⟨inner, rfl, hinner⟩ := levels_of_lt hdepth
  refine mapM_map_ok fun x hx => h inner (Nat.lt_succ_self inner) x ?_
  have hlt := depth_lt_of_mem_items (List.mem_map_of_mem (f := toJson) hx)
  exact Nat.le_trans (Nat.le_of_lt_succ hlt) hinner

theorem decodeMap_record {toJson : α → Json} {item : Json → Decoded α}
    (h : ∀ a, item (toJson a) = .ok a) (m : OrderedMap α) :
    decodeMap item (.record (m.entries.map fun e => (e.1, toJson e.2))) = .ok m := by
  rw [record, decodeMap, List.map_map, mapM_map_ok]
  · exact congrArg Except.ok m.ofList_entries
  · intro e _
    simp only [Function.comp, h]
    rfl

/-! ## Slots -/

/-- A field of a record, with no value where the field is left out. -/
abbrev Slot := String × Option Json

/-- The fields that are not left out. -/
def present (slots : List Slot) : List (String × Json) :=
  slots.filterMap fun slot => slot.2.map (slot.1, ·)

/-- A record with some fields left out. -/
def written (slots : List Slot) : Json := .record (present slots)

/-- The value of a field that is left out where the list is empty. -/
def itemsValue (toJson : α → Json) : List α → Option Json
  | [] => none
  | xs => some (.list toJson xs)

/-- The value of a field that is left out where the map is empty. -/
def entriesValue (toJson : α → Json) (m : OrderedMap α) : Option Json :=
  if m.isEmpty then none else some (.record (m.entries.map fun e => (e.1, toJson e.2)))

@[simp] theorem present_nil : present [] = [] := rfl

@[simp] theorem present_cons (name : String) (value : Option Json) (slots : List Slot) :
    present ((name, value) :: slots) = (value.map (name, ·)).toList ++ present slots := by
  cases value <;> rfl

theorem optionalField_eq (name : String) (toJson : α → Json) (o : Option α) :
    optionalField name toJson o = ((o.map toJson).map (name, ·)).toList := by
  cases o <;> rfl

theorem listField_eq (name : String) (toJson : α → Json) (xs : List α) :
    listField name toJson xs = ((itemsValue toJson xs).map (name, ·)).toList := by
  cases xs <;> rfl

theorem mapField_eq (name : String) (toJson : α → Json) (m : OrderedMap α) :
    (if m.isEmpty then [] else [(name, .record (m.entries.map fun e => (e.1, toJson e.2)))]) =
      ((entriesValue toJson m).map (name, ·)).toList := by
  rw [entriesValue]
  split <;> rfl

variable {slots : List Slot}

theorem mem_present {name : String} {j : Json} :
    (name, j) ∈ present slots ↔ (name, some j) ∈ slots := by
  rw [present, List.mem_filterMap]
  constructor
  · rintro ⟨⟨name', value⟩, hslot, hvalue⟩
    obtain ⟨j', rfl, heq⟩ := Option.map_eq_some_iff.1 hvalue
    cases heq
    exact hslot
  · exact fun hslot => ⟨_, hslot, rfl⟩

theorem names_present (slots : List Slot) :
    ((present slots).map (·.1)).Sublist (slots.map (·.1)) := by
  induction slots with
  | nil => exact .slnil
  | cons slot slots ih =>
    obtain ⟨name, _ | j⟩ := slot
    · exact ih.cons name
    · exact ih.cons_cons name

namespace Record

theorem collect_of_nodup {names : List String} {fields : List (String × Json)}
    (hnames : ∀ f ∈ fields, f.1 ∈ names) (hnodup : (fields.map (·.1)).Nodup) :
    collect names (fields.map fun f => (some f.1, f.2)) = .ok fields := by
  induction fields with
  | nil => rfl
  | cons f fields ih =>
    obtain ⟨hf, hfields⟩ := List.forall_mem_cons.1 hnames
    obtain ⟨hfresh, hrest⟩ := List.nodup_cons.1 hnodup
    have hknown : names.contains f.1 = true := List.contains_iff_mem.2 hf
    have hnew : (fields.any (·.1 == f.1)) = false := by
      rw [List.any_eq_false]
      exact fun f' hf' heq => hfresh (List.mem_map.2 ⟨f', hf', beq_iff_eq.1 heq⟩)
    rw [List.map_cons, collect, ih hfields hrest]
    simp only [bind, Except.bind, hknown, hnew]
    rfl

/-- The reader finds in a slot what was written there, and may enter it. -/
structure Shows (r : Record) (levels : Nat) (slot : Slot) : Prop where
  find?_eq : r.find? slot.1 = slot.2
  depth_le : ∀ j, slot.2 = some j → j.depth ≤ levels

theorem find?_present (hnodup : (slots.map (·.1)).Nodup) {slot : Slot} (hslot : slot ∈ slots)
    (positional : Bool) : find? ⟨present slots, positional⟩ slot.1 = slot.2 := by
  obtain ⟨name, value⟩ := slot
  rw [find?]
  cases hfind : (present slots).find? (·.1 == name) with
  | none =>
    cases value with
    | none => rfl
    | some j =>
      have hne := List.find?_eq_none.1 hfind _ (mem_present.2 hslot)
      exact absurd (beq_self_eq_true name) hne
  | some f =>
    -- names are not repeated, so the field that is found is the one of the slot
    have hname : f.1 = name := by simpa using List.find?_some hfind
    have hf : (name, some f.2) ∈ slots := mem_present.1 (hname ▸ List.mem_of_find?_eq_some hfind)
    have heq := List.inj_on_of_nodup_map hnodup hf hslot rfl
    exact (Prod.mk.inj heq).2

/-- **A record is read back slot by slot.** -/
theorem ofJson_written (names : List String) (hnames : slots.map (·.1) = names)
    (hnodup : names.Nodup) {levels : Nat} (hdepth : (written slots).depth ≤ levels) :
    ∃ inner r, levels = inner + 1 ∧ ofJson names (written slots) = .ok r ∧
      r.positional = false ∧ ∀ slot ∈ slots, r.Shows inner slot := by
  subst hnames
  obtain ⟨inner, rfl, hinner⟩ := levels_of_lt hdepth
  have hcollect : collect (slots.map (·.1)) ((present slots).map fun f => (some f.1, f.2)) =
      .ok (present slots) := by
    refine collect_of_nodup (fun f hf => ?_) (hnodup.sublist (names_present slots))
    exact List.mem_map_of_mem (f := (·.1)) (mem_present.1 hf)
  refine ⟨inner, ⟨present slots, false⟩, rfl, ?_, rfl, fun slot hslot => ⟨?_, fun j hj => ?_⟩⟩
  · rw [written, record, ofJson, hcollect]
    rfl
  · exact find?_present hnodup hslot false
  · have hfield : (slot.1, j) ∈ present slots := mem_present.2 (hj ▸ hslot)
    have hlt := depth_lt_of_mem_fields
      (List.mem_map_of_mem (f := fun f : String × Json => ((some f.1, f.2) : Literal × Json))
        hfield)
    exact Nat.le_trans (Nat.le_of_lt_succ hlt) hinner

namespace Shows

variable {r : Record} {levels : Nat} {name : String} {item : Json → Decoded α} {toJson : α → Json}

theorem required {j : Json} {a : α} (h : r.Shows levels (name, some j))
    (hitem : j.depth ≤ levels → item j = .ok a) : r.required name item = .ok a := by
  rw [Record.required, h.find?_eq]
  exact hitem (h.depth_le j rfl)

theorem orElse {j : Json} {a default : α} (h : r.Shows levels (name, some j))
    (hitem : j.depth ≤ levels → item j = .ok a) : r.orElse name item default = .ok a := by
  rw [Record.orElse, h.find?_eq]
  exact hitem (h.depth_le j rfl)

theorem decodeNullable_of_ne {j : Json} {a : α} (hne : j ≠ .null) (hitem : item j = .ok a) :
    decodeNullable item j = .ok (some a) := by
  rw [decodeNullable, hitem]
  · rfl
  · exact hne

variable (hnull : ∀ a, toJson a ≠ .null)
  (hitem : ∀ a, (toJson a).depth ≤ levels → item (toJson a) = .ok a)
include hnull hitem

theorem optional {o : Option α} (h : r.Shows levels (name, o.map toJson)) :
    r.optional name item = .ok o := by
  rw [Record.optional, Record.orElse, h.find?_eq]
  cases o with
  | none => rfl
  | some a => exact decodeNullable_of_ne (hnull a) (hitem a (h.depth_le _ rfl))

theorem nullable {o : Option α} (hpositional : r.positional = false)
    (h : r.Shows levels (name, some (ofOption toJson o))) : r.nullable name item = .ok o := by
  rw [Record.nullable, hpositional, if_neg Bool.false_ne_true, Record.optional]
  cases o with
  | none => exact h.orElse fun _ => rfl
  | some a => exact h.orElse fun hdepth => decodeNullable_of_ne (hnull a) (hitem a hdepth)

omit hnull hitem

theorem items {decode : Decoder α} (hdecode : ∀ inner < levels, FaithfulAt inner toJson decode)
    {xs : List α} (h : r.Shows levels (name, itemsValue toJson xs)) :
    r.orElse name (decodeItems decode levels) [] = .ok xs := by
  cases xs with
  | nil => rw [Record.orElse, h.find?_eq]; rfl
  | cons x xs => exact Shows.orElse h fun hdepth => decodeItems_list hdecode hdepth

theorem entries (hitem : ∀ a, item (toJson a) = .ok a) {m : OrderedMap α}
    (h : r.Shows levels (name, entriesValue toJson m)) :
    r.orElse name (fun j => do
      let _ ← enter levels
      decodeMap item j) .empty = .ok m := by
  rw [entriesValue] at h
  split at h
  · next hempty =>
    rw [Record.orElse, h.find?_eq]
    obtain ⟨entries, hordered⟩ := m
    cases entries with
    | nil => rfl
    | cons e entries => cases hempty
  · refine Shows.orElse h fun hdepth => ?_
    obtain ⟨inner, rfl, -⟩ := levels_of_lt hdepth
    exact decodeMap_record hitem m

end Shows

end Record

end Json

end SnapshotLint

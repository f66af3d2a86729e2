/-
  The grammar of hooks.

  What a member is as a hook is read off its parameters and, in the classic shape, off its name.

  * `HasGenericSignature`, `HasClassicSignature`: the parameters of the two shapes, with the readers
    `genericKind?_eq_some_iff` and `classicKind?_eq_some_iff`; a signature is that of one event.
  * `CutAtUnderscores`: the classic names, by their segments. To count the underscores of a name and
    to look at its two ends is the same (`hasValidName_iff`), and what the segments say is what the
    name is put together from (`CutAtUnderscores.joined`).
  * `classify_grammar`: the members that are hooks, and the record and the field of a classic one.
-/
import SnapshotLint.Proofs.HookKey

namespace SnapshotLint

/-! ## The two shapes -/

theorem EventKind.ofName?_eq_some_iff {s : String} {kind : EventKind} :
    ofName? s = some kind ↔ s = kind.name := by
  constructor
  · intro h
    have hname := List.find?_some h
    exact (beq_iff_eq.1 hname).symm
  · rintro rfl
    exact ofName?_name kind

/-- The member takes one parameter, whose type has type arguments and is named after the event. -/
def HasGenericSignature (f : Framework) (kind : EventKind) (m : Member) : Prop :=
  ∃ p, m.parameters = [p] ∧ p.type.args ≠ [] ∧ p.type.name = f.eventsPrefix ++ kind.name

/-- The member takes the cache and the arguments of the event; for an attached cache, which has no
    arguments, it takes only the cache, and its name tells the event. -/
inductive HasClassicSignature (f : Framework) : EventKind → Member → Prop
  | cacheAttached {m : Member} {sender : Parameter} (start : String) : m.parameters = [sender] →
      sender.type.name = f.cache → m.name = start ++ "_CacheAttached" →
      HasClassicSignature f .cacheAttached m
  | other {kind : EventKind} {m : Member} {sender args : Parameter} : kind ≠ .cacheAttached →
      m.parameters = [sender, args] → sender.type.name = f.cache →
      args.type.name = "PX" ++ kind.name ++ "EventArgs" → HasClassicSignature f kind m

/-- The segments of the name of a classic hook: the record, for the events of a field the field, and
    a last one. Only the segment between two others may be empty. -/
inductive CutAtUnderscores (name : String) :
    EventCategory → Option String → Option String → Prop
  | row {dac last : String} : Text.segments '_' name = [dac, last] → dac ≠ "" → last ≠ "" →
      CutAtUnderscores name .row (some dac) none
  | field {dac field last : String} : Text.segments '_' name = [dac, field, last] → dac ≠ "" →
      last ≠ "" → CutAtUnderscores name .field (some dac) (some field)

/-- The name is put together from parts without underscores. -/
inductive JoinedByUnderscores : String → EventCategory → Option String → Option String → Prop
  | row {dac last : String} : '_' ∉ dac.toList → '_' ∉ last.toList →
      JoinedByUnderscores (dac ++ "_" ++ last) .row (some dac) none
  | field {dac field last : String} : '_' ∉ dac.toList → '_' ∉ field.toList → '_' ∉ last.toList →
      JoinedByUnderscores (dac ++ "_" ++ field ++ "_" ++ last) .field (some dac) (some field)

/-- The segments tell what the name is put together from. -/
theorem CutAtUnderscores.joined {name : String} {category : EventCategory}
    {dac field : Option String} (h : CutAtUnderscores name category dac field) :
    JoinedByUnderscores name category dac field := by
  cases h with
  | @row dac last hcut _ _ =>
    obtain ⟨hjoin, hpart⟩ := Text.rejoin_of_segments hcut
    have hname : name = dac ++ "_" ++ last := by
      rw [← String.toList_inj, ← hjoin]
      simp [Text.rejoin]
    rw [hname]
    exact .row (hpart dac (by simp)) (hpart last (by simp))
  | @field dac field last hcut _ _ =>
    obtain ⟨hjoin, hpart⟩ := Text.rejoin_of_segments hcut
    have hname : name = dac ++ "_" ++ field ++ "_" ++ last := by
      rw [← String.toList_inj, ← hjoin]
      simp [Text.rejoin]
    rw [hname]
    exact .field (hpart dac (by simp)) (hpart field (by simp)) (hpart last (by simp))

namespace EventHook

variable {f : Framework} {kind : EventKind} {m : Member} {name : String}
  {category : EventCategory} {dac field : Option String}

/-! ## Signatures -/

theorem genericKind?_eq_some_iff : genericKind? f m = some kind ↔ HasGenericSignature f kind m := by
  unfold genericKind? HasGenericSignature
  constructor
  · intro h
    split at h
    · next p hp =>
      split at h
      · cases h
      · next hargs =>
        obtain ⟨rest, hrest, hkind⟩ := Option.bind_eq_some_iff.1 h
        rw [EventKind.ofName?_eq_some_iff] at hkind
        subst hkind
        exact ⟨p, hp, by simpa using hargs, eq_append_of_dropStart? hrest⟩
    · cases h
  · rintro ⟨p, hp, hargs, hname⟩
    simp [hp, hargs, hname, dropStart?_append, EventKind.ofName?_name]

/-- No two events have the same type of arguments. -/
theorem find?_eventArgsType_eq_some_iff {type : String} :
    ((EventKind.all.filter (· ≠ .cacheAttached)).find? fun k =>
      type == Framework.eventArgsType k.name) = some kind ↔
        kind ≠ .cacheAttached ∧ type = Framework.eventArgsType kind.name := by
  constructor
  · intro h
    have hmem : kind ∈ EventKind.all.filter (· ≠ .cacheAttached) := List.mem_of_find?_eq_some h
    exact ⟨by simpa using (List.mem_filter.1 hmem).2, by simpa using List.find?_some h⟩
  · rintro ⟨hkind, rfl⟩
    exact find?_eventArgsType hkind

theorem isSuffixOf_cacheAttached_iff :
    cacheAttachedSuffix.toList.isSuffixOf name.toList = true ↔
      ∃ start, name = start ++ "_CacheAttached" := by
  rw [List.isSuffixOf_iff_suffix]
  constructor
  · rintro ⟨start, hstart⟩
    refine ⟨String.ofList start, ?_⟩
    rw [← String.toList_inj, ← hstart, String.toList_append, String.toList_ofList]
    rfl
  · rintro ⟨start, rfl⟩
    rw [String.toList_append]
    exact List.suffix_append _ _

theorem classicKind?_eq_some_iff : classicKind? f m = some kind ↔ HasClassicSignature f kind m := by
  constructor
  · intro h
    unfold classicKind? at h
    split at h
    · next sender hm =>
      split at h
      · next hsender =>
        rw [Bool.and_eq_true, beq_iff_eq, isSuffixOf_cacheAttached_iff] at hsender
        obtain ⟨hcache, start, hname⟩ := hsender
        cases h
        exact .cacheAttached start hm hcache hname
      · cases h
    · next sender args hm =>
      split at h
      · next hcache =>
        obtain ⟨hkind, hargs⟩ := find?_eventArgsType_eq_some_iff.1 h
        exact .other hkind hm (beq_iff_eq.1 hcache) hargs
      · cases h
    · cases h
  · rintro (⟨start, hm, hcache, hname⟩ | ⟨hkind, hm, hcache, hargs⟩)
    · have hsuffix := isSuffixOf_cacheAttached_iff.2 ⟨start, hname⟩
      simp [classicKind?, hm, hcache, hsuffix]
    · simp only [classicKind?, hm, hcache, beq_self_eq_true, if_true]
      exact find?_eventArgsType_eq_some_iff.2 ⟨hkind, hargs⟩

/-! ## Names -/

/-- A name with the right number of underscores is valid if neither end is empty. -/
theorem hasValidName_iff_ends {start last : String} {xs ys : List Char}
    (hcount : name.toList.count '_' = category.underscores)
    (hstart : name.toList = start.toList ++ '_' :: ys)
    (hlast : name.toList = xs ++ '_' :: last.toList)
    (hstart_sep : '_' ∉ start.toList) (hlast_sep : '_' ∉ last.toList) :
    hasValidName category name = true ↔ start ≠ "" ∧ last ≠ "" := by
  have hhead : name.toList.head? ≠ some '_' ↔ start ≠ "" := by
    rw [hstart, Text.head?_ne_sep_iff hstart_sep]
    simp
  have hend : name.toList.getLast? ≠ some '_' ↔ last ≠ "" := by
    rw [hlast, Text.getLast?_ne_sep_iff hlast_sep]
    simp
  simp only [hasValidName, Bool.and_eq_true, bne_iff_ne, beq_iff_eq, hhead, hend, hcount, and_true]

theorem hasValidName_row_iff {dac last : String} (hcut : Text.segments '_' name = [dac, last]) :
    hasValidName .row name = true ↔ dac ≠ "" ∧ last ≠ "" := by
  obtain ⟨hjoin, hpart⟩ := Text.rejoin_of_segments hcut
  have hcount : name.toList.count '_' = 1 := by
    simpa [hcut] using (Text.length_segments '_' name).symm
  exact hasValidName_iff_ends hcount hjoin.symm hjoin.symm (hpart dac (by simp))
    (hpart last (by simp))

theorem hasValidName_field_iff {dac field last : String}
    (hcut : Text.segments '_' name = [dac, field, last]) :
    hasValidName .field name = true ↔ dac ≠ "" ∧ last ≠ "" := by
  obtain ⟨hjoin, hpart⟩ := Text.rejoin_of_segments hcut
  have hcount : name.toList.count '_' = 2 := by
    simpa [hcut] using (Text.length_segments '_' name).symm
  have hlast : name.toList = (dac.toList ++ '_' :: field.toList) ++ '_' :: last.toList := by
    rw [← hjoin]
    simp [Text.rejoin]
  exact hasValidName_iff_ends hcount hjoin.symm hlast (hpart dac (by simp)) (hpart last (by simp))

/-- To count underscores and to look at both ends is to cut the name. -/
theorem hasValidName_iff :
    hasValidName category name = true ↔ ∃ dac field, CutAtUnderscores name category dac field := by
  constructor
  · intro hvalid
    have hcount : (Text.segments '_' name).length = category.underscores + 1 := by
      simp only [hasValidName, Bool.and_eq_true, beq_iff_eq] at hvalid
      rw [Text.length_segments, hvalid.2]
    cases category with
    | row =>
      obtain ⟨dac, last, hcut⟩ := List.length_eq_two.1 hcount
      obtain ⟨hdac, hlast⟩ := (hasValidName_row_iff hcut).1 hvalid
      exact ⟨_, _, .row hcut hdac hlast⟩
    | field =>
      obtain ⟨dac, field, last, hcut⟩ := List.length_eq_three.1 hcount
      obtain ⟨hdac, hlast⟩ := (hasValidName_field_iff hcut).1 hvalid
      exact ⟨_, _, .field hcut hdac hlast⟩
  · rintro ⟨dac, field, hcut⟩
    cases hcut with
    | row hcut hdac hlast => exact (hasValidName_row_iff hcut).2 ⟨hdac, hlast⟩
    | field hcut hdac hlast => exact (hasValidName_field_iff hcut).2 ⟨hdac, hlast⟩

theorem classicTargets_of_cut (h : CutAtUnderscores name category dac field) :
    classicTargets category name = (dac, field) := by
  cases h with
  | row hcut _ _ | field hcut _ _ => simp [classicTargets, hcut]

/-! ## Hooks -/

/-- What is classified is a method of an instance, and it is a classic hook only if it is no generic
    one. -/
theorem classify_cases {d : HookDescriptor} (h : classify f m = some d) :
    m.kind = .method ∧ m.isStatic = false ∧
      (genericKind? f m = some d.kind ∧ d.shape = .generic ∨
        genericKind? f m = none ∧ classicKind? f m = some d.kind ∧
          hasValidName d.kind.category m.name = true ∧ d.shape = .classic) := by
  unfold classify at h
  split at h
  · cases h
  · next hplain =>
    simp only [not_or, ne_eq, not_not, Bool.not_eq_true] at hplain
    refine ⟨hplain.1, hplain.2.1, ?_⟩
    split at h
    · next hkind =>
      cases h
      exact .inl ⟨hkind, rfl⟩
    · next hgeneric =>
      split at h
      · next hkind =>
        split at h
        · next hvalid =>
          cases h
          exact .inr ⟨hgeneric, hkind, hvalid, rfl⟩
        · cases h
      · cases h

theorem classify_generic_iff :
    classify f m = some ⟨kind, .generic⟩ ↔
      m.kind = .method ∧ m.isStatic = false ∧ HasGenericSignature f kind m := by
  rw [← genericKind?_eq_some_iff]
  constructor
  · intro h
    obtain ⟨hmethod, hstatic, ⟨hkind, -⟩ | ⟨-, -, -, hshape⟩⟩ := classify_cases h
    · exact ⟨hmethod, hstatic, hkind⟩
    · cases hshape
  · rintro ⟨hmethod, hstatic, hkind⟩
    obtain ⟨p, hm, -⟩ := genericKind?_eq_some_iff.1 hkind
    rw [classify, if_neg (by simp [hmethod, hstatic, hm]), hkind]

theorem classify_classic_iff :
    classify f m = some ⟨kind, .classic⟩ ↔
      m.kind = .method ∧ m.isStatic = false ∧ (∀ kind', ¬ HasGenericSignature f kind' m) ∧
        HasClassicSignature f kind m ∧
        ∃ dac field, CutAtUnderscores m.name kind.category dac field := by
  simp only [← genericKind?_eq_some_iff, ← classicKind?_eq_some_iff, ← hasValidName_iff,
    ← Option.eq_none_iff_forall_ne_some]
  constructor
  · intro h
    obtain ⟨hmethod, hstatic, ⟨-, hshape⟩ | ⟨hgeneric, hkind, hvalid, -⟩⟩ := classify_cases h
    · cases hshape
    · exact ⟨hmethod, hstatic, hgeneric, hkind, hvalid⟩
  · rintro ⟨hmethod, hstatic, hgeneric, hkind, hvalid⟩
    have hlength : m.parameters.length ≤ 2 := by
      cases classicKind?_eq_some_iff.1 hkind with
      | cacheAttached _ hm | other _ hm => simp [hm]
    rw [classify, if_neg (by simp [hmethod, hstatic, hlength]), hgeneric, hkind]
    simp [hvalid]

/-- **The grammar of hooks.** A member is a classic hook for an event iff it is a method of an
    instance whose parameters are not those of a generic hook but those of a classic one, and whose
    name is cut at its underscores into as many segments as the category of the event asks for,
    with something at both ends. The hook is then for the record and the field that the segments
    are, and the name is put together from them. -/
theorem classify_grammar (f : Framework) (m : Member) (kind : EventKind) :
    (classify f m = some ⟨kind, .generic⟩ ↔
      m.kind = .method ∧ m.isStatic = false ∧ HasGenericSignature f kind m) ∧
    (classify f m = some ⟨kind, .classic⟩ ↔
      m.kind = .method ∧ m.isStatic = false ∧ (∀ kind', ¬ HasGenericSignature f kind' m) ∧
        HasClassicSignature f kind m ∧
        ∃ dac field, CutAtUnderscores m.name kind.category dac field) ∧
    (classify f m = some ⟨kind, .classic⟩ → ∀ h : MemberHandle, h.member = m →
      ∃ dac field, ofMember? f h = some ⟨h, ⟨kind, .classic⟩, dac, field⟩ ∧
        CutAtUnderscores m.name kind.category dac field ∧
        JoinedByUnderscores m.name kind.category dac field) := by
  refine ⟨classify_generic_iff, classify_classic_iff, ?_⟩
  rintro hclassify h rfl
  obtain ⟨-, -, -, -, dac, field, hcut⟩ := classify_classic_iff.1 hclassify
  refine ⟨dac, field, ?_, hcut, hcut.joined⟩
  simp only [ofMember?, hclassify, Option.map_some, HookDescriptor.category, MemberHandle.name,
    classicTargets_of_cut hcut]

/-- The field is whatever stands between two underscores, and this may be nothing. -/
example :
    (ofMember? {} ⟨{ symbol := { name := "OrderEntry" } }, 0,
      { name := "Order__FieldUpdated", kind := .method
        parameters := [⟨"sender", ⟨"PXCache", []⟩⟩, ⟨"e", ⟨"PXFieldUpdatedEventArgs", []⟩⟩] }⟩).map
          (fun h => (h.dac, h.field)) = some (some "Order", some "") := by
  decide

end EventHook

end SnapshotLint

/-
  The keys of event hooks.

  A hook for a record, or for a field of a record, is written in the classic shape or in one of the
  generic shapes (`IsHook`). Whatever its shape, it is classified under its event, and its key is
  the name that the classic hook has (`ofMember?_of_isHook`). The classic name tells the record and
  the field (`classicName_inj`), so that hooks override each other if and only if they are for the
  same event of the same thing: `key_eq_iff`.
-/
import Mathlib.Data.List.Basic
import Mathlib.Tactic.IntervalCases
import SnapshotLint.Event.Hook
import SnapshotLint.Proofs.Segmentation

namespace SnapshotLint

/-! ## Names -/

namespace Text

variable {s : String}

theorem pieces_qualified (outer : String) (h : '.' ∉ s.toList) :
    pieces '.' (outer ++ "." ++ s).toList = pieces '.' outer.toList ++ [s.toList] := by
  have hlist : (outer ++ "." ++ s).toList = outer.toList ++ '.' :: s.toList := by simp
  rw [hlist, pieces_append_cons, pieces_of_notMem h]

theorem simpleName_qualified (outer : String) (h : '.' ∉ s.toList) :
    simpleName (outer ++ "." ++ s) = s := by
  rw [simpleName, pieces_qualified outer h]
  simp

theorem containingName_qualified (outer : String) (h : '.' ∉ s.toList) :
    containingName (outer ++ "." ++ s) = some outer := by
  rw [containingName, pieces_qualified outer h, List.dropLast_concat]
  split
  · next hnil => exact absurd hnil (pieces_ne_nil '.' outer.toList)
  · rw [rejoin_pieces, String.ofList_toList]

/-- The letters `A` to `Z` have lower case forms from which they come back. -/
theorem lower_of_isUpper {c : Char} (h : c.isUpper = true) :
    ∃ l, lower c = [l] ∧ upper l = [c] ∧ l ≠ '.' := by
  have hcode : 'A'.val ≤ c.val ∧ c.val ≤ 'Z'.val := of_decide_eq_true h
  have hrange : 65 ≤ c.toNat ∧ c.toNat ≤ 90 := by
    simpa [UInt32.le_iff_toNat_le] using hcode
  have hc : c = Char.ofNat c.toNat := (Char.ofNat_toNat c).symm
  obtain ⟨hlo, hhi⟩ := hrange
  generalize c.toNat = n at *
  subst hc
  interval_cases n <;> exact ⟨_, rfl, rfl, by decide⟩

theorem capitalize_decapitalize {c : Char} {cs : List Char} (hs : s.toList = c :: cs)
    (hc : c.isUpper = true) : capitalize (decapitalize s) = s := by
  obtain ⟨l, hlower, hupper, -⟩ := lower_of_isUpper hc
  have hs' : s = String.ofList (c :: cs) := by rw [← hs, String.ofList_toList]
  simp [capitalize, decapitalize, hs, hlower, hupper, ← hs']

theorem dot_notMem_decapitalize {c : Char} {cs : List Char} (hs : s.toList = c :: cs)
    (hc : c.isUpper = true) (hdot : '.' ∉ s.toList) : '.' ∉ (decapitalize s).toList := by
  obtain ⟨l, hlower, -, hl⟩ := lower_of_isUpper hc
  rw [hs, List.mem_cons, not_or] at hdot
  simp [decapitalize, hs, hlower, Ne.symm hl, hdot.2]

end Text

/-- The name of a data access class, as hooks can be written for it. -/
@[ext] structure DacName where
  name : String
  nonempty : name ≠ ""
  no_underscore : '_' ∉ name.toList

/-- The name of a field, as hooks can be written for it. -/
@[ext] structure FieldName where
  name : String
  no_underscore : '_' ∉ name.toList
  no_dot : '.' ∉ name.toList
  capital : ∃ c cs, name.toList = c :: cs ∧ c.isUpper = true

/-- The name of the class that stands for the field. -/
def FieldName.className (field : FieldName) : String := Text.decapitalize field.name

/-- What a hook is for. -/
inductive HookTarget where
  | row (dac : DacName)
  | field (dac : DacName) (field : FieldName)

namespace HookTarget

/-- The category of the events that concern the target. -/
def category : HookTarget → EventCategory
  | row _ => .row
  | field _ _ => .field

/-- The name of a classic hook. -/
def classicName (kind : EventKind) : HookTarget → String
  | row dac => dac.name ++ "_" ++ kind.name
  | field dac fld => dac.name ++ "_" ++ fld.name ++ "_" ++ kind.name

/-- The type arguments of a generic hook: the record and, for a field, its class in any type, or
    only the class of the field in the record. -/
inductive IsArgs : HookTarget → List TypeRef → Prop
  | row {dac : DacName} {d : TypeRef} : d.name = dac.name → IsArgs (.row dac) [d]
  | recordAndField {dac : DacName} {field : FieldName} {d x : TypeRef} (outer : String) :
    d.name = dac.name → x.name = outer ++ "." ++ field.className →
      IsArgs (.field dac field) [d, x]
  | field {dac : DacName} {field : FieldName} {x : TypeRef} :
    x.name = dac.name ++ "." ++ field.className → IsArgs (.field dac field) [x]

theorem IsArgs.isEmpty {target : HookTarget} {args : List TypeRef} (h : target.IsArgs args) :
    args.isEmpty = false := by
  cases h <;> rfl

/-- The classic name: the record, perhaps the field, and the event, with underscores between. -/
theorem toList_classicName (kind : EventKind) (target : HookTarget) : ∃ start mid,
    (target.classicName kind).toList = start ++ (mid ++ '_' :: kind.name.toList) ∧
      start ≠ [] ∧ '_' ∉ start ∧ mid.count '_' + 1 = target.category.underscores := by
  cases target with
  | row dac =>
    refine ⟨dac.name.toList, [], by simp [classicName], ?_, dac.no_underscore, rfl⟩
    simpa using dac.nonempty
  | field dac fld =>
    refine ⟨dac.name.toList, '_' :: fld.name.toList, by simp [classicName], ?_, dac.no_underscore, ?_⟩
    · simpa using dac.nonempty
    · rw [List.count_cons_self, List.count_eq_zero_of_not_mem fld.no_underscore]
      rfl

/-- The classic name tells the target. -/
theorem classicName_inj {kind : EventKind} {target target' : HookTarget}
    (hcategory : target.category = target'.category)
    (h : target.classicName kind = target'.classicName kind) : target = target' := by
  cases target with
  | row dac =>
    cases target' with
    | row dac' =>
      have hname : dac.name = dac'.name := by simpa [classicName] using h
      rw [DacName.ext hname]
    | field dac' fld' => cases hcategory
  | field dac fld =>
    cases target' with
    | row dac' => cases hcategory
    | field dac' fld' =>
      have hlist : dac.name.toList ++ '_' :: fld.name.toList =
          dac'.name.toList ++ '_' :: fld'.name.toList := by
        have happend : (dac.name.toList ++ '_' :: fld.name.toList) ++ '_' :: kind.name.toList =
            (dac'.name.toList ++ '_' :: fld'.name.toList) ++ '_' :: kind.name.toList := by
          simpa [classicName] using congrArg String.toList h
        exact List.append_cancel_right happend
      obtain ⟨hdac, -, hfld⟩ :=
        (List.append_cons_inj_of_notMem dac.no_underscore fld.no_underscore).1 hlist
      rw [DacName.ext (String.toList_inj.1 hdac), FieldName.ext (String.toList_inj.1 hfld)]

end HookTarget

/-- The parameters of a classic hook for an event. -/
inductive ClassicParameters (f : Framework) : EventKind → List Parameter → Prop
  | cacheAttached {sender : Parameter} : sender.type = ⟨f.cache, []⟩ →
      ClassicParameters f .cacheAttached [sender]
  | other {kind : EventKind} {sender args : Parameter} : kind ≠ .cacheAttached →
      sender.type = ⟨f.cache, []⟩ → args.type = ⟨Framework.eventArgsType kind.name, []⟩ →
      ClassicParameters f kind [sender, args]

/-- The two ways to write a hook. -/
inductive Written (f : Framework) (kind : EventKind) (target : HookTarget) (m : Member) : Prop
  | classic : m.name = target.classicName kind → ClassicParameters f kind m.parameters →
      Written f kind target m
  | generic {p : Parameter} : m.parameters = [p] → p.type.name = f.eventsPrefix ++ kind.name →
      target.IsArgs p.type.args → Written f kind target m

/-- A member is a hook for an event of a target. -/
structure IsHook (f : Framework) (kind : EventKind) (target : HookTarget) (m : Member) : Prop where
  /-- The event concerns what the target is. -/
  category_eq : target.category = kind.category
  method : m.kind = .method
  not_static : m.isStatic = false
  written : Written f kind target m

namespace EventHook

variable {f : Framework} {kind : EventKind} {target : HookTarget} {m : Member}

/-! ## Generic hooks -/

theorem dropStart?_append (start s : String) : dropStart? start (start ++ s) = some s := by
  simp [dropStart?, ← String.length_toList]

theorem eq_append_of_dropStart? {start s rest : String} (h : dropStart? start s = some rest) :
    s = start ++ rest := by
  rw [dropStart?] at h
  split at h
  · next hbeginning =>
    obtain ⟨tail, htail⟩ := List.isPrefixOf_iff_prefix.1 hbeginning
    cases h
    rw [← String.toList_inj, ← htail]
    simp [← String.length_toList]
  · cases h

theorem genericKind?_eq {p : Parameter} (hm : m.parameters = [p])
    (hname : p.type.name = f.eventsPrefix ++ kind.name) (hargs : target.IsArgs p.type.args) :
    genericKind? f m = some kind := by
  have hne : p.type.args.isEmpty = false := hargs.isEmpty
  rw [genericKind?, hm]
  simp only [hne, hname, dropStart?_append, Option.bind_some, EventKind.ofName?_name]
  rfl

theorem genericTargets_row {dac : DacName} {args : List TypeRef}
    (h : (HookTarget.row dac).IsArgs args) : genericTargets .row args = (some dac.name, none) := by
  cases h with
  | row hd => rw [← hd]; rfl

theorem genericTargets_field {dac : DacName} {field : FieldName} {args : List TypeRef}
    (h : (HookTarget.field dac field).IsArgs args) :
    genericTargets .field args = (some dac.name, some field.className) := by
  obtain ⟨c, cs, hcs, hc⟩ := field.capital
  have hdot : '.' ∉ field.className.toList := Text.dot_notMem_decapitalize hcs hc field.no_dot
  cases h with
  | recordAndField outer hd hx =>
    simp only [genericTargets, TypeRef.simpleName, hd, hx, Text.simpleName_qualified outer hdot]
  | field hx =>
    simp only [genericTargets, TypeRef.simpleName, TypeRef.containingName, hx,
      Text.simpleName_qualified _ hdot, Text.containingName_qualified _ hdot]

/-- A generic hook has the key that the classic name is. -/
theorem key_generic (m : MemberHandle) {args : List TypeRef} (h : target.IsArgs args) :
    key ⟨m, ⟨kind, .generic⟩, (genericTargets target.category args).1,
      (genericTargets target.category args).2⟩ = target.classicName kind := by
  cases target with
  | row dac =>
    rw [HookTarget.category, genericTargets_row h]
    rfl
  | field dac fld =>
    obtain ⟨c, cs, hcs, hc⟩ := fld.capital
    rw [HookTarget.category, genericTargets_field h]
    simp only [key, FieldName.className, Text.capitalize_decapitalize hcs hc]
    rfl

/-! ## Classic hooks -/

theorem hasValidName_classicName (kind : EventKind) (target : HookTarget) :
    hasValidName target.category (target.classicName kind) = true := by
  have hkind : '_' ∉ kind.name.toList ∧ kind.name.toList.getLast?.getD '_' ≠ '_' := by
    cases kind <;> decide
  obtain ⟨start, mid, heq, hne, hstart, hmid⟩ := target.toList_classicName kind
  obtain ⟨c, cs, rfl⟩ := List.exists_cons_of_ne_nil hne
  have hc : c ≠ '_' := fun h => hstart (h ▸ List.mem_cons_self)
  have hlast : ((c :: cs) ++ (mid ++ '_' :: kind.name.toList)).getLast? =
      some (kind.name.toList.getLast?.getD '_') := by
    simp [List.getLast?_append, List.getLast?_cons]
  have hcount : ((c :: cs) ++ (mid ++ '_' :: kind.name.toList)).count '_' =
      target.category.underscores := by
    rw [List.count_append, List.count_append, List.count_cons_self,
      List.count_eq_zero_of_not_mem hstart, List.count_eq_zero_of_not_mem hkind.1, ← hmid]
    omega
  rw [hasValidName, heq, hlast, hcount]
  simp [hc, hkind.2]

theorem find?_eventArgsType (h : kind ≠ .cacheAttached) :
    ((EventKind.all.filter (· ≠ .cacheAttached)).find? fun k =>
      Framework.eventArgsType kind.name == Framework.eventArgsType k.name) = some kind := by
  cases kind
  case cacheAttached => exact absurd rfl h
  all_goals decide

theorem classicKind?_eq (hname : m.name = target.classicName kind)
    (hparams : ClassicParameters f kind m.parameters) :
    genericKind? f m = none ∧ classicKind? f m = some kind := by
  unfold genericKind? classicKind?
  generalize m.parameters = ps at hparams
  cases hparams with
  | cacheAttached hsender =>
    obtain ⟨start, mid, heq, -⟩ := target.toList_classicName .cacheAttached
    have hsuffix : cacheAttachedSuffix.toList.isSuffixOf m.name.toList = true := by
      rw [hname, heq, ← List.append_assoc]
      exact List.isSuffixOf_iff_suffix.2 (List.suffix_append _ _)
    simp [hsender, hsuffix]
  | other hkind hsender hargs =>
    refine ⟨rfl, ?_⟩
    simp only [hsender, hargs, beq_self_eq_true, if_true]
    exact find?_eventArgsType hkind

/-! ## All hooks -/

theorem classify_generic (hmethod : m.kind = .method) (hstatic : m.isStatic = false) {p : Parameter}
    (hm : m.parameters = [p]) (hname : p.type.name = f.eventsPrefix ++ kind.name)
    (hargs : target.IsArgs p.type.args) : classify f m = some ⟨kind, .generic⟩ := by
  rw [classify, if_neg (by simp [hmethod, hstatic, hm]), genericKind?_eq hm hname hargs]

theorem classify_classic (hmethod : m.kind = .method) (hstatic : m.isStatic = false)
    (hcategory : target.category = kind.category) (hname : m.name = target.classicName kind)
    (hparams : ClassicParameters f kind m.parameters) : classify f m = some ⟨kind, .classic⟩ := by
  have hlength : m.parameters.length ≤ 2 := by
    generalize m.parameters = ps at hparams
    cases hparams <;> simp
  obtain ⟨hgeneric, hclassic⟩ := classicKind?_eq hname hparams
  have hvalid : hasValidName kind.category m.name = true := by
    rw [hname, ← hcategory]
    exact hasValidName_classicName kind target
  rw [classify, if_neg (by simp [hmethod, hstatic, hlength]), hgeneric, hclassic]
  simp [hvalid]

/-- A hook is classified under its event, and its key is the classic name. -/
theorem ofMember?_of_isHook {m : MemberHandle} (h : IsHook f kind target m.member) :
    ∃ hook, ofMember? f m = some hook ∧ hook.kind = kind ∧ hook.key = target.classicName kind := by
  obtain ⟨hcategory, hmethod, hstatic, hwritten⟩ := h
  cases hwritten with
  | classic hname hparams =>
    have hclassify := classify_classic hmethod hstatic hcategory hname hparams
    refine ⟨_, by rw [ofMember?, hclassify]; rfl, rfl, ?_⟩
    exact hname
  | generic hm hname hargs =>
    have hclassify := classify_generic hmethod hstatic hm hname hargs
    refine ⟨_, by rw [ofMember?, hclassify, Option.map_some, firstArgs, hm], rfl, ?_⟩
    rw [HookDescriptor.category, ← hcategory]
    exact key_generic m hargs

/-- Hooks for the same event have equal keys if and only if they are for the same target, in
    whichever shapes they are written. -/
theorem key_eq_iff {target' : HookTarget} {m m' : MemberHandle} (h : IsHook f kind target m.member)
    (h' : IsHook f kind target' m'.member) :
    ∃ hook hook', ofMember? f m = some hook ∧ ofMember? f m' = some hook' ∧ hook.kind = kind ∧
      hook'.kind = kind ∧ (hook.key = hook'.key ↔ target = target') := by
  obtain ⟨hook, hof, hkind, hkey⟩ := ofMember?_of_isHook h
  obtain ⟨hook', hof', hkind', hkey'⟩ := ofMember?_of_isHook h'
  refine ⟨hook, hook', hof, hof', hkind, hkind', ?_⟩
  rw [hkey, hkey']
  constructor
  · exact HookTarget.classicName_inj (h.category_eq.trans h'.category_eq.symm)
  · rintro rfl
    rfl

/-- The quantity of an order. -/
def orderQty : HookTarget :=
  .field ⟨"Order", by decide, by decide⟩
    ⟨"OrderQty", by decide, by decide, 'O', "rderQty".toList, by decide, by decide⟩

/-- A classic hook and a generic one that names only the class of the field have the same key. -/
theorem key_eq_iff_orderQty :
    ∃ hook hook',
      ofMember? {} ⟨{ symbol := { name := "OrderEntry" } }, 0,
        { name := "Order_OrderQty_FieldUpdated", kind := .method
          parameters := [⟨"sender", ⟨"PXCache", []⟩⟩, ⟨"e", ⟨"PXFieldUpdatedEventArgs", []⟩⟩] }⟩ =
        some hook ∧
      ofMember? {} ⟨{ symbol := { name := "OrderEntryExt" } }, 0,
        { name := "Recalculate", kind := .method
          parameters := [⟨"e", ⟨"Events.FieldUpdated", [⟨"Order.orderQty", []⟩]⟩⟩] }⟩ = some hook' ∧
      hook.kind = .fieldUpdated ∧ hook'.kind = .fieldUpdated ∧
      (hook.key = hook'.key ↔ orderQty = orderQty) :=
  key_eq_iff
    ⟨rfl, rfl, rfl, .classic (by decide) (.other (by decide) rfl (by decide))⟩
    ⟨rfl, rfl, rfl, .generic rfl (by decide) (.field (by decide))⟩

end EventHook

end SnapshotLint

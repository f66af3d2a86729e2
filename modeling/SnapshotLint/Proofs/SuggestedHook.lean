/-
  What becomes of a classic hook that is declared as its violation suggests.

  The suggestion spells the type of the parameter that the new hook takes (`TypeRef.Spells`,
  `Violation.Advises`). For a hook whose name tells its target, this type names the event and the
  target (`EventHook.exists_genericParameter`). But it always begins with `Events.`, whereas hooks
  are told by the configured beginning. So the new hook has the event and the key of the classic one
  if that is `Events.`, and is no hook under any other: `Rule.classicSignature_advice`. A classic
  hook that is lost in this way is shown by `Rule.classicSignature_advice_lost`.
-/
import SnapshotLint.Proofs.ClassicHookReport
import SnapshotLint.Proofs.HookGrammar

namespace SnapshotLint

/-! ## What a suggestion asks for -/

/-- How a type with one plain type argument is spelled. -/
inductive TypeRef.Spells : String → TypeRef → Prop
  | generic (name argument : String) : '<' ∉ name.toList →
      Spells (name ++ "<" ++ argument ++ ">") ⟨name, [⟨argument, []⟩]⟩

/-- A method is declared as the suggestion of a violation says: under the name `_`, and with one
    parameter, of the type that is spelled there. -/
structure Violation.Advises (v : Violation) (m : Member) : Prop where
  method : m.kind = .method
  not_static : m.isStatic = false
  name_eq : m.name = "_"
  parameters : ∃ p text, m.parameters = [p] ∧ TypeRef.Spells text p.type ∧
    v.suggestion = some ("Declare it as `_(" ++ text ++ " e)`")

theorem append_cons_inj_of_notMem_left {α : Type} {sep : α} {xs ys xs' ys' : List α}
    (h : sep ∉ xs) (h' : sep ∉ xs') (heq : xs ++ sep :: ys = xs' ++ sep :: ys') :
    xs = xs' ∧ ys = ys' := by
  induction xs generalizing xs' with
  | nil =>
    cases xs' with
    | nil => exact ⟨rfl, (List.cons.inj heq).2⟩
    | cons x' xs' => exact absurd ((List.cons.inj heq).1 ▸ List.mem_cons_self) h'
  | cons x xs ih =>
    rw [List.mem_cons, not_or] at h
    cases xs' with
    | nil => exact absurd (List.cons.inj heq).1.symm h.1
    | cons x' xs' =>
      rw [List.mem_cons, not_or] at h'
      obtain ⟨hx, hrest⟩ := List.cons.inj heq
      obtain ⟨hxs, hys⟩ := ih h.2 h'.2 hrest
      exact ⟨by rw [hx, hxs], hys⟩

/-- A spelling tells the type. -/
theorem TypeRef.Spells.eq_generic {name argument : String} {t : TypeRef}
    (h : Spells (name ++ "<" ++ argument ++ ">") t) (hname : '<' ∉ name.toList) :
    t = ⟨name, [⟨argument, []⟩]⟩ := by
  generalize htext : name ++ "<" ++ argument ++ ">" = text at h
  obtain ⟨name', argument', hname'⟩ := h
  have hlist : name.toList ++ '<' :: (argument.toList ++ ['>']) =
      name'.toList ++ '<' :: (argument'.toList ++ ['>']) := by
    simpa using congrArg String.toList htext
  obtain ⟨hnames, harguments⟩ := append_cons_inj_of_notMem_left hname hname' hlist
  rw [String.toList_inj.1 hnames, String.toList_inj.1 (List.append_cancel_right harguments)]

/-! ## Targets -/

namespace HookTarget

/-- The record and the field. -/
def names : HookTarget → Option String × Option String
  | row dac => (some dac.name, none)
  | field dac fld => (some dac.name, some fld.name)

/-- The type argument that names the target. -/
def argument : HookTarget → String
  | row dac => dac.name
  | field dac fld => dac.name ++ "." ++ fld.className

theorem isArgs_argument (target : HookTarget) : target.IsArgs [⟨target.argument, []⟩] := by
  cases target with
  | row dac => exact .row rfl
  | field dac fld => exact .field rfl

end HookTarget

/-- The name of a hook for an event tells its target: a record, and for the events of fields also a
    field, which begins with a letter from `A` to `Z` and has no dot. -/
inductive EventKind.Named (kind : EventKind) : String → Prop
  | row (dac : String) : kind.category = .row → Named kind (dac ++ "_" ++ kind.name)
  | field (dac field : String) : kind.category = .field → '.' ∉ field.toList →
      (∃ c cs, field.toList = c :: cs ∧ c.isUpper = true) →
      Named kind (dac ++ "_" ++ field ++ "_" ++ kind.name)

namespace EventHook

variable {f : Framework} {kind : EventKind} {target : HookTarget} {m : MemberHandle}
  {h : EventHook}

theorem underscore_notMem_name (kind : EventKind) : '_' ∉ kind.name.toList := by
  cases kind <;> decide

/-- The name of a classic hook has no more underscores than stand between its parts. -/
theorem exists_target {name : String} (hvalid : hasValidName kind.category name = true)
    (hnamed : kind.Named name) :
    ∃ target : HookTarget, target.category = kind.category ∧ target.classicName kind = name := by
  have hkind := List.count_eq_zero_of_not_mem (underscore_notMem_name kind)
  simp only [hasValidName, Bool.and_eq_true, bne_iff_ne, beq_iff_eq] at hvalid
  obtain ⟨⟨hhead, -⟩, hcount⟩ := hvalid
  cases hnamed with
  | row dac hcategory =>
    have hdac : dac.toList.count '_' = 0 := by
      simp [hcategory, EventCategory.underscores, hkind] at hcount
      omega
    have hne : dac ≠ "" := by
      rintro rfl
      simp at hhead
    exact ⟨.row ⟨dac, hne, List.count_eq_zero.1 hdac⟩, hcategory.symm, rfl⟩
  | field dac field hcategory hdot hcapital =>
    have hparts : dac.toList.count '_' = 0 ∧ field.toList.count '_' = 0 := by
      simp [hcategory, EventCategory.underscores, hkind] at hcount
      omega
    have hne : dac ≠ "" := by
      rintro rfl
      simp at hhead
    exact ⟨.field ⟨dac, hne, List.count_eq_zero.1 hparts.1⟩
      ⟨field, List.count_eq_zero.1 hparts.2, hdot, hcapital⟩, hcategory.symm, rfl⟩

theorem classicTargets_classicName (kind : EventKind) (target : HookTarget) :
    classicTargets target.category (target.classicName kind) = target.names := by
  have hkind := Text.pieces_of_notMem (underscore_notMem_name kind)
  cases target with
  | row dac =>
    have hlist : (dac.name ++ "_" ++ kind.name).toList =
        dac.name.toList ++ '_' :: kind.name.toList := by simp
    simp [classicTargets, HookTarget.category, HookTarget.classicName, HookTarget.names,
      Text.segments, hlist, Text.pieces_append_cons, Text.pieces_of_notMem dac.no_underscore, hkind]
  | field dac fld =>
    have hlist : (dac.name ++ "_" ++ fld.name ++ "_" ++ kind.name).toList =
        dac.name.toList ++ '_' :: (fld.name.toList ++ '_' :: kind.name.toList) := by simp
    simp [classicTargets, HookTarget.category, HookTarget.classicName, HookTarget.names,
      Text.segments, hlist, Text.pieces_append_cons, Text.pieces_of_notMem dac.no_underscore,
      Text.pieces_of_notMem fld.no_underscore, hkind]

theorem hasValidName_of_classify {m : Member} {d : HookDescriptor} (hd : classify f m = some d)
    (hshape : d.shape = .classic) : hasValidName d.kind.category m.name = true := by
  obtain ⟨-, -, ⟨-, hgeneric⟩ | ⟨-, -, hvalid, -⟩⟩ := classify_cases hd
  · rw [hshape] at hgeneric
    cases hgeneric
  · exact hvalid

theorem classify_of_ofMember? (hhook : ofMember? f m = some h) :
    classify f m.member = some h.descriptor := by
  obtain ⟨d, hd, rfl⟩ := Option.map_eq_some_iff.1 hhook
  exact hd

theorem ofMember?_classic (hhook : ofMember? f m = some h)
    (hshape : h.descriptor.shape = .classic) :
    h.member = m ∧ hasValidName h.kind.category m.name = true ∧
      (h.dac, h.field) = classicTargets h.kind.category m.name := by
  obtain ⟨d, hd, rfl⟩ := Option.map_eq_some_iff.1 hhook
  simp only at hshape
  refine ⟨rfl, hasValidName_of_classify hd hshape, ?_⟩
  simp only [hshape]
  rfl

/-- The suggested type names the event and the target of a hook whose name tells them. -/
theorem exists_genericParameter (hhook : ofMember? f m = some h)
    (hshape : h.descriptor.shape = .classic) (hnamed : h.kind.Named h.member.name) :
    ∃ target : HookTarget, target.category = h.kind.category ∧ target.classicName h.kind = h.key ∧
      Rule.genericParameter h = "Events." ++ h.kind.name ++ "<" ++ target.argument ++ ">" := by
  obtain ⟨hmember, hvalid, htargets⟩ := ofMember?_classic hhook hshape
  rw [hmember] at hnamed
  obtain ⟨target, hcategory, hname⟩ := exists_target hvalid hnamed
  have hkey : h.key = m.name := by rw [key, hshape, hmember]
  refine ⟨target, hcategory, hname.trans hkey.symm, ?_⟩
  rw [← hname, ← hcategory, classicTargets_classicName] at htargets
  obtain ⟨hdac, hfield⟩ := Prod.mk.inj htargets
  cases target with
  | row dac =>
    simp only [Rule.genericParameter, ← hcategory, hdac, hfield]
    rfl
  | field dac fld =>
    simp only [Rule.genericParameter, ← hcategory, hdac, hfield]
    rfl

/-! ## The suggested hook -/

/-- No name of an event ends in the name of another one. -/
theorem eq_of_append_eventName {kind' : EventKind} {start : String}
    (h : start ++ kind'.name = "Events." ++ kind.name) : kind' = kind ∧ start = "Events." := by
  have hall : ∀ k ∈ EventKind.all, ∀ k' ∈ EventKind.all,
      k'.name.toList.isSuffixOf ("Events." ++ k.name).toList = true → k' = k := by
    decide +kernel
  have hsuffix : kind'.name.toList.isSuffixOf ("Events." ++ kind.name).toList = true := by
    rw [← h, List.isSuffixOf_iff_suffix, String.toList_append]
    exact List.suffix_append _ _
  have hkind := hall kind (EventKind.mem_all kind) kind' (EventKind.mem_all kind') hsuffix
  subst hkind
  exact ⟨rfl, by simpa using h⟩

theorem classify_eq_none {m : Member} {p : Parameter} (hm : m.parameters = [p])
    (hname : m.name = "_") (htype : p.type.name = "Events." ++ kind.name)
    (hbeginning : f.eventsPrefix ≠ "Events.") : classify f m = none := by
  have hgeneric : genericKind? f m = none := by
    rw [Option.eq_none_iff_forall_ne_some]
    intro kind' hkind'
    obtain ⟨p', hp', -, hname'⟩ := genericKind?_eq_some_iff.1 hkind'
    cases hm.symm.trans hp'
    exact hbeginning (eq_of_append_eventName (hname'.symm.trans htype)).2
  have hclassic : classicKind? f m = none := by
    have hsuffix : cacheAttachedSuffix.toList.isSuffixOf m.name.toList = false := by
      rw [hname]
      decide
    simp only [classicKind?, hm, hsuffix, Bool.and_false]
    rfl
  rw [classify, hgeneric, hclassic]
  split <;> rfl

theorem open_notMem_eventsName (kind : EventKind) : '<' ∉ ("Events." ++ kind.name).toList := by
  cases kind <;> decide

theorem exists_advised {info : RuleInfo} (hhook : ofMember? f m = some h)
    (hshape : h.descriptor.shape = .classic) (hnamed : h.kind.Named h.member.name) :
    ∃ m', (Rule.classicSignatureViolation info h).Advises m' := by
  obtain ⟨target, -, -, hparameter⟩ := exists_genericParameter hhook hshape hnamed
  refine ⟨{ name := "_", kind := .method, parameters := [⟨"e", _⟩] }, rfl, rfl, rfl, _, _, rfl,
    .generic _ target.argument (open_notMem_eventsName h.kind), ?_⟩
  rw [← hparameter]
  rfl

/-- A suggested method has one parameter, whose type names the event and the target of the classic
    hook. -/
theorem exists_suggested {info : RuleInfo} {m' : Member} (hhook : ofMember? f m = some h)
    (hshape : h.descriptor.shape = .classic) (hnamed : h.kind.Named h.member.name)
    (hadvised : (Rule.classicSignatureViolation info h).Advises m') :
    ∃ (target : HookTarget) (p : Parameter), target.category = h.kind.category ∧
      target.classicName h.kind = h.key ∧ m'.parameters = [p] ∧
      p.type = ⟨"Events." ++ h.kind.name, [⟨target.argument, []⟩]⟩ := by
  obtain ⟨target, hcategory, hkey, hparameter⟩ := exists_genericParameter hhook hshape hnamed
  obtain ⟨p, text, hp, hspells, hsuggestion⟩ := hadvised.parameters
  have htext : Rule.genericParameter h = text := by
    simpa [Rule.classicSignatureViolation, Violation.withSuggestion] using hsuggestion
  rw [← htext, hparameter] at hspells
  exact ⟨target, p, hcategory, hkey, hp, hspells.eq_generic (open_notMem_eventsName h.kind)⟩

end EventHook

/-- The reported hooks are classic hooks that the analysed type declares. -/
theorem EventModel.IsModelOf.classic_of_mem_own {ctx : Context} {t : TypeSymbol} {m : EventModel}
    (hm : IsModelOf ctx t m) {h : EventHook} (hh : h ∈ Rule.ownClassicHooks m) :
    h.member ∈ TypeHandle.members ⟨t, .snapshot⟩ ∧
      EventHook.ofMember? ctx.framework h.member = some h ∧ h.descriptor.shape = .classic := by
  obtain ⟨o, ho, rfl⟩ := List.mem_map.1 hh
  simp only [List.mem_filter, Bool.and_eq_true, decide_eq_true_eq] at ho
  obtain ⟨ho, hshape, hsame⟩ := ho
  obtain ⟨-, -, -, hhook, -⟩ := hm.mem_members ho
  exact ⟨hm.own ho hsame, hhook, hshape⟩

namespace Rule

/-- **What a classic hook becomes if it is declared as suggested.** The rule reports classic hooks
    of the analysed type. If the name of one tells its target, a method that is declared as the
    violation suggests exists. Under the beginning `Events.` every such method is a generic hook
    for the same event under the same key, and so it is overridden and overrides as the classic
    hook does. Under any other beginning none is a hook. -/
theorem classicSignature_advice (severity : Severity) {ctx : Context} {t : TypeSymbol}
    (ht : t ∈ ctx.snapshot.types) (hfamily : ctx.InFamily .graph ⟨t, .snapshot⟩)
    (hisv : ctx.framework.isvSpecificAnalyzers = true) (handlers : InstanceCreatedHandlers)
    (sink : List Violation) :
    ∃ vs, checkInferred [classicSignature severity] ctx
        (Option.toList <$> EventModel.explicit ctx handlers ⟨t, .snapshot⟩) { sink } =
          (.ok 1, { sink := sink ++ vs }) ∧
      ∀ v ∈ vs, ∃ h, v = classicSignatureViolation (classicSignatureInfo severity) h ∧
        h.member ∈ TypeHandle.members ⟨t, .snapshot⟩ ∧
        EventHook.ofMember? ctx.framework h.member = some h ∧ h.descriptor.shape = .classic ∧
        (h.kind.Named h.member.name → (∃ m', v.Advises m') ∧
          ∀ m' : MemberHandle, v.Advises m'.member →
            (ctx.framework.eventsPrefix = "Events." →
              ∃ h', EventHook.ofMember? ctx.framework m' = some h' ∧
                h'.descriptor = ⟨h.kind, .generic⟩ ∧ h'.key = h.key) ∧
            (ctx.framework.eventsPrefix ≠ "Events." →
              EventHook.ofMember? ctx.framework m' = none)) := by
  obtain ⟨m, hmodels, hm⟩ := EventModel.exists_modelsOf ht hfamily handlers
  rw [← Analyzer.answer_graphModels] at hmodels
  refine ⟨_, checkInferred_singleton (BuiltInGraph.classicSignature severity).observes hmodels hisv
    (found_eq_nil_of_not_applies severity ctx) sink, fun v hv => ?_⟩
  rw [found_classicSignature] at hv
  obtain ⟨h, hh, rfl⟩ := List.mem_map.1 hv
  obtain ⟨hown, hhook, hshape⟩ := hm.classic_of_mem_own hh
  refine ⟨h, rfl, hown, hhook, hshape, fun hnamed =>
    ⟨EventHook.exists_advised hhook hshape hnamed, fun m' hadvised => ?_⟩⟩
  obtain ⟨target, p, hcategory, hkey, hp, htype⟩ :=
    EventHook.exists_suggested hhook hshape hnamed hadvised
  constructor
  · intro hbeginning
    have hname : p.type.name = ctx.framework.eventsPrefix ++ h.kind.name := by
      rw [htype, hbeginning]
    have hargs : target.IsArgs p.type.args := by
      rw [htype]
      exact target.isArgs_argument
    have hclassify := EventHook.classify_generic hadvised.method hadvised.not_static hp hname hargs
    obtain ⟨h', hhook', -, hkey'⟩ := EventHook.ofMember?_of_isHook
      ⟨hcategory, hadvised.method, hadvised.not_static, .generic hp hname hargs⟩
    rw [EventHook.classify_of_ofMember? hhook'] at hclassify
    exact ⟨h', hhook', Option.some.inj hclassify, hkey'.trans hkey⟩
  · intro hbeginning
    have hname : p.type.name = "Events." ++ h.kind.name := by rw [htype]
    rw [EventHook.ofMember?, EventHook.classify_eq_none hp hadvised.name_eq hname hbeginning]
    rfl

/-- The classic hook of a graph for the update of a field, and the generic hook that is suggested in
    its place. -/
theorem classicSignature_advice_orderQty :
    let classic : Member :=
      { name := "Order_OrderQty_FieldUpdated", kind := .method
        parameters := [⟨"sender", ⟨"PXCache", []⟩⟩, ⟨"e", ⟨"PXFieldUpdatedEventArgs", []⟩⟩] }
    let generic : Member :=
      { name := "_", kind := .method
        parameters := [⟨"e", ⟨"Events.FieldUpdated", [⟨"Order.orderQty", []⟩]⟩⟩] }
    let graph : TypeSymbol :=
      { name := "OrderEntry", base := some { name := "PXGraph" }, members := [classic] }
    let ctx : Context :=
      { snapshot := { types := [graph], distinct := by decide }
        framework := { isvSpecificAnalyzers := true } }
    let hook : EventHook :=
      ⟨⟨⟨graph, .snapshot⟩, 0, classic⟩, ⟨.fieldUpdated, .classic⟩, some "Order", some "OrderQty"⟩
    graph ∈ ctx.snapshot.types ∧ ctx.InFamily .graph ⟨graph, .snapshot⟩ ∧
      ctx.framework.isvSpecificAnalyzers = true ∧
      (checkInferred [classicSignature .info] ctx
        (Option.toList <$> EventModel.explicit ctx {} ⟨graph, .snapshot⟩) {}) =
          (.ok 1, { sink := [classicSignatureViolation (classicSignatureInfo .info) hook] }) ∧
      (classicSignatureViolation (classicSignatureInfo .info) hook).Advises generic ∧
      ∃ h', EventHook.ofMember? ctx.framework ⟨⟨graph, .snapshot⟩, 1, generic⟩ = some h' ∧
        h'.descriptor = ⟨.fieldUpdated, .generic⟩ ∧ h'.key = "Order_OrderQty_FieldUpdated" := by
  intro classic generic graph ctx hook
  have hgraph : graph ∈ ctx.snapshot.types ∧ ((Hierarchy.linearize ctx .graph
      ⟨graph, .snapshot⟩).answer ctx.snapshot).role ≠ .unrelated := by
    decide +kernel +revert
  have hmembers : TypeHandle.members ⟨graph, .snapshot⟩ = [⟨⟨graph, .snapshot⟩, 0, classic⟩] := rfl
  have hhook : EventHook.ofMember? ctx.framework ⟨⟨graph, .snapshot⟩, 0, classic⟩ = some hook := by
    decide +kernel +revert
  have hsink : (checkInferred [classicSignature .info] ctx
      (Option.toList <$> EventModel.explicit ctx {} ⟨graph, .snapshot⟩) {}).2.sink =
        [classicSignatureViolation (classicSignatureInfo .info) hook] := by
    decide +kernel +revert
  have hsuggestion : (classicSignatureViolation (classicSignatureInfo .info) hook).suggestion =
      some ("Declare it as `_(" ++ ("Events.FieldUpdated" ++ "<" ++ "Order.orderQty" ++ ">") ++
        " e)`") := by
    decide +kernel +revert
  have hadvised : (classicSignatureViolation (classicSignatureInfo .info) hook).Advises generic :=
    ⟨rfl, rfl, rfl, _, _, rfl, .generic _ _ (by decide), hsuggestion⟩
  have hfamily := Context.inFamily_iff.2 hgraph.2
  obtain ⟨vs, hcheck, hvs⟩ := classicSignature_advice .info hgraph.1 hfamily rfl {} []
  rw [hcheck, List.nil_append] at hsink
  subst hsink
  obtain ⟨h, -, hmember, hof, -, hadvice⟩ := hvs _ List.mem_cons_self
  rw [hmembers, List.mem_singleton] at hmember
  rw [hmember, hhook] at hof
  obtain rfl : hook = h := Option.some.inj hof
  obtain ⟨-, hadvice⟩ := hadvice
    (.field "Order" "OrderQty" rfl (by decide) ⟨'O', "rderQty".toList, by decide, by decide⟩)
  exact ⟨hgraph.1, hfamily, rfl, hcheck, hadvised,
    (hadvice ⟨⟨graph, .snapshot⟩, 1, generic⟩ hadvised).1 rfl⟩

/-- Under another beginning the suggestion is the same, and the suggested method is no hook. -/
theorem classicSignature_advice_lost :
    let classic : Member :=
      { name := "Order_RowSelected", kind := .method
        parameters := [⟨"sender", ⟨"PXCache", []⟩⟩, ⟨"e", ⟨"PXRowSelectedEventArgs", []⟩⟩] }
    let suggested : Member :=
      { name := "_", kind := .method
        parameters := [⟨"e", ⟨"Events.RowSelected", [⟨"Order", []⟩]⟩⟩] }
    let graph : TypeSymbol :=
      { name := "OrderEntry", base := some { name := "PXGraph" }, members := [classic] }
    let ctx : Context :=
      { snapshot := { types := [graph], distinct := by decide }
        framework := { isvSpecificAnalyzers := true, eventsPrefix := "PXEvents." } }
    let hook : EventHook :=
      ⟨⟨⟨graph, .snapshot⟩, 0, classic⟩, ⟨.rowSelected, .classic⟩, some "Order", none⟩
    let v := classicSignatureViolation (classicSignatureInfo .info) hook
    (checkInferred [classicSignature .info] ctx
        (Option.toList <$> EventModel.explicit ctx {} ⟨graph, .snapshot⟩) {}).2.sink = [v] ∧
      hook.kind.Named classic.name ∧ v.Advises suggested ∧
      EventHook.classify ctx.framework suggested = none := by
  intro classic suggested graph ctx hook v
  have hsink : (checkInferred [classicSignature .info] ctx
      (Option.toList <$> EventModel.explicit ctx {} ⟨graph, .snapshot⟩) {}).2.sink = [v] := by
    decide +kernel +revert
  have hlost : EventHook.classify ctx.framework suggested = none := by
    decide +kernel +revert
  have hadvised : v.Advises suggested :=
    ⟨rfl, rfl, rfl, _, _, rfl, .generic "Events.RowSelected" "Order" (by decide), rfl⟩
  exact ⟨hsink, .row "Order" rfl, hadvised, hlost⟩

end Rule

end SnapshotLint

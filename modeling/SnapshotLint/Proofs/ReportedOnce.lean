/-
  Each offence is reported once, at the type that declares it.

  A built-in rule goes through members of a model and reports at most one violation of each
  (`Survey`). All of them are members of the analysed type itself, however many layers the model has,
  and none of them comes up twice. As a type has one model of each kind, and rules and types have
  names of their own, no rule reports a member twice in a whole run:
  `Analyzer.analyzeSnapshot_reports_once`.
-/
import SnapshotLint.Proofs.OwnMember

namespace SnapshotLint

/-- The violation is by a member. It names the type that declares the member, and stands at the
    member, or else at an attribute of the member and is labelled at the member. -/
structure Violation.Concerns (v : Violation) (m : MemberHandle) : Prop where
  symbol_eq : v.symbol = some m.owner.name
  located : v.location = m.location.getD {} ∨
    ∃ a ∈ m.member.attributes, a.location = some v.location ∧
      ∃ l ∈ v.labels, l.location = m.location.getD {}

/-- A violation and the member that it is about. -/
structure Finding where
  member : MemberHandle
  violation : Violation

/-- The rule, the type and the position of the member. -/
def Finding.key (f : Finding) : String × String × Nat :=
  (f.violation.rule, f.member.owner.name, f.member.index)

/-! ## What rules go through -/

/-- A rule that goes through members of a model and reports at most one violation of each. -/
structure Survey {μ : Type} (IsModelOf : Context → TypeSymbol → μ → Prop) where
  rule : Rule μ
  /-- The members, each with what the rule finds there. -/
  visits : Context → μ → List (MemberHandle × Option Violation)
  observes : rule.Observes
  found_eq : ∀ ctx model, rule.found ctx model = (visits ctx model).filterMap (·.2)
  concerns : ∀ {ctx model m v}, (m, some v) ∈ visits ctx model →
    v.Concerns m ∧ v.rule = rule.info.name ∧ v.code = rule.info.code
  /-- The members are those of the analysed type. -/
  own : ∀ {ctx t model}, IsModelOf ctx t model →
    ∀ v ∈ visits ctx model, v.1 ∈ TypeHandle.members ⟨t, .snapshot⟩
  distinct : ∀ {ctx t model}, IsModelOf ctx t model → ((visits ctx model).map (·.1)).Nodup

namespace Rule

theorem found_forEach {α : Type} {s : Snapshot} {xs : List α} {steps : α → List Step}
    {visit : α → Option Violation}
    (h : ∀ x, (steps x).flatMap (·.found s) = (visit x).toList) :
    (Step.forEach xs steps).flatMap (·.found s) = xs.filterMap visit := by
  rw [Step.forEach, List.flatMap_assoc, List.filterMap_eq_flatMap_toList]
  refine List.flatMap_congr fun x _ => ?_
  rw [List.flatMap_cons, h]
  rfl

/-! ### Default values -/

theorem application_mem_of_findDefault? {ctx : Context} {s : Snapshot} {attributes : List Attribute}
    {found : DefaultAttribute} (h : (Attribute.findDefault? ctx attributes).answer s = some found) :
    found.application ∈ attributes := by
  induction attributes with
  | nil => cases h
  | cons a attributes ih =>
    rw [Attribute.findDefault?, Analysis.answer_bind] at h
    cases hdefault : (a.asDefault? ctx).answer s with
    | none =>
      rw [hdefault] at h
      exact List.mem_cons_of_mem _ (ih h)
    | some d =>
      rw [hdefault] at h
      obtain rfl : d = found := Option.some.inj h
      have happlication : d.application = a := by
        simp only [Attribute.asDefault?, Analysis.answer_bind] at hdefault
        split at hdefault
        · rw [Analysis.answer_bind] at hdefault
          split at hdefault <;> cases hdefault
          rfl
        · cases hdefault
      rw [happlication]
      exact List.mem_cons_self

/-- An issue with a declaration is one with an attribute of it, not of what it overrides. -/
theorem application_mem_of_find? {α : Type} {ctx : Context} {s : Snapshot}
    {attributes : α → List Attribute} {role : Role} {bound : BoundType} {o : Overridable α}
    {issue : DefaultIssue}
    (h : (DefaultIssue.find? ctx attributes role bound o).answer s = some issue) :
    issue.application ∈ attributes o.item := by
  rw [DefaultIssue.find?, Analysis.answer_bind] at h
  cases hown : (Attribute.findDefault? ctx (attributes o.item)).answer s with
  | none =>
    rw [hown] at h
    cases h
  | some own =>
    rw [hown] at h
    have hmem := application_mem_of_findDefault? hown
    simp only at h
    split at h
    · cases h
    · split at h
      · cases h
        exact hmem
      · rw [Analysis.answer_bind] at h
        split at h
        · rw [Analysis.answer_pure] at h
          split at h <;> cases h
          exact hmem
        · cases h
          exact hmem
      · cases h

theorem concerns_unsafeDefault (severity : Severity) (d : DacModel) (bound : BoundType)
    {m : MemberHandle} {issue : DefaultIssue} (h : issue.application ∈ m.member.attributes) :
    (unsafeDefaultViolation severity d bound m issue).Concerns m := by
  unfold unsafeDefaultViolation atAttribute
  cases hlocation : issue.application.location with
  | none => exact ⟨rfl, .inl rfl⟩
  | some location =>
    exact ⟨rfl, .inr ⟨_, h, hlocation, _, List.mem_append_right _ List.mem_cons_self, rfl⟩⟩

/-! ### Surveys -/

/-- The instance constructors of an extension. -/
def extensionConstructorSurvey (severity : Severity) : Survey EventModel.IsModelOf where
  rule := extensionConstructor severity
  visits _ m := m.graph.instanceConstructors.map fun c =>
    (c, some (extensionConstructorViolation (extensionConstructorInfo severity)
      m.graph.symbol.name c))
  observes := (BuiltInGraph.extensionConstructor severity).observes
  found_eq ctx m := by
    rw [List.filterMap_map]
    exact found_forEach fun c => rfl
  concerns h := by
    obtain ⟨c, -, heq⟩ := List.mem_map.1 h
    cases heq
    exact ⟨⟨rfl, .inl rfl⟩, rfl, rfl⟩
  own h v hv := by
    obtain ⟨c, hc, rfl⟩ := List.mem_map.1 hv
    exact h.constructors.subset hc
  distinct h := by
    rw [List.map_map]
    exact ((TypeHandle.nodup_members _).sublist h.constructors).map fun _ _ => id

/-- The classic hooks that a type declares. -/
def classicSignatureSurvey (severity : Severity) : Survey EventModel.IsModelOf where
  rule := classicSignature severity
  visits _ m := (m.allEvents.filter (·.item.member.owner.same m.graph.symbol)).map fun o =>
    (o.item.member, if o.item.descriptor.shape = .classic then
      some (classicSignatureViolation (classicSignatureInfo severity) o.item) else none)
  observes := (BuiltInGraph.classicSignature severity).observes
  found_eq ctx m := by
    rw [List.filterMap_map, List.filterMap_filter]
    refine found_forEach fun o => ?_
    by_cases hclassic : o.item.descriptor.shape = .classic <;>
      by_cases hown : o.item.member.owner.same m.graph.symbol = true <;>
      simp [hclassic, hown, Step.found]
  concerns h := by
    obtain ⟨o, -, heq⟩ := List.mem_map.1 h
    rw [Prod.mk.injEq, Option.ite_none_right_eq_some, Option.some.injEq] at heq
    obtain ⟨rfl, -, rfl⟩ := heq
    exact ⟨⟨rfl, .inl rfl⟩, rfl, rfl⟩
  own h v hv := by
    obtain ⟨o, ho, rfl⟩ := List.mem_map.1 hv
    obtain ⟨ho, hsame⟩ := List.mem_filter.1 ho
    exact h.own ho hsame
  distinct h := by
    rw [List.map_map]
    exact h.nodup_hooks.sublist (List.filter_sublist.map _)

/-- The fields that a class declares. -/
def reservedFieldSurvey (severity : Severity) (extra : List String) :
    Survey DacModel.IsModelOf where
  rule := reservedField severity extra
  visits ctx d := (declaredFields d).map fun m =>
    (m, (reservedSeverity severity extra ctx.framework m.name).map fun s =>
      reservedFieldViolation (reservedFieldInfo severity) s m)
  observes := (BuiltInDac.reservedField severity extra).observes
  found_eq ctx d := by
    rw [List.filterMap_map]
    refine found_forEach fun m => ?_
    cases h : reservedSeverity severity extra ctx.framework m.name <;> simp [h, Step.found]
  concerns h := by
    obtain ⟨m, -, heq⟩ := List.mem_map.1 h
    rw [Prod.mk.injEq, Option.map_eq_some_iff] at heq
    obtain ⟨rfl, s, -, rfl⟩ := heq
    exact ⟨⟨rfl, .inl rfl⟩, rfl, rfl⟩
  own h v hv := by
    obtain ⟨m, hm, rfl⟩ := List.mem_map.1 hv
    rcases List.mem_append.1 hm with hm | hm
    · obtain ⟨o, ho, rfl⟩ := List.mem_map.1 hm
      exact (h.mem_declaredFieldClasses ho).1
    · obtain ⟨o, ho, rfl⟩ := List.mem_map.1 hm
      exact (h.mem_declaredProperties ho).1
  distinct h := by
    obtain ⟨hfieldClasses, hproperties, hdisjoint⟩ := h.nodup_declared
    rw [List.map_map]
    exact (hfieldClasses.append hproperties hdisjoint).map fun _ _ => id

/-- The fields that a class declares, with the further names of a configuration. -/
def configuredReservedFieldSurvey (c : Config) : Survey DacModel.IsModelOf :=
  reservedFieldSurvey .error
    (((c.rules.find? (reservedFieldInfo .error).name).map (·.texts "extra_forbidden")).getD [])

/-- The properties that a class declares. -/
def unsafeDefaultSurvey (severity : Severity) : Survey DacModel.IsModelOf where
  rule := unsafeDefault severity
  visits ctx d := d.declaredProperties.map fun p =>
    (p.item.member, (judgeDefault severity ctx d p).answer ctx.snapshot)
  observes := (BuiltInDac.unsafeDefault severity).observes
  found_eq ctx d := by
    rw [List.filterMap_map]
    exact found_forEach fun p => by simp [Step.found]
  concerns h := by
    obtain ⟨p, -, heq⟩ := List.mem_map.1 h
    rw [Prod.mk.injEq, judgeDefault, Analysis.answer_bind, Analysis.answer_pure,
      Option.map_eq_some_iff] at heq
    obtain ⟨rfl, issue, hissue, rfl⟩ := heq
    refine ⟨concerns_unsafeDefault severity _ _ (application_mem_of_find? hissue), ?_⟩
    simp only [unsafeDefaultViolation, atAttribute]
    split <;> exact ⟨rfl, rfl⟩
  own h v hv := by
    obtain ⟨p, hp, rfl⟩ := List.mem_map.1 hv
    exact (h.mem_declaredProperties hp).1
  distinct h := by
    rw [List.map_map]
    exact h.nodup_declared.2.1

end Rule

/-! ## Findings in the models of a type -/

/-- What some rules find in a type: violations by its own members, no member twice for one rule. -/
structure Once (rules : List String) (t : TypeSymbol) (fs : List Finding) : Prop where
  rule_mem : ∀ f ∈ fs, f.violation.rule ∈ rules
  own : ∀ f ∈ fs, f.member ∈ TypeHandle.members ⟨t, .snapshot⟩
  concerns : ∀ f ∈ fs, f.violation.Concerns f.member
  distinct : (fs.map Finding.key).Nodup

namespace Once

variable {rules rules' : List String} {t : TypeSymbol} {fs gs : List Finding}

theorem nil (rules : List String) (t : TypeSymbol) : Once rules t [] :=
  ⟨by simp, by simp, by simp, List.nodup_nil⟩

theorem append (h : Once rules t fs) (h' : Once rules' t gs) (hrules : rules.Disjoint rules') :
    Once (rules ++ rules') t (fs ++ gs) := by
  refine ⟨?_, List.forall_mem_append.2 ⟨h.own, h'.own⟩,
    List.forall_mem_append.2 ⟨h.concerns, h'.concerns⟩, ?_⟩
  · exact List.forall_mem_append.2 ⟨fun f hf => List.mem_append_left _ (h.rule_mem f hf),
      fun f hf => List.mem_append_right _ (h'.rule_mem f hf)⟩
  · rw [List.map_append]
    refine h.distinct.append h'.distinct fun k hk hk' => ?_
    obtain ⟨f, hf, rfl⟩ := List.mem_map.1 hk
    obtain ⟨g, hg, heq⟩ := List.mem_map.1 hk'
    have hrule : g.violation.rule = f.violation.rule := congrArg Prod.fst heq
    exact hrules (h.rule_mem f hf) (hrule ▸ h'.rule_mem g hg)

theorem flatMap {μ : Type} {models : List μ} {find : μ → List Finding} (hlength : models.length ≤ 1)
    (h : ∀ m ∈ models, Once rules t (find m)) : Once rules t (models.flatMap find) := by
  match models, hlength with
  | [], _ => exact nil rules t
  | [m], _ =>
    rw [List.flatMap_singleton]
    exact h m List.mem_cons_self

end Once

namespace Survey

variable {μ : Type} {IsModelOf : Context → TypeSymbol → μ → Prop}

def findings (v : Survey IsModelOf) (ctx : Context) (model : μ) : List Finding :=
  (v.visits ctx model).filterMap fun visit => visit.2.map (⟨visit.1, ·⟩)

/-- What the rules that apply to a model find in it. -/
def findingsBy (vs : List (Survey IsModelOf)) (ctx : Context) (model : μ) : List Finding :=
  (vs.filter fun v => v.rule.isEnabled ctx.framework && v.rule.applies model).flatMap fun v =>
    v.findings ctx model

variable {ctx : Context} {t : TypeSymbol} {model : μ}

theorem found_eq_findings (v : Survey IsModelOf) (ctx : Context) (model : μ) :
    v.rule.found ctx model = (v.findings ctx model).map (·.violation) := by
  rw [v.found_eq, findings, List.map_filterMap]
  refine List.filterMap_congr fun visit _ => ?_
  cases visit.2 <;> rfl

theorem foundBy_eq_findings (vs : List (Survey IsModelOf)) (ctx : Context) (model : μ) :
    Rule.foundBy (vs.map (·.rule)) ctx model = (findingsBy vs ctx model).map (·.violation) := by
  rw [Rule.foundBy, Rule.applicable, List.filter_map, List.flatMap_map, findingsBy,
    List.map_flatMap]
  exact List.flatMap_congr fun v _ => v.found_eq_findings ctx model

theorem names_of_mem (v : Survey IsModelOf) {violation : Violation}
    (h : violation ∈ v.rule.found ctx model) :
    violation.rule = v.rule.info.name ∧ violation.code = v.rule.info.code := by
  rw [v.found_eq] at h
  obtain ⟨⟨m, found⟩, hvisit, rfl⟩ := List.mem_filterMap.1 h
  exact (v.concerns hvisit).2

theorem members_sublist (v : Survey IsModelOf) (ctx : Context) (model : μ) :
    ((v.findings ctx model).map (·.member)).Sublist ((v.visits ctx model).map (·.1)) := by
  unfold findings
  induction v.visits ctx model with
  | nil => exact .slnil
  | cons visit visits ih =>
    obtain ⟨m, found⟩ := visit
    cases found with
    | none => exact ih.cons m
    | some violation => exact ih.cons_cons m

theorem once_findings (v : Survey IsModelOf) (h : IsModelOf ctx t model) :
    Once [v.rule.info.name] t (v.findings ctx model) := by
  have hvisit : ∀ f ∈ v.findings ctx model, (f.member, some f.violation) ∈ v.visits ctx model := by
    intro f hf
    obtain ⟨⟨m, found⟩, hmem, heq⟩ := List.mem_filterMap.1 hf
    obtain ⟨violation, rfl, rfl⟩ := Option.map_eq_some_iff.1 heq
    exact hmem
  have hown : ∀ f ∈ v.findings ctx model, f.member ∈ TypeHandle.members ⟨t, .snapshot⟩ :=
    fun f hf => v.own h _ (hvisit f hf)
  refine ⟨fun f hf => List.mem_singleton.2 (v.concerns (hvisit f hf)).2.1, hown,
    fun f hf => (v.concerns (hvisit f hf)).1, ?_⟩
  -- a member of the type is known by its position
  have hmembers : ((v.findings ctx model).map (·.member)).Nodup :=
    (v.distinct h).sublist (v.members_sublist ctx model)
  refine (List.Nodup.of_map _ hmembers).map_on fun f hf g hg heq => ?_
  refine List.inj_on_of_nodup_map hmembers hf hg (TypeHandle.eq_of_index (hown f hf) (hown g hg) ?_)
  exact congrArg (·.2.2) heq

theorem once_findingsBy {vs : List (Survey IsModelOf)} (hnames : (vs.map (·.rule.info.name)).Nodup)
    (h : IsModelOf ctx t model) :
    Once (vs.map (·.rule.info.name)) t (findingsBy vs ctx model) := by
  induction vs with
  | nil => exact Once.nil _ t
  | cons v vs ih =>
    rw [List.map_cons, List.nodup_cons] at hnames
    have hrest := ih hnames.2
    have hdisjoint : [v.rule.info.name].Disjoint (vs.map (·.rule.info.name)) :=
      List.singleton_disjoint.2 hnames.1
    unfold findingsBy
    rw [List.filter_cons]
    split
    · exact (v.once_findings h).append hrest hdisjoint
    · exact (Once.nil _ t).append hrest hdisjoint

end Survey

/-! ## Findings in a snapshot -/

theorem EventModel.length_modelsOf (ctx : Context) (handlers : InstanceCreatedHandlers)
    (t : TypeSymbol) : (modelsOf ctx handlers t).length ≤ 1 :=
  Option.length_toList_le

theorem DacModel.length_modelsOf (ctx : Context) (t : TypeSymbol) :
    (modelsOf ctx t).length ≤ 1 := by
  rw [modelsOf, infer, Analysis.answer_bind, Analysis.answer_pure]
  split <;> simp

/-- Rules for graphs and for data access classes, with what they go through. -/
structure SurveySet where
  graph : List (Survey EventModel.IsModelOf)
  dac : List (Survey DacModel.IsModelOf)

namespace SurveySet

def rules (q : SurveySet) : RuleSet := ⟨q.graph.map (·.rule), q.dac.map (·.rule)⟩

def filter (keep : String → Bool) (q : SurveySet) : SurveySet :=
  ⟨q.graph.filter fun v => keep v.rule.info.name, q.dac.filter fun v => keep v.rule.info.name⟩

theorem rules_filter (keep : String → Bool) (q : SurveySet) :
    (q.filter keep).rules = q.rules.filter keep := by
  simp only [rules, filter, RuleSet.filter, List.filter_map]
  rfl

variable (q : SurveySet) (ctx : Context) (handlers : InstanceCreatedHandlers)

def findingsAt (t : TypeSymbol) : List Finding :=
  (EventModel.modelsOf ctx handlers t).flatMap (Survey.findingsBy q.graph ctx) ++
    (DacModel.modelsOf ctx t).flatMap (Survey.findingsBy q.dac ctx)

def findings (types : List TypeSymbol) : List Finding :=
  (Analyzer.analysed ctx types).flatMap (q.findingsAt ctx handlers)

theorem foundAt_eq_findingsAt {a : Analyzer} (ha : a.rules = q.rules) (t : TypeSymbol) :
    a.foundAt ctx handlers t = (q.findingsAt ctx handlers t).map (·.violation) := by
  rw [Analyzer.foundAt, ha, findingsAt, List.map_append, List.map_flatMap, List.map_flatMap]
  congr 1
  · exact List.flatMap_congr fun m _ => Survey.foundBy_eq_findings q.graph ctx m
  · exact List.flatMap_congr fun d _ => Survey.foundBy_eq_findings q.dac ctx d

theorem found_eq_findings {a : Analyzer} (ha : a.rules = q.rules) (types : List TypeSymbol) :
    (Analyzer.analysed ctx types).flatMap (a.foundAt ctx handlers) =
      (q.findings ctx handlers types).map (·.violation) := by
  rw [findings, List.map_flatMap]
  exact List.flatMap_congr fun t _ => q.foundAt_eq_findingsAt ctx handlers ha t

variable {q ctx} (hnames : q.rules.names.Nodup)
include hnames

theorem once_findingsAt {t : TypeSymbol} (ht : t ∈ ctx.snapshot.types) :
    Once q.rules.names t (q.findingsAt ctx handlers t) := by
  have hsplit : q.rules.names =
      q.graph.map (·.rule.info.name) ++ q.dac.map (·.rule.info.name) := by
    simp [RuleSet.names, RuleSet.describe, rules, Function.comp_def]
  rw [hsplit] at hnames ⊢
  obtain ⟨hgraph, hdac, hdisjoint⟩ := List.nodup_append'.1 hnames
  refine Once.append (Once.flatMap (EventModel.length_modelsOf ..) fun m hm => ?_)
    (Once.flatMap (DacModel.length_modelsOf ..) fun d hd => ?_) hdisjoint
  · exact Survey.once_findingsBy hgraph (EventModel.isModelOf_of_mem ht hm)
  · exact Survey.once_findingsBy hdac (DacModel.isModelOf_of_mem ht hd)

/-- What is found at a type names the type. -/
theorem symbol_of_mem_findingsAt {t : TypeSymbol} (ht : t ∈ ctx.snapshot.types) {f : Finding}
    (hf : f ∈ q.findingsAt ctx handlers t) : f.violation.symbol = some t.name := by
  have honce := once_findingsAt handlers hnames ht
  rw [(honce.concerns f hf).symbol_eq, (TypeHandle.mem_members_iff.1 (honce.own f hf)).1]
  rfl

theorem owned_of_mem_findings {f : Finding} (hf : f ∈ q.findings ctx handlers ctx.snapshot.types) :
    ∃ t ∈ ctx.snapshot.types, ctx.framework.isSuppressed t = false ∧
      f.violation.symbol = some t.name ∧ f.member ∈ TypeHandle.members ⟨t, .snapshot⟩ ∧
      f.violation.Concerns f.member := by
  obtain ⟨t, ht, hf⟩ := List.mem_flatMap.1 hf
  obtain ⟨ht, hsuppressed⟩ := List.mem_filter.1 ht
  have honce := once_findingsAt handlers hnames ht
  exact ⟨t, ht, by simpa using hsuppressed, symbol_of_mem_findingsAt handlers hnames ht hf,
    honce.own f hf, honce.concerns f hf⟩

/-- No rule reports a member twice, whatever types there are. -/
theorem nodup_findings : ((q.findings ctx handlers ctx.snapshot.types).map Finding.key).Nodup := by
  have hsublist : (Analyzer.analysed ctx ctx.snapshot.types).Sublist ctx.snapshot.types :=
    List.filter_sublist
  have hdistinct : ((Analyzer.analysed ctx ctx.snapshot.types).map (·.name)).Nodup :=
    ctx.snapshot.distinct.sublist (hsublist.map _)
  rw [findings, List.map_flatMap, List.nodup_flatMap]
  refine ⟨fun t ht => (once_findingsAt handlers hnames (hsublist.subset ht)).distinct, ?_⟩
  refine (List.pairwise_map.1 hdistinct).imp_of_mem fun {t u} ht hu hne k hk hk' => ?_
  obtain ⟨f, hf, rfl⟩ := List.mem_map.1 hk
  obtain ⟨g, hg, heq⟩ := List.mem_map.1 hk'
  -- the keys name the types
  have hf' := (once_findingsAt handlers hnames (hsublist.subset ht)).own f hf
  have hg' := (once_findingsAt handlers hnames (hsublist.subset hu)).own g hg
  have howner : g.member.owner.name = f.member.owner.name := congrArg (·.2.1) heq
  rw [(TypeHandle.mem_members_iff.1 hf').1, (TypeHandle.mem_members_iff.1 hg').1] at howner
  exact hne howner.symm

end SurveySet

namespace Preset

/-- What the rules go through that every solution should keep to. -/
def commonSurveys (c : Config) : SurveySet where
  graph := [Rule.extensionConstructorSurvey .error]
  dac := [Rule.configuredReservedFieldSurvey c, Rule.unsafeDefaultSurvey .error]

def surveys (c : Config) : Preset → SurveySet
  | recommended => commonSurveys c
  | strict =>
    { commonSurveys c with
      graph := (commonSurveys c).graph ++ [Rule.classicSignatureSurvey .warning] }
  | minimal => ⟨[], [Rule.configuredReservedFieldSurvey c]⟩
  | all =>
    { commonSurveys c with
      graph := (commonSurveys c).graph ++ [Rule.classicSignatureSurvey .info] }

theorem rules_surveys (c : Config) (p : Preset) : (p.surveys c).rules = p.rules c := by
  cases p <;> rfl

theorem nodup_names (c : Config) (p : Preset) : (p.rules c).names.Nodup := by
  have hnames : (all.rules c).names = ["constructor-in-graph-extension", "generic-event-signature",
    "dac-forbidden-fields", "dac-extension-default-attribute"] := rfl
  have hall : (all.rules c).names.Nodup := by
    rw [hnames]
    decide
  cases p with
  | recommended => exact hall.sublist (.cons_cons _ (.cons _ (.refl _)))
  | strict => exact hall
  | minimal => exact List.nodup_singleton _
  | all => exact hall

/-- What the rules of a preset find in a snapshot, as far as they are turned on. -/
def findings (c : Config) (p : Preset) (s : Snapshot) : List Finding :=
  ((p.surveys c).filter c.isRuleEnabled).findings ⟨s, c.framework⟩
    ((InstanceCreatedHandlers.collect ⟨s, c.framework⟩).answer s) s.types

end Preset

namespace Analyzer

/-- A violation as it stands in the result for a snapshot. -/
def finish (a : Analyzer) (s : Snapshot) (v : Violation) : Violation :=
  match s.source with
  | none => a.override v
  | some file => inFile file (a.override v)

theorem override_eq (a : Analyzer) (v : Violation) :
    a.override v = { v with severity := (a.config.ruleSeverity v.rule).getD v.severity } := by
  unfold override
  split
  · next h => rw [h]; rfl
  · next h => rw [h]; rfl

theorem symbol_finish (a : Analyzer) (s : Snapshot) (v : Violation) :
    (a.finish s v).symbol = v.symbol := by
  unfold finish inFile
  repeat' split
  all_goals simp only [override_eq]

theorem violations_withSource (a : Analyzer) (s : Snapshot) (vs : List Violation) (n : UInt64) :
    (withSource s (LintResult.sort ⟨vs.map a.override, 0, n⟩)).violations.Perm
      (vs.map (a.finish s)) := by
  have hsort : ∀ ws : List Violation, (Violation.sort ws).Perm ws :=
    fun ws => List.mergeSort_perm ws _
  unfold withSource finish
  cases s.source with
  | none => exact hsort _
  | some file =>
    refine (hsort _).trans ?_
    have := (hsort (vs.map a.override)).map (inFile file)
    rwa [List.map_map] at this

/-- **Every offence is reported once, where it is declared.** With the rules of a preset, the analysis
    of a snapshot that nobody interrupts succeeds. Each violation is one by a member of a type that
    is not suppressed: it names that type, and stands at the member or at an attribute of it. No
    rule reports a member twice. -/
theorem analyzeSnapshot_reports_once (directory : String) (c : Config) (p : Preset)
    (root : Option String) (excludes : List String) (failOnInvalid : Bool) (s : Snapshot) :
    let a := build directory c (p.rules c) root excludes failOnInvalid
    ∃ r, a.analyzeSnapshot s {} = (.ok r, {}) ∧
      r.violations.Perm ((p.findings c s).map fun f => a.finish s f.violation) ∧
      (∀ v ∈ r.violations,
        ∃ t ∈ s.types, c.framework.isSuppressed t = false ∧ v.symbol = some t.name) ∧
      (∀ f ∈ p.findings c s,
        ∃ t ∈ s.types, c.framework.isSuppressed t = false ∧ f.violation.symbol = some t.name ∧
          f.member ∈ TypeHandle.members ⟨t, .snapshot⟩ ∧ f.violation.Concerns f.member) ∧
      ((p.findings c s).map Finding.key).Nodup := by
  intro a
  have hobserves : a.rules.Observes := ((Preset.builtIn_rules c p).filter _).observes
  have hrules : ((p.surveys c).filter c.isRuleEnabled).rules = a.rules := by
    rw [SurveySet.rules_filter, Preset.rules_surveys]
    rfl
  have hnames : ((p.surveys c).filter c.isRuleEnabled).rules.names.Nodup := by
    rw [hrules]
    exact (Preset.nodup_names c p).sublist (RuleSet.names_filter _ _)
  have hfound : a.found s = (p.findings c s).map (·.violation) :=
    SurveySet.found_eq_findings _ (a.context s) (a.handlersOf s) hrules.symm s.types
  have hfinish : (a.found s).map (a.finish s) =
      (p.findings c s).map fun f => a.finish s f.violation := by
    rw [hfound, List.map_map]
    rfl
  have hperm := violations_withSource a s (a.found s)
    (.ofNat (checkedCount (a.context s) (a.handlersOf s) s.types))
  rw [hfinish] at hperm
  refine ⟨_, analyzeSnapshot_uninterrupted hobserves s, hperm, ?_, ?_, ?_⟩
  · intro v hv
    obtain ⟨f, hf, rfl⟩ := List.mem_map.1 (hperm.subset hv)
    obtain ⟨t, ht, hsuppressed, hsymbol, -⟩ :=
      SurveySet.owned_of_mem_findings (a.handlersOf s) hnames hf
    exact ⟨t, ht, hsuppressed, (a.symbol_finish s f.violation).trans hsymbol⟩
  · exact fun f hf => SurveySet.owned_of_mem_findings (a.handlersOf s) hnames hf
  · exact SurveySet.nodup_findings (a.handlersOf s) hnames

/-- A reserved field is reported at the class that declares it, and not at the one that inherits it
    nor at its extension. -/
example :
    let s : Snapshot :=
      { types := [
          { name := "OrderExt"
            base := some { name := "PXCacheExtension", args := [{ name := "Order" }] }
            members := [{ name := "Note", kind := .property }] },
          { name := "Order", base := some { name := "Document" } },
          { name := "Document"
            interfaces := [{ name := "IBqlTable" }]
            members := [
              { name := "Note", kind := .property },
              { name := "CompanyID", kind := .property }] }]
        distinct := by decide }
    (Preset.all.findings {} s).map Finding.key = [("dac-forbidden-fields", "Document", 1)] := by
  rfl

end Analyzer

end SnapshotLint

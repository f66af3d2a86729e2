/-
  What a check reports for a filter on its rules.

  A filter is a text with names and codes between its commas (`BuiltInRule.named`). The rules that
  it names make their checks one after the other, and as often as they are named. No check has to do
  with another, and so the violations are those that the rules lead to one by one
  (`Analyzer.perm_reports`). Violations that the order does not tell apart have the same code, and
  the reports under a code are made by one rule. So the order in which the rules are named does not
  matter (`Analyzer.resultOf_eq_of_perm`). But a rule that is named twice reports everything twice:
  `Command.runCheck_repeated`. What two filters for the same rules have in common is said by
  `Command.runCheck_filter`.
-/
import Mathlib.Data.List.DropRight
import SnapshotLint.Command.Outcome
import SnapshotLint.Proofs.FileResult
import SnapshotLint.Proofs.RuleConfiguration
import SnapshotLint.Proofs.Scheduling
import SnapshotLint.Proofs.Segmentation

namespace SnapshotLint

/-! ## The order of rules -/

namespace Rule

variable {μ : Type} {rules rules' : List (Rule μ)}

/-- Rules that report under their codes, and of which no two share a code. One rule may be there
    several times. -/
structure Coded (rules : List (Rule μ)) : Prop where
  own : ∀ r ∈ rules, ∀ ctx model, ∀ v ∈ r.found ctx model, v.code = r.info.code
  eq_of_code : ∀ r ∈ rules, ∀ r' ∈ rules, r.info.code = r'.info.code → r = r'

theorem Coded.subset (h : Coded rules) (hsub : rules' ⊆ rules) : Coded rules' :=
  ⟨fun r hr => h.own r (hsub hr), fun r hr r' hr' => h.eq_of_code r (hsub hr) r' (hsub hr')⟩

theorem foundBy_append (rules rules' : List (Rule μ)) (ctx : Context) (model : μ) :
    foundBy (rules ++ rules') ctx model = foundBy rules ctx model ++ foundBy rules' ctx model := by
  rw [foundBy, applicable, List.filter_append, List.flatMap_append]
  rfl

/-- Rules in another order report the same under each code, in the same order. -/
theorem under_foundBy_of_perm (h : Coded rules) (hperm : rules.Perm rules') (code : String)
    (ctx : Context) (model : μ) :
    Violation.under code (foundBy rules ctx model) =
      Violation.under code (foundBy rules' ctx model) := by
  have hunder : ∀ {rules : List (Rule μ)}, Coded rules →
      Violation.under code (foundBy rules ctx model) =
        ((applicable rules ctx model).filter (·.info.code = code)).flatMap (·.found ctx model) := by
    intro rules h
    refine (flatMap_filter fun r hr v hv => ?_).symm
    rw [h.own r (List.mem_filter.1 hr).1 ctx model v hv]
  have h' : Coded rules' := h.subset hperm.symm.subset
  rw [hunder h, hunder h']
  congr 1
  -- the rules with the code are all the same
  have hpairwise : ∀ rs : List (Rule μ), rs.Pairwise fun _ _ => True :=
    fun rs => List.pairwise_of_forall fun _ _ => trivial
  refine List.Perm.eq_of_pairwise ?_ (hpairwise _) (hpairwise _) ((hperm.filter _).filter _)
  intro r r' hr hr' _ _
  simp only [applicable, List.mem_filter, decide_eq_true_eq] at hr hr'
  exact h.eq_of_code r hr.1.1 r' (hperm.symm.subset hr'.1.1) (hr.2.trans hr'.2.symm)

end Rule

namespace Analyzer

variable (a : Analyzer)

/-- The rules of two sets find what those of each set find. -/
theorem found_append (rules rules' : RuleSet) (s : Snapshot) :
    ({ a with rules := rules ++ rules' }.found s).Perm
      ({ a with rules := rules }.found s ++ { a with rules := rules' }.found s) := by
  have hfoundAt : ∀ ctx handlers t,
      ({ a with rules := rules ++ rules' }.foundAt ctx handlers t).Perm
        ({ a with rules := rules }.foundAt ctx handlers t ++
          { a with rules := rules' }.foundAt ctx handlers t) := by
    intro ctx handlers t
    have hgraph := List.flatMap_append_perm (EventModel.modelsOf ctx handlers t)
      (Rule.foundBy rules.graph ctx) (Rule.foundBy rules'.graph ctx)
    have hdac := List.flatMap_append_perm (DacModel.modelsOf ctx t)
      (Rule.foundBy rules.dac ctx) (Rule.foundBy rules'.dac ctx)
    simp only [← Rule.foundBy_append] at hgraph hdac
    refine (hgraph.symm.append hdac.symm).trans ?_
    simp only [foundAt, List.append_assoc]
    exact (List.perm_append_comm_assoc _ _ _).append_left _
  refine (List.Perm.flatMap_left _ fun t _ => hfoundAt _ _ t).trans ?_
  exact (List.flatMap_append_perm _ _ _).symm

/-- Rules in another order give the same result. -/
theorem resultOf_eq_of_perm {rules rules' : RuleSet} (hgraph : rules.graph.Perm rules'.graph)
    (hdac : rules.dac.Perm rules'.dac) (hcodedGraph : Rule.Coded rules.graph)
    (hcodedDac : Rule.Coded rules.dac) (s : Snapshot) :
    { a with rules := rules }.resultOf s = { a with rules := rules' }.resultOf s := by
  have hunder : ∀ code, Violation.under code ({ a with rules := rules }.found s) =
      Violation.under code ({ a with rules := rules' }.found s) := by
    intro code
    simp only [Violation.under, found, foundAt, List.filter_flatMap, List.filter_append]
    refine List.flatMap_congr fun t _ => congrArg₂ (· ++ ·) ?_ ?_
    · exact List.flatMap_congr fun m _ => Rule.under_foundBy_of_perm hcodedGraph hgraph code _ m
    · exact List.flatMap_congr fun d _ => Rule.under_foundBy_of_perm hcodedDac hdac code _ d
  have hsort : Violation.sort (({ a with rules := rules }.found s).map a.override) =
      Violation.sort (({ a with rules := rules' }.found s).map a.override) := by
    refine Violation.sort_eq_of_codes fun code => ?_
    rw [Violation.under_map a.code_override, hunder, Violation.under_map a.code_override]
  exact congrArg (fun vs => withSource s ⟨vs, 0, _⟩) hsort

end Analyzer

/-! ## The built-in rules -/

/-- The rules that a filter can name. -/
inductive BuiltInRule where
  | reservedField
  | unsafeDefault
  | extensionConstructor
  | classicSignature
deriving DecidableEq

namespace BuiltInRule

/-- All of them. -/
def all : List BuiltInRule := [reservedField, unsafeDefault, extensionConstructor, classicSignature]

/-- What is known of a rule. -/
def info : BuiltInRule → RuleInfo
  | reservedField => Rule.reservedFieldInfo .error
  | unsafeDefault => Rule.unsafeDefaultInfo .error
  | extensionConstructor => Rule.extensionConstructorInfo .error
  | classicSignature => Rule.classicSignatureInfo .info

/-- The rule with a name or code. -/
def ofName? (name : String) : Option BuiltInRule :=
  all.find? fun b => b.info.name == name || b.info.code == name

/-- What stands between the commas of a filter, without the white space at its ends, unless nothing
    is left. -/
def entries (filter : String) : List String :=
  let parts := (filter.toList.splitOn ',').map fun part =>
    (part.dropWhile Text.isBlank).rdropWhile Text.isBlank
  (parts.filter (· ≠ [])).map String.ofList

/-- The rules that a filter names, in its order and as often as it names them. -/
def named (filter : String) : List BuiltInRule := (entries filter).filterMap ofName?

/-- What a rule goes through under a configuration. -/
def surveys (c : Config) : BuiltInRule → SurveySet
  | reservedField => ⟨[], [Rule.configuredReservedFieldSurvey c]⟩
  | unsafeDefault => ⟨[], [Rule.unsafeDefaultSurvey .error]⟩
  | extensionConstructor => ⟨[Rule.extensionConstructorSurvey .error], []⟩
  | classicSignature => ⟨[Rule.classicSignatureSurvey .info], []⟩

/-- Rules under a configuration, one after the other. -/
def ruleSet (c : Config) (bs : List BuiltInRule) : RuleSet where
  graph := bs.flatMap fun b => (b.surveys c).rules.graph
  dac := bs.flatMap fun b => (b.surveys c).rules.dac

variable (c : Config)

theorem builtIn_eq : RuleSet.builtIn c = all.map fun b => (b.surveys c).rules := rfl

theorem ofName?_eq (name : String) :
    RuleSet.ofName? c name = (ofName? name).map fun b => (b.surveys c).rules := by
  rw [RuleSet.ofName?, builtIn_eq, List.find?_map, ofName?]
  congr 2
  funext b
  cases b <;> exact Bool.or_false _

theorem filterNames_eq (filter : String) : Command.filterNames filter = entries filter := by
  have hempty : ∀ part : List Char, (!(String.ofList part).isEmpty) = decide (part ≠ []) := by
    intro part
    rw [Bool.eq_iff_iff]
    simp [← String.toList_inj]
  rw [Command.filterNames, Text.segments, Text.pieces_eq_splitOn, entries, List.map_map,
    List.filter_map, List.filter_map, List.map_map]
  simp only [Function.comp_def, Text.trim, String.toList_ofList, hempty]
  rfl

theorem filterRules_eq (filter : String) :
    Command.filterRules c filter = ruleSet c (named filter) := by
  have hfold : ∀ (bs : List BuiltInRule) (rules : RuleSet),
      (bs.map fun b => (b.surveys c).rules).foldl (· ++ ·) rules =
        ⟨rules.graph ++ (ruleSet c bs).graph, rules.dac ++ (ruleSet c bs).dac⟩ := by
    intro bs
    induction bs with
    | nil =>
      intro rules
      simp [ruleSet]
    | cons b bs ih =>
      intro rules
      rw [List.map_cons, List.foldl_cons, ih]
      simp only [ruleSet, List.flatMap_cons, ← List.append_assoc]
      rfl
  have hnames : (Command.filterNames filter).filterMap (RuleSet.ofName? c) =
      (named filter).map fun b => (b.surveys c).rules := by
    rw [filterNames_eq, named, List.map_filterMap]
    exact List.filterMap_congr fun name _ => ofName?_eq c name
  rw [Command.filterRules, hnames, hfold]
  rfl

theorem eq_of_name {b b' : BuiltInRule} (h : b.info.name = b'.info.name) : b = b' := by
  revert h
  cases b <;> cases b' <;> decide

theorem eq_of_code {b b' : BuiltInRule} (h : b.info.code = b'.info.code) : b = b' := by
  revert h
  cases b <;> cases b' <;> decide

/-- A rule for models of one kind is the built-in rule. -/
structure Is {μ : Type} (b : BuiltInRule) (r : Rule μ) : Prop where
  info_eq : r.info = b.info
  observes : r.Observes
  names : ∀ ctx model, ∀ v ∈ r.found ctx model, v.rule = b.info.name ∧ v.code = b.info.code

theorem is_of_survey {μ : Type} {IsModelOf : Context → TypeSymbol → μ → Prop} {b : BuiltInRule}
    (v : Survey IsModelOf) (h : v.rule.info = b.info) : b.Is v.rule :=
  ⟨h, v.observes, fun _ _ _ hfound => h ▸ v.names_of_mem hfound⟩

variable {c} {bs : List BuiltInRule}

theorem of_mem_graph {r : GraphRule} (h : r ∈ (ruleSet c bs).graph) :
    ∃ b ∈ bs, b.Is r ∧ (b.surveys c).rules.graph = [r] := by
  obtain ⟨b, hb, hr⟩ := List.mem_flatMap.1 h
  refine ⟨b, hb, ?_⟩
  cases b with
  | reservedField => cases hr
  | unsafeDefault => cases hr
  | extensionConstructor =>
    rw [List.mem_singleton.1 hr]
    exact ⟨is_of_survey _ rfl, rfl⟩
  | classicSignature =>
    rw [List.mem_singleton.1 hr]
    exact ⟨is_of_survey _ rfl, rfl⟩

theorem of_mem_dac {r : DacRule} (h : r ∈ (ruleSet c bs).dac) :
    ∃ b ∈ bs, b.Is r ∧ (b.surveys c).rules.dac = [r] := by
  obtain ⟨b, hb, hr⟩ := List.mem_flatMap.1 h
  refine ⟨b, hb, ?_⟩
  cases b with
  | reservedField =>
    rw [List.mem_singleton.1 hr]
    exact ⟨is_of_survey _ rfl, rfl⟩
  | unsafeDefault =>
    rw [List.mem_singleton.1 hr]
    exact ⟨is_of_survey _ rfl, rfl⟩
  | extensionConstructor => cases hr
  | classicSignature => cases hr

theorem coded {μ : Type} {rules : List (Rule μ)} {only : BuiltInRule → List (Rule μ)}
    (h : ∀ r ∈ rules, ∃ b ∈ bs, b.Is r ∧ only b = [r]) : Rule.Coded rules := by
  refine ⟨fun r hr ctx model v hv => ?_, fun r hr r' hr' hcode => ?_⟩
  · obtain ⟨b, -, his, -⟩ := h r hr
    rw [(his.names ctx model v hv).2, his.info_eq]
  · obtain ⟨b, -, his, honly⟩ := h r hr
    obtain ⟨b', -, his', honly'⟩ := h r' hr'
    rw [his.info_eq, his'.info_eq] at hcode
    rw [eq_of_code hcode, honly'] at honly
    exact (List.singleton_inj.1 honly).symm

end BuiltInRule

/-! ## Analyzers with built-in rules -/

theorem perm_flatMap_swap {α β γ : Type} (xs : List α) (ys : List β) (f : α → β → List γ) :
    (xs.flatMap fun x => ys.flatMap fun y => f x y).Perm
      (ys.flatMap fun y => xs.flatMap fun x => f x y) := by
  induction ys with
  | nil => simp
  | cons y ys ih =>
    simp only [List.flatMap_cons]
    exact (List.flatMap_append_perm xs _ _).symm.trans (ih.append_left _)

namespace Analyzer

open BuiltInRule

variable (a : Analyzer) (bs : List BuiltInRule)

/-- The analyzer with built-in rules in the place of its own, as far as they are turned on. -/
def withBuiltIn : Analyzer :=
  { a with rules := (ruleSet a.config bs).filter a.config.isRuleEnabled }

theorem observes_withBuiltIn : (a.withBuiltIn bs).rules.Observes := by
  refine ⟨fun r hr => ?_, fun r hr => ?_⟩
  · obtain ⟨b, -, his, -⟩ := of_mem_graph (List.mem_filter.1 hr).1
    exact his.observes
  · obtain ⟨b, -, his, -⟩ := of_mem_dac (List.mem_filter.1 hr).1
    exact his.observes

/-- The order of the rules does not matter. -/
theorem resultOf_withBuiltIn {bs bs' : List BuiltInRule} (h : bs.Perm bs') (s : Snapshot) :
    (a.withBuiltIn bs).resultOf s = (a.withBuiltIn bs').resultOf s := by
  have hgraph : Rule.Coded (ruleSet a.config bs).graph := coded fun r => of_mem_graph
  have hdac : Rule.Coded (ruleSet a.config bs).dac := coded fun r => of_mem_dac
  exact a.resultOf_eq_of_perm ((h.flatMap_right _).filter _) ((h.flatMap_right _).filter _)
    (hgraph.subset (List.filter_subset_self _)) (hdac.subset (List.filter_subset_self _)) s

theorem resultOfAll_withBuiltIn {bs bs' : List BuiltInRule} (h : bs.Perm bs') (ss : List Snapshot) :
    (a.withBuiltIn bs).resultOfAll ss = (a.withBuiltIn bs').resultOfAll ss := by
  rw [resultOfAll, funext (a.resultOf_withBuiltIn h)]
  rfl

/-- Each rule finds what it finds alone, as often as it is there. -/
theorem found_withBuiltIn (s : Snapshot) :
    ((a.withBuiltIn bs).found s).Perm (bs.flatMap fun b => (a.withBuiltIn [b]).found s) := by
  induction bs with
  | nil =>
    simp [found, foundAt, Rule.foundBy, Rule.applicable, withBuiltIn, ruleSet, RuleSet.filter]
  | cons b bs ih =>
    have hrules : (ruleSet a.config (b :: bs)).filter a.config.isRuleEnabled =
        (a.withBuiltIn [b]).rules ++ (a.withBuiltIn bs).rules := by
      simp only [withBuiltIn, ruleSet, RuleSet.filter, List.flatMap_cons, List.flatMap_nil,
        List.append_nil, List.filter_append]
      rfl
    rw [List.flatMap_cons, withBuiltIn, hrules]
    exact (a.found_append _ _ s).trans (ih.append_left _)

theorem rule_of_mem_found {b : BuiltInRule} {s : Snapshot} {v : Violation}
    (hv : v ∈ (a.withBuiltIn [b]).found s) : v.rule = b.info.name := by
  have hnames : ∀ {μ : Type} {r : Rule μ}, (∃ b' ∈ [b], b'.Is r) → ∀ ctx model,
      ∀ v ∈ r.found ctx model, v.rule = b.info.name := by
    rintro μ r ⟨b', hb', his⟩ ctx model v hv
    rw [← List.mem_singleton.1 hb']
    exact (his.names ctx model v hv).1
  simp only [found, foundAt, Rule.foundBy, Rule.applicable, List.mem_flatMap, List.mem_append,
    List.mem_filter] at hv
  obtain ⟨-, -, ⟨m, -, r, ⟨hr, -⟩, hv⟩ | ⟨d, -, r, ⟨hr, -⟩, hv⟩⟩ := hv
  · obtain ⟨b', hb', his, -⟩ := of_mem_graph (List.mem_filter.1 hr).1
    exact hnames ⟨b', hb', his⟩ _ m v hv
  · obtain ⟨b', hb', his, -⟩ := of_mem_dac (List.mem_filter.1 hr).1
    exact hnames ⟨b', hb', his⟩ _ d v hv

/-- The violations that a rule leads to in snapshots. -/
def reports (ss : List Snapshot) (b : BuiltInRule) : List Violation :=
  ss.flatMap fun s => ((a.withBuiltIn [b]).found s).map (a.finish s)

theorem rule_of_mem_reports {ss : List Snapshot} {b : BuiltInRule} {v : Violation}
    (hv : v ∈ a.reports ss b) : v.rule = b.info.name := by
  obtain ⟨s, -, hv⟩ := List.mem_flatMap.1 hv
  obtain ⟨w, hw, rfl⟩ := List.mem_map.1 hv
  rw [rule_finish, a.rule_of_mem_found hw]

/-- The violations are those that the rules lead to one by one. -/
theorem perm_reports (ss : List Snapshot) :
    ((a.withBuiltIn bs).resultOfAll ss).violations.Perm (bs.flatMap (a.reports ss)) := by
  have hsnapshot : ∀ s, (((a.withBuiltIn bs).found s).map (a.finish s)).Perm
      (bs.flatMap fun b => ((a.withBuiltIn [b]).found s).map (a.finish s)) := by
    intro s
    rw [← List.map_flatMap]
    exact (a.found_withBuiltIn bs s).map _
  refine ((a.withBuiltIn bs).perm_violations ss).trans ?_
  exact (List.Perm.flatMap_left ss fun s _ => hsnapshot s).trans (perm_flatMap_swap ss bs _)

/-- A violation is there for each time that its rule is. -/
theorem count_reports (ss : List Snapshot) {b : BuiltInRule} {v : Violation}
    (hv : v.rule = b.info.name) :
    (bs.flatMap (a.reports ss)).count v = bs.count b * (a.reports ss b).count v := by
  induction bs with
  | nil => simp
  | cons b' bs ih =>
    rw [List.flatMap_cons, List.count_append, ih]
    by_cases hb : b' = b
    · subst hb
      rw [List.count_cons_self, Nat.add_mul, Nat.one_mul, Nat.add_comm]
    · have hnone : (a.reports ss b').count v = 0 := by
        refine List.count_eq_zero_of_not_mem fun hmem => hb (eq_of_name ?_)
        rw [← a.rule_of_mem_reports hmem, hv]
      rw [hnone, Nat.zero_add, List.count_cons_of_ne hb]

end Analyzer

/-! ## Checks with a filter -/

namespace Command

open BuiltInRule

variable (e : Environment) (given : Option String) (o : CheckOptions)

/-- Whether a check fails does not depend on the filter, and its result depends on the rules that
    the filter names. -/
theorem runCheck_eq :
    (∃ failure, ∀ filter, runCheck e given { o with rules := some filter } = .error failure) ∨
      ∃ (a : Analyzer) (ss : List Snapshot) (threshold : Severity), ∀ filter,
        runCheck e given { o with rules := some filter } =
          .ok ((a.withBuiltIn (named filter)).resultOfAll ss,
            ((a.withBuiltIn (named filter)).resultOfAll ss).reaches threshold) := by
  have hrun : ∀ filter, runCheck e given { o with rules := some filter } = do
      let c ← checkConfig e given o
      let threshold ← c.failOnSeverity.mapError .threshold
      let r ← ((Analyzer.build e.files.workingDirectory c (filterRules c filter) o.path
        o.exclude).analyze e.files {}).1.mapError .analysis
      return (r, r.reaches threshold) := fun _ => rfl
  cases hc : checkConfig e given o with
  | error failure =>
    refine Or.inl ⟨failure, fun filter => ?_⟩
    rw [hrun, hc]
    rfl
  | ok c =>
    cases hthreshold : c.failOnSeverity with
    | error cause =>
      refine Or.inl ⟨.threshold cause, fun filter => ?_⟩
      rw [hrun, hc]
      simp only [bind, Except.bind, hthreshold]
      rfl
    | ok threshold =>
      let a := Analyzer.build e.files.workingDirectory c {} o.path o.exclude
      have hanalyze : ∀ filter, ((Analyzer.build e.files.workingDirectory c (filterRules c filter)
          o.path o.exclude).analyze e.files {}).1 = (a.discover e.files).map fun paths =>
            (a.withBuiltIn (named filter)).resultOfAll (Analyzer.usable e.files paths) := by
        intro filter
        rw [filterRules_eq]
        exact Analyzer.analyze_uninterrupted (a.observes_withBuiltIn (named filter)) rfl e.files
      cases hpaths : a.discover e.files with
      | error cause =>
        refine Or.inl ⟨.analysis cause, fun filter => ?_⟩
        rw [hrun, hc]
        simp only [bind, Except.bind, hthreshold, hanalyze, hpaths]
        rfl
      | ok paths =>
        refine Or.inr ⟨a, Analyzer.usable e.files paths, threshold, fun filter => ?_⟩
        rw [hrun, hc]
        simp only [bind, Except.bind, hthreshold, hanalyze, hpaths]
        rfl

/-- **A filter stands for the rules that it names, and for how often it names each.** Let two
    filters name the same rules, by name or code and among other entries. If each rule is named
    equally often, the checks come to the same, in whatever order the rules are named. In any case
    both checks fail for the same reason, or the same snapshots and types count as checked, the
    same violations are reported, and both count as failed or neither. But a violation is reported
    once for each time that its rule is named. -/
theorem runCheck_filter {filter filter' : String} (h : ∀ b, b ∈ named filter ↔ b ∈ named filter') :
    let check (filter : String) := runCheck e given { o with rules := some filter }
    ((named filter).Perm (named filter') → check filter = check filter') ∧
    ((∃ failure, check filter = .error failure ∧ check filter' = .error failure) ∨
      ∃ r r' failed, check filter = .ok (r, failed) ∧ check filter' = .ok (r', failed) ∧
        r.snapshotsChecked = r'.snapshotsChecked ∧ r.typesChecked = r'.typesChecked ∧
        (∀ v, v ∈ r.violations ↔ v ∈ r'.violations) ∧
        ∀ v ∈ r.violations, ∃ b ∈ named filter, v.rule = b.info.name ∧
          r.violations.count v * (named filter').count b =
            r'.violations.count v * (named filter).count b) := by
  intro check
  obtain ⟨failure, hcheck⟩ | ⟨a, ss, threshold, hcheck⟩ := runCheck_eq e given o
  · refine ⟨fun _ => ?_, Or.inl ⟨failure, hcheck filter, hcheck filter'⟩⟩
    exact (hcheck filter).trans (hcheck filter').symm
  · have hperm := a.perm_reports (named filter) ss
    have hperm' := a.perm_reports (named filter') ss
    have hmem : ∀ v, v ∈ ((a.withBuiltIn (named filter)).resultOfAll ss).violations ↔
        v ∈ ((a.withBuiltIn (named filter')).resultOfAll ss).violations := by
      intro v
      rw [hperm.mem_iff, hperm'.mem_iff, List.mem_flatMap, List.mem_flatMap]
      simp only [h]
    obtain ⟨hsnapshots, htypes⟩ := Analyzer.checked_resultOfAll (a.withBuiltIn (named filter))
      (a.withBuiltIn (named filter')) rfl ss
    refine ⟨fun hnamed => ?_, Or.inr ⟨_, _, _, hcheck filter, ?_, hsnapshots, htypes, hmem, ?_⟩⟩
    · simp only [check, hcheck, a.resultOfAll_withBuiltIn hnamed ss]
    · simp only [check, hcheck, LintResult.reaches_congr hmem]
    · intro v hv
      obtain ⟨b, hb, hv⟩ := List.mem_flatMap.1 (hperm.mem_iff.1 hv)
      have hrule := a.rule_of_mem_reports hv
      refine ⟨b, hb, hrule, ?_⟩
      rw [hperm.count_eq, hperm'.count_eq, a.count_reports _ ss hrule, a.count_reports _ ss hrule]
      ac_rfl

/-- A file with a class that has a reserved field. -/
def orders : Environment where
  files := { root := .directory [("orders.json", .file (String.toUTF8
    ("\x7b\"types\":[\x7b\"name\":\"Order\",\"interfaces\":[\x7b\"name\":\"IBqlTable\"\x7d]," ++
      "\"members\":[\x7b\"name\":\"CompanyID\",\"kind\":\"property\"\x7d]\x7d]\x7d")))] }

theorem runCheck_orders :
    (runCheck orders none { rules := some "EL1027" }).toOption.map (·.1.violations.length) =
      some 1 := by
  decide +kernel

/-- Filters for the same two rules, and two that name one rule twice and once. -/
theorem runCheck_filter_orders :
    let check (filter : String) := runCheck orders none { rules := some filter }
    (named "EL1040, dac-forbidden-fields").Perm (named "EL1027,other,EL1040") ∧
      check "EL1040, dac-forbidden-fields" = check "EL1027,other,EL1040" ∧
      named "EL1027,dac-forbidden-fields" = [.reservedField, .reservedField] ∧
      named "EL1027" = [.reservedField] ∧
      ∃ r r' failed, check "EL1027,dac-forbidden-fields" = .ok (r, failed) ∧
        check "EL1027" = .ok (r', failed) ∧ (∀ v, v ∈ r.violations ↔ v ∈ r'.violations) ∧
        ∀ v ∈ r.violations, r.violations.count v = r'.violations.count v * 2 := by
  intro check
  have hperm : (named "EL1040, dac-forbidden-fields").Perm (named "EL1027,other,EL1040") := by
    decide +kernel
  have htwice : named "EL1027,dac-forbidden-fields" = [.reservedField, .reservedField] := by
    decide +kernel
  have honce : named "EL1027" = [.reservedField] := by decide +kernel
  have hrule : ∀ b, b ∈ named "EL1027,dac-forbidden-fields" ↔ b ∈ named "EL1027" := by
    simp [htwice, honce]
  obtain ⟨hsame, -⟩ := runCheck_filter orders none {} fun b => hperm.mem_iff
  obtain ⟨-, ⟨failure, -, hfails⟩ | hresult⟩ := runCheck_filter orders none {} hrule
  · have hlength := runCheck_orders
    rw [show runCheck orders none { rules := some "EL1027" } = _ from hfails] at hlength
    cases hlength
  · obtain ⟨r, r', failed, hr, hr', -, -, hmem, hcount⟩ := hresult
    refine ⟨hperm, hsame hperm, htwice, honce, r, r', failed, hr, hr', hmem, fun v hv => ?_⟩
    obtain ⟨b, hb, -, hproduct⟩ := hcount v hv
    rw [htwice] at hb
    obtain rfl : b = .reservedField := by simpa using hb
    simpa [htwice, honce] using hproduct

/-- A rule that is named twice reports everything twice. -/
theorem runCheck_repeated :
    ∃ r r' failed failed',
      runCheck orders none { rules := some "EL1027,EL1027" } = .ok (r, failed) ∧
      runCheck orders none { rules := some "EL1027" } = .ok (r', failed') ∧
      (∀ b, b ∈ named "EL1027,EL1027" ↔ b ∈ named "EL1027") ∧
      r.violations.length = 2 ∧ r'.violations.length = 1 := by
  have htwice : named "EL1027,EL1027" = [.reservedField, .reservedField] := by decide +kernel
  have honce : named "EL1027" = [.reservedField] := by decide +kernel
  have hlength := runCheck_orders
  obtain ⟨failure, hcheck⟩ | ⟨a, ss, threshold, hcheck⟩ := runCheck_eq orders none {}
  · rw [hcheck] at hlength
    cases hlength
  · rw [hcheck] at hlength
    have hone : ((a.withBuiltIn (named "EL1027")).resultOfAll ss).violations.length = 1 :=
      Option.some.inj hlength
    refine ⟨_, _, _, _, hcheck _, hcheck _, by simp [htwice, honce], ?_, hone⟩
    rw [(a.perm_reports _ ss).length_eq, honce] at hone
    rw [(a.perm_reports _ ss).length_eq, htwice]
    simp only [List.flatMap_cons, List.flatMap_nil, List.append_nil, List.length_append] at hone ⊢
    omega

end Command

end SnapshotLint

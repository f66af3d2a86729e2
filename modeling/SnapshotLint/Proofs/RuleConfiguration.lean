/-
  What a configuration says of rules is a filter on the violations.

  The entries of a configuration say which rules are turned off (`Config.Disables`) and how grave
  the violations of a rule are (`Config.Regrades`). Turning a rule off drops its checks, and no
  check has to do with another. A severity takes the place of a rule's own before the violations are
  sorted, but the order does not look at severities. So the violations under a configuration are
  those under the same configuration without such entries (`Config.neutral`), less those of the
  rules that are turned off, and with the severities replaced:
  `Analyzer.analyzeSnapshot_post_filter`.
-/
import SnapshotLint.Proofs.ReportedOnce
import SnapshotLint.Proofs.ReportOrder

namespace SnapshotLint

/-! ## Entries on rules -/

namespace OrderedMap

variable {α : Type}

/-- No two entries have the same name, so the one that is found is the only one. -/
theorem find?_eq_some_iff {m : OrderedMap α} {k : String} {v : α} :
    m.find? k = some v ↔ (k, v) ∈ m.entries := by
  constructor
  · intro h
    obtain ⟨e, he, rfl⟩ := Option.map_eq_some_iff.1 h
    obtain rfl : e.1 = k := by simpa using List.find?_some he
    exact List.mem_of_find?_eq_some he
  · intro h
    obtain ⟨front, back, heq⟩ := List.append_of_mem h
    have hordered := m.ordered
    rw [heq, List.pairwise_append] at hordered
    have hfront : ∀ e ∈ front, ¬ (e.1 == k) = true := by
      intro e he
      have hlt : e.1 < k := hordered.2.2 e he (k, v) List.mem_cons_self
      rw [beq_iff_eq]
      rintro rfl
      exact String.lt_irrefl _ hlt
    rw [find?, heq, List.find?_append, List.find?_eq_none.2 hfront]
    simp

theorem find?_eq_none_iff {m : OrderedMap α} {k : String} :
    m.find? k = none ↔ ∀ e ∈ m.entries, e.1 ≠ k := by
  simp [find?]

end OrderedMap

namespace Config

/-- An entry turns the rule off. -/
def Disables (c : Config) (rule : String) : Prop :=
  ∃ e ∈ c.rules.entries, e.1 = rule ∧ e.2.enabled = some false

instance (c : Config) : DecidablePred c.Disables :=
  fun _ => inferInstanceAs (Decidable (∃ _ ∈ _, _))

/-- The severity of a violation of the rule, before and after: the entry on the rule may give
    another one. -/
structure Regrades (c : Config) (rule : String) (before after : Severity) : Prop where
  of_entry : ∀ e ∈ c.rules.entries, e.1 = rule → after = e.2.severity.getD before
  of_no_entry : (∀ e ∈ c.rules.entries, e.1 ≠ rule) → after = before

theorem isRuleEnabled_iff {c : Config} {rule : String} :
    c.isRuleEnabled rule = true ↔ ¬ c.Disables rule := by
  rw [isRuleEnabled]
  cases hfind : c.rules.find? rule with
  | none =>
    rw [OrderedMap.find?_eq_none_iff] at hfind
    refine iff_of_true rfl ?_
    rintro ⟨e, he, hname, -⟩
    exact hfind e he hname
  | some entry =>
    have honly : ∀ e ∈ c.rules.entries, e.1 = rule → e.2 = entry := by
      rintro e he rfl
      rw [OrderedMap.find?_eq_some_iff.2 he] at hfind
      exact Option.some.inj hfind
    have hdisables : c.Disables rule ↔ entry.enabled = some false := by
      constructor
      · rintro ⟨e, he, hname, henabled⟩
        rwa [← honly e he hname]
      · exact fun henabled => ⟨_, OrderedMap.find?_eq_some_iff.1 hfind, rfl, henabled⟩
    rw [hdisables, Option.bind_some]
    rcases entry.enabled with _ | _ | _ <;> simp

theorem isRuleEnabled_eq (c : Config) :
    c.isRuleEnabled = fun rule => decide (¬ c.Disables rule) := by
  funext rule
  rw [Bool.eq_iff_iff, isRuleEnabled_iff, decide_eq_true_iff]

theorem regrades_ruleSeverity (c : Config) (rule : String) (before : Severity) :
    c.Regrades rule before ((c.ruleSeverity rule).getD before) := by
  refine ⟨?_, fun hnone => ?_⟩
  · rintro e he rfl
    rw [ruleSeverity, OrderedMap.find?_eq_some_iff.2 he, Option.bind_some]
  · rw [ruleSeverity, OrderedMap.find?_eq_none_iff.2 hnone]
    rfl

end Config

/-! ## Configurations without a say on rules -/

namespace OrderedMap

variable {α β : Type}

/-- The map with all values changed. -/
def mapValues (f : α → β) (m : OrderedMap α) : OrderedMap β where
  entries := m.entries.map fun e => (e.1, f e.2)
  ordered := by
    rw [List.pairwise_map]
    exact m.ordered

theorem find?_mapValues (f : α → β) (m : OrderedMap α) (k : String) :
    (m.mapValues f).find? k = (m.find? k).map f := by
  simp [find?, mapValues, List.find?_map, Function.comp_def]

end OrderedMap

namespace Config

/-- The configuration without its entries on whether rules run and how grave their violations
    are. -/
def neutral (c : Config) : Config :=
  { c with rules := c.rules.mapValues fun r => { r with enabled := none, severity := none } }

theorem isRuleEnabled_neutral (c : Config) (rule : String) :
    c.neutral.isRuleEnabled rule = true := by
  rw [isRuleEnabled, neutral, OrderedMap.find?_mapValues]
  cases c.rules.find? rule <;> rfl

theorem ruleSeverity_neutral (c : Config) (rule : String) :
    c.neutral.ruleSeverity rule = none := by
  rw [ruleSeverity, neutral, OrderedMap.find?_mapValues]
  cases c.rules.find? rule <;> rfl

end Config

/-- What only a rule knows the meaning of stays, and so the rules of a preset are the same. -/
theorem Preset.rules_neutral (c : Config) (p : Preset) : p.rules c.neutral = p.rules c := by
  have hreserved : Rule.configuredReservedField c.neutral = Rule.configuredReservedField c := by
    rw [Rule.configuredReservedField, Config.neutral, OrderedMap.find?_mapValues]
    cases hrule : c.rules.find? (Rule.reservedFieldInfo .error).name <;>
      simp [Rule.configuredReservedField, hrule, RuleConfig.texts]
  cases p <;> simp only [rules, common, hreserved]

/-! ## Fewer rules -/

theorem flatMap_filter {α β : Type} {l : List α} {f : α → List β} {keep : α → Bool}
    {keep' : β → Bool} (h : ∀ a ∈ l, ∀ b ∈ f a, keep' b = keep a) :
    (l.filter keep).flatMap f = (l.flatMap f).filter keep' := by
  induction l with
  | nil => rfl
  | cons a l ih =>
    obtain ⟨ha, hl⟩ := List.forall_mem_cons.1 h
    rw [List.flatMap_cons, List.filter_append, ← ih hl, List.filter_cons]
    cases hkeep : keep a with
    | false =>
      have hnone : (f a).filter keep' = [] :=
        List.filter_eq_nil_iff.2 fun b hb => by rw [ha b hb, hkeep]; decide
      rw [hnone, List.nil_append]
      rfl
    | true =>
      have hall : (f a).filter keep' = f a :=
        List.filter_eq_self.2 fun b hb => by rw [ha b hb, hkeep]
      rw [hall, if_pos rfl, List.flatMap_cons]

namespace Rule

/-- Rules that report under their own names. -/
def OwnNames {μ : Type} (rules : List (Rule μ)) : Prop :=
  ∀ r ∈ rules, ∀ ctx model, ∀ v ∈ r.found ctx model, v.rule = r.info.name

theorem foundBy_filter {μ : Type} {rules : List (Rule μ)} (h : OwnNames rules)
    (keep : String → Bool) (ctx : Context) (model : μ) :
    foundBy (rules.filter fun r => keep r.info.name) ctx model =
      (foundBy rules ctx model).filter fun v => keep v.rule := by
  rw [foundBy, applicable, List.filter_comm]
  refine flatMap_filter fun r hr v hv => ?_
  rw [h r (List.mem_filter.1 hr).1 ctx model v hv]

end Rule

/-- The rules for each kind of model report under their own names. -/
structure RuleSet.OwnNames (rules : RuleSet) : Prop where
  graph : Rule.OwnNames rules.graph
  dac : Rule.OwnNames rules.dac

theorem RuleSet.filter_true (rules : RuleSet) : rules.filter (fun _ => true) = rules := by
  simp [filter]

theorem Survey.ownNames {μ : Type} {IsModelOf : Context → TypeSymbol → μ → Prop}
    (vs : List (Survey IsModelOf)) : Rule.OwnNames (vs.map (·.rule)) := by
  intro r hr ctx model v hv
  obtain ⟨survey, -, rfl⟩ := List.mem_map.1 hr
  exact (survey.names_of_mem hv).1

theorem Preset.ownNames (c : Config) (p : Preset) : (p.rules c).OwnNames := by
  rw [← rules_surveys]
  exact ⟨Survey.ownNames _, Survey.ownNames _⟩

namespace Analyzer

/-- Rules that are left out take their violations with them and leave all others as they are. -/
theorem found_filter {a a₀ : Analyzer} {keep : String → Bool} (h : a₀.rules.OwnNames)
    (hrules : a.rules = a₀.rules.filter keep) (s : Snapshot)
    (hcontext : a.context s = a₀.context s) :
    a.found s = (a₀.found s).filter fun v => keep v.rule := by
  have hfoundAt : ∀ ctx handlers t,
      a.foundAt ctx handlers t = (a₀.foundAt ctx handlers t).filter fun v => keep v.rule := by
    intro ctx handlers t
    rw [foundAt, hrules, foundAt, List.filter_append, List.filter_flatMap, List.filter_flatMap]
    exact congrArg₂ (· ++ ·)
      (List.flatMap_congr fun m _ => Rule.foundBy_filter h.graph keep ctx m)
      (List.flatMap_congr fun d _ => Rule.foundBy_filter h.dac keep ctx d)
  rw [found, found, handlersOf, handlersOf, hcontext, List.filter_flatMap]
  exact List.flatMap_congr fun t _ => hfoundAt _ _ t

/-! ## Other severities -/

theorem rule_inFile (file : String) (v : Violation) : (inFile file v).rule = v.rule := by
  unfold inFile
  split <;> rfl

theorem inFile_override (a : Analyzer) (file : String) (v : Violation) :
    inFile file (a.override v) = a.override (inFile file v) := by
  simp only [override_eq, inFile]
  split <;> rfl

/-- Rules and severities have no part in the order, nor in the file of a violation. -/
theorem withSource_filter (a : Analyzer) (keep : String → Bool) (s : Snapshot)
    (vs : List Violation) (n : UInt64) :
    withSource s (LintResult.sort ⟨(vs.filter fun v => keep v.rule).map a.override, 0, n⟩) =
      let r := withSource s (LintResult.sort ⟨vs, 0, n⟩)
      { r with violations := (r.violations.filter fun v => keep v.rule).map a.override } := by
  have hsort : ∀ ws : List Violation,
      Violation.sort ((ws.filter fun v => keep v.rule).map a.override) =
        ((Violation.sort ws).filter fun v => keep v.rule).map a.override := by
    intro ws
    rw [Violation.sort_map, Violation.sort_filter] <;> simp [override_eq]
  unfold withSource LintResult.sort
  cases s.source with
  | none => simp only [hsort]
  | some file =>
    have hfile : ∀ ws : List Violation,
        ((ws.filter fun v => keep v.rule).map a.override).map (inFile file) =
          ((ws.map (inFile file)).filter fun v => keep v.rule).map a.override := by
      intro ws
      simp [List.filter_map, Function.comp_def, rule_inFile, inFile_override]
    simp only [hsort, hfile]

/-- **What a configuration says of rules is a filter on the violations.** The analysis of a snapshot
    with the rules of a preset gives the violations that it gives without the entries on whether
    rules run and how grave their violations are, in the same order, but for those of the rules that
    an entry turns off, and with the severities that the entries give. Nothing else of a violation
    changes. The same snapshots and types count as checked. -/
theorem analyzeSnapshot_post_filter (directory : String) (c : Config) (p : Preset)
    (root : Option String) (excludes : List String) (failOnInvalid : Bool) (s : Snapshot) :
    ∃ r r₀ : LintResult,
      (build directory c (p.rules c) root excludes failOnInvalid).analyzeSnapshot s {} =
        (.ok r, {}) ∧
      (build directory c.neutral (p.rules c.neutral) root excludes failOnInvalid).analyzeSnapshot
        s {} = (.ok r₀, {}) ∧
      List.Forall₂
        (fun v w => c.Regrades v.rule v.severity w.severity ∧ w = { v with severity := w.severity })
        (r₀.violations.filter fun v => ¬ c.Disables v.rule) r.violations ∧
      r.snapshotsChecked = r₀.snapshotsChecked ∧ r.typesChecked = r₀.typesChecked := by
  set a := build directory c (p.rules c) root excludes failOnInvalid
  set a₀ := build directory c.neutral (p.rules c.neutral) root excludes failOnInvalid
  have hneutral : a₀.rules = p.rules c := by
    have hall : c.neutral.isRuleEnabled = fun _ => true := funext c.isRuleEnabled_neutral
    rw [← p.rules_neutral c, ← (p.rules c.neutral).filter_true, ← hall]
    rfl
  have hrules : a.rules = a₀.rules.filter c.isRuleEnabled := by
    rw [hneutral]
    rfl
  have hnames : a₀.rules.OwnNames := by
    rw [hneutral]
    exact p.ownNames c
  have hoverride : a.override = fun v =>
      { v with severity := (c.ruleSeverity v.rule).getD v.severity } := funext a.override_eq
  have hkept : a₀.override = id := by
    funext v
    rw [override_eq, show a₀.config = c.neutral from rfl, c.ruleSeverity_neutral]
    rfl
  have ha := analyzeSnapshot_uninterrupted (a := a) ((p.builtIn_rules c).filter _).observes s
  have ha₀ := analyzeSnapshot_uninterrupted (a := a₀) ((p.builtIn_rules _).filter _).observes s
  rw [found_filter hnames hrules s rfl, withSource_filter, hoverride] at ha
  rw [hkept, List.map_id] at ha₀
  refine ⟨_, _, ha, ha₀, ?_, rfl, rfl⟩
  rw [c.isRuleEnabled_eq, List.forall₂_map_right_iff]
  exact List.forall₂_same.2 fun v _ => ⟨c.regrades_ruleSeverity v.rule v.severity, rfl⟩

end Analyzer

end SnapshotLint

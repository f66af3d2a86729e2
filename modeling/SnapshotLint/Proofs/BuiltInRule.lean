/-
  The rules that come with the linter, and what they have in common: they poll, judge and report,
  but never fail by themselves and never cancel the token.
-/
import SnapshotLint.Rule.Preset

namespace SnapshotLint

/-- A step that polls, judges or reports. -/
def Step.Observes : Step → Prop
  | poll | report _ | judge _ => True
  | cancel | fail _ | crash _ => False

namespace Rule

/-- A rule all of whose steps poll, judge or report. -/
def Observes {μ : Type} (r : Rule μ) : Prop := ∀ ctx model, ∀ step ∈ r.steps ctx model, step.Observes

theorem observes_forEach {α : Type} {xs : List α} {steps : α → List Step}
    (h : ∀ x ∈ xs, ∀ step ∈ steps x, step.Observes) :
    ∀ step ∈ Step.forEach xs steps, step.Observes := by
  intro step hstep
  obtain ⟨x, hx, hstep⟩ := List.mem_flatMap.1 hstep
  rcases List.mem_cons.1 hstep with rfl | hstep
  · exact trivial
  · exact h x hx step hstep

/-- The rules for graphs that come with the linter, with any severity. -/
inductive BuiltInGraph : GraphRule → Prop
  | extensionConstructor (severity : Severity) : BuiltInGraph (extensionConstructor severity)
  | classicSignature (severity : Severity) : BuiltInGraph (classicSignature severity)

/-- The rules for data access classes that come with the linter, with any severity and any further
    reserved names. -/
inductive BuiltInDac : DacRule → Prop
  | reservedField (severity : Severity) (extra : List String) :
      BuiltInDac (reservedField severity extra)
  | unsafeDefault (severity : Severity) : BuiltInDac (unsafeDefault severity)

theorem BuiltInGraph.observes {r : GraphRule} (h : BuiltInGraph r) : r.Observes := by
  intro ctx m
  cases h with
  | extensionConstructor severity =>
    refine observes_forEach fun c _ step hstep => ?_
    rw [List.mem_singleton.1 hstep]
    exact trivial
  | classicSignature severity =>
    refine observes_forEach fun o _ step hstep => ?_
    split at hstep
    · rw [List.mem_singleton.1 hstep]
      exact trivial
    · cases hstep

theorem BuiltInDac.observes {r : DacRule} (h : BuiltInDac r) : r.Observes := by
  intro ctx d
  cases h with
  | reservedField severity extra =>
    refine observes_forEach fun m _ step hstep => ?_
    split at hstep
    · rw [List.mem_singleton.1 hstep]
      exact trivial
    · cases hstep
  | unsafeDefault severity =>
    refine observes_forEach fun p _ step hstep => ?_
    rw [List.mem_singleton.1 hstep]
    exact trivial

end Rule

namespace RuleSet

/-- A set of rules that come with the linter. -/
def BuiltIn (s : RuleSet) : Prop :=
  (∀ r ∈ s.graph, Rule.BuiltInGraph r) ∧ ∀ r ∈ s.dac, Rule.BuiltInDac r

theorem BuiltIn.append {s t : RuleSet} (hs : s.BuiltIn) (ht : t.BuiltIn) : (s ++ t).BuiltIn := by
  refine ⟨fun r hr => ?_, fun r hr => ?_⟩
  · rcases List.mem_append.1 hr with hr | hr
    · exact hs.1 r hr
    · exact ht.1 r hr
  · rcases List.mem_append.1 hr with hr | hr
    · exact hs.2 r hr
    · exact ht.2 r hr

theorem BuiltIn.filter {s : RuleSet} (hs : s.BuiltIn) (keep : String → Bool) :
    (s.filter keep).BuiltIn :=
  ⟨fun r hr => hs.1 r (List.mem_filter.1 hr).1, fun r hr => hs.2 r (List.mem_filter.1 hr).1⟩

theorem builtIn_ofGraph {r : GraphRule} (h : Rule.BuiltInGraph r) : (ofGraph r).BuiltIn := by
  refine ⟨fun r' hr => ?_, by simp [ofGraph]⟩
  rw [List.mem_singleton.1 hr]
  exact h

theorem builtIn_ofDac {r : DacRule} (h : Rule.BuiltInDac r) : (ofDac r).BuiltIn := by
  refine ⟨by simp [ofDac], fun r' hr => ?_⟩
  rw [List.mem_singleton.1 hr]
  exact h

theorem names_filter (keep : String → Bool) (s : RuleSet) :
    (s.filter keep).names.Sublist s.names := by
  refine List.Sublist.map _ (List.Sublist.append ?_ ?_)
  · exact List.filter_sublist.map _
  · exact List.filter_sublist.map _

/-- A set of rules all of whose steps poll, judge or report. -/
def Observes (s : RuleSet) : Prop := (∀ r ∈ s.graph, r.Observes) ∧ ∀ r ∈ s.dac, r.Observes

theorem BuiltIn.observes {s : RuleSet} (h : s.BuiltIn) : s.Observes :=
  ⟨fun r hr => (h.1 r hr).observes, fun r hr => (h.2 r hr).observes⟩

end RuleSet

/-- Every preset is made of built-in rules, whatever the configuration. -/
theorem Preset.builtIn_rules (c : Config) (p : Preset) : (p.rules c).BuiltIn := by
  have hcommon : (common c).BuiltIn := by
    refine ⟨fun r hr => ?_, fun r hr => ?_⟩
    · rw [List.mem_singleton.1 hr]
      exact .extensionConstructor _
    · rcases List.mem_cons.1 hr with rfl | hr
      · exact .reservedField _ _
      · rw [List.mem_singleton.1 hr]
        exact .unsafeDefault _
  cases p with
  | recommended => exact hcommon
  | strict => exact hcommon.append (RuleSet.builtIn_ofGraph (.classicSignature _))
  | minimal => exact RuleSet.builtIn_ofDac (.reservedField _ _)
  | all => exact hcommon.append (RuleSet.builtIn_ofGraph (.classicSignature _))

end SnapshotLint

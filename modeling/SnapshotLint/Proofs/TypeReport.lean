/-
  What the analysis of a snapshot says of one type.

  Violations name the type that they are about. So those that name a type which is not suppressed
  are what the rules find in the models of this type, whatever other types there are:
  `Analyzer.violations_of_type`. With a single rule, they are what this rule finds:
  `Analyzer.violations_of_dacRule`, `Analyzer.violations_of_graphRule`.
-/
import SnapshotLint.Proofs.ReportedOnce

namespace SnapshotLint

/-- Of elements with names of their own, only one contributes under its name. -/
theorem flatMap_ite_name {α β : Type} {xs : List α} {name : α → String}
    (hxs : (xs.map name).Nodup) {x : α} (hx : x ∈ xs) (f : α → List β) :
    (xs.flatMap fun y => if name y = name x then f y else []) = f x := by
  obtain ⟨front, back, rfl⟩ := List.append_of_mem hx
  rw [List.map_append, List.map_cons, List.nodup_append, List.nodup_cons] at hxs
  obtain ⟨-, ⟨hback, -⟩, hfront⟩ := hxs
  have hnil : ∀ ys : List α, (∀ y ∈ ys, name y ≠ name x) →
      (ys.flatMap fun y => if name y = name x then f y else []) = [] := by
    intro ys hys
    rw [List.flatMap_eq_nil_iff]
    exact fun y hy => if_neg (hys y hy)
  have hbefore := hnil front fun y hy =>
    hfront _ (List.mem_map_of_mem hy) _ List.mem_cons_self
  have hafter := hnil back fun y hy heq => hback (heq ▸ List.mem_map_of_mem hy)
  rw [List.flatMap_append, List.flatMap_cons, hbefore, hafter, if_pos rfl, List.nil_append,
    List.append_nil]

namespace Analyzer

variable {a : Analyzer} {s : Snapshot} {t : TypeSymbol}

theorem filter_found {q : SurveySet} (ha : a.rules = q.rules) (hnames : q.rules.names.Nodup)
    (ht : t ∈ s.types) (hsuppressed : a.config.framework.isSuppressed t = false) :
    (a.found s).filter (·.symbol = some t.name) = a.foundAt (a.context s) (a.handlersOf s) t := by
  have hanalysed : (analysed (a.context s) s.types).Sublist s.types := List.filter_sublist
  have hsymbol : ∀ u ∈ s.types, ∀ v ∈ a.foundAt (a.context s) (a.handlersOf s) u,
      v.symbol = some u.name := by
    intro u hu v hv
    rw [q.foundAt_eq_findingsAt _ _ ha] at hv
    obtain ⟨f, hf, rfl⟩ := List.mem_map.1 hv
    exact SurveySet.symbol_of_mem_findingsAt (a.handlersOf s) hnames hu hf
  have hfilter : ∀ u ∈ analysed (a.context s) s.types,
      (a.foundAt (a.context s) (a.handlersOf s) u).filter (·.symbol = some t.name) =
        if u.name = t.name then a.foundAt (a.context s) (a.handlersOf s) u else [] := by
    intro u hu
    have hu := hsymbol u (hanalysed.subset hu)
    split
    · next heq =>
      rw [List.filter_eq_self]
      exact fun v hv => decide_eq_true (by rw [hu v hv, heq])
    · next hne =>
      rw [List.filter_eq_nil_iff]
      intro v hv
      simpa [hu v hv] using hne
  rw [found, List.filter_flatMap, List.flatMap_congr hfilter]
  refine flatMap_ite_name (s.distinct.sublist (hanalysed.map _)) ?_ _
  exact List.mem_filter.2 ⟨ht, by simpa [context] using hsuppressed⟩

/-- The violations that name a type are what the rules find in its models. -/
theorem violations_of_type {q : SurveySet} (ha : a.rules = q.rules) (hobserves : q.rules.Observes)
    (hnames : q.rules.names.Nodup) (ht : t ∈ s.types)
    (hsuppressed : a.config.framework.isSuppressed t = false) :
    ∃ r, a.analyzeSnapshot s {} = (.ok r, {}) ∧
      (r.violations.filter (·.symbol = some t.name)).Perm
        ((a.foundAt (a.context s) (a.handlersOf s) t).map (a.finish s)) := by
  refine ⟨_, analyzeSnapshot_uninterrupted (ha ▸ hobserves) s, ?_⟩
  refine ((violations_withSource a s (a.found s) _).filter _).trans ?_
  rw [List.filter_map, ← filter_found ha hnames ht hsuppressed]
  simp only [Function.comp_def, symbol_finish]
  exact .refl _

theorem flatMap_foundBy_nil {μ : Type} (ctx : Context) (models : List μ) :
    models.flatMap (Rule.foundBy [] ctx) = [] :=
  List.flatMap_eq_nil_iff.2 fun _ _ => rfl

section
variable (ht : t ∈ s.types) (hsuppressed : a.config.framework.isSuppressed t = false)
include ht hsuppressed

theorem violations_of_dacRule {v : Survey DacModel.IsModelOf} (ha : a.rules = .ofDac v.rule)
    {d : DacModel} (hmodels : DacModel.modelsOf (a.context s) t = [d])
    (henabled : v.rule.isEnabled (a.context s).framework = true)
    (happlies : v.rule.applies d = false → v.rule.found (a.context s) d = []) :
    ∃ r, a.analyzeSnapshot s {} = (.ok r, {}) ∧
      (r.violations.filter (·.symbol = some t.name)).Perm
        ((v.rule.found (a.context s) d).map (a.finish s)) := by
  have hobserves : (SurveySet.mk [] [v]).rules.Observes :=
    ⟨by simp [SurveySet.rules], by simpa [SurveySet.rules] using v.observes⟩
  have hfound : a.foundAt (a.context s) (a.handlersOf s) t = v.rule.found (a.context s) d := by
    rw [foundAt, ha, RuleSet.ofDac, flatMap_foundBy_nil, hmodels, List.flatMap_singleton,
      Rule.foundBy_singleton henabled happlies, List.nil_append]
  rw [← hfound]
  exact violations_of_type (q := ⟨[], [v]⟩) ha hobserves (List.nodup_singleton _) ht hsuppressed

theorem violations_of_graphRule {v : Survey EventModel.IsModelOf} (ha : a.rules = .ofGraph v.rule)
    {m : EventModel} (hmodels : EventModel.modelsOf (a.context s) (a.handlersOf s) t = [m])
    (henabled : v.rule.isEnabled (a.context s).framework = true)
    (happlies : v.rule.applies m = false → v.rule.found (a.context s) m = []) :
    ∃ r, a.analyzeSnapshot s {} = (.ok r, {}) ∧
      (r.violations.filter (·.symbol = some t.name)).Perm
        ((v.rule.found (a.context s) m).map (a.finish s)) := by
  have hobserves : (SurveySet.mk [v] []).rules.Observes :=
    ⟨by simpa [SurveySet.rules] using v.observes, by simp [SurveySet.rules]⟩
  have hfound : a.foundAt (a.context s) (a.handlersOf s) t = v.rule.found (a.context s) m := by
    rw [foundAt, ha, RuleSet.ofGraph, flatMap_foundBy_nil, hmodels, List.flatMap_singleton,
      Rule.foundBy_singleton henabled happlies, List.append_nil]
  rw [← hfound]
  exact violations_of_type (q := ⟨[v], []⟩) ha hobserves (List.nodup_singleton _) ht hsuppressed

end

end Analyzer

end SnapshotLint

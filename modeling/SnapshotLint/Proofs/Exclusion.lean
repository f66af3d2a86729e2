/-
  Which files are left out, and what further patterns do.

  An analyzer goes by the patterns that it is given and by the configured ones, or by the stock ones
  if there are neither (`Analyzer.allExcludes`). Unless the stock ones count, a further pattern
  leaves out what it matches, and nothing comes back (`Analyzer.any_allExcludes_append`). The first
  pattern that is given takes the place of the stock ones, and then files can come back. Both are
  said by `Analyzer.isExcluded_monotone`, whatever decides if a single pattern leaves out a path;
  `Analyzer.isExcluded_not_monotone` is a file that comes back.
-/
import Mathlib.Data.List.Basic
import SnapshotLint.Analyzer

namespace SnapshotLint.Analyzer

variable {c : Config} {given more : List String}

/-- Neither the caller nor the configuration names a pattern, and so the stock ones count. -/
def StockExcludesCount (c : Config) (given : List String) : Prop :=
  given = [] ∧ c.analyzer.exclude = []

theorem allExcludes_of_stock (h : StockExcludesCount c given) :
    allExcludes given c = stockExcludes := by
  rw [allExcludes, h.1, h.2]
  rfl

theorem allExcludes_of_not_stock (h : ¬ StockExcludesCount c given) :
    allExcludes given c = given ++ c.analyzer.exclude := by
  have hsome : (given ++ c.analyzer.exclude).isEmpty = false := by
    rw [List.isEmpty_eq_false_iff, ne_eq, List.append_eq_nil_iff]
    exact h
  rw [allExcludes, hsome, if_neg Bool.false_ne_true]

/-- Whatever decides about a single pattern, further patterns leave out what one of them leaves out,
    and what was left out before. -/
theorem any_allExcludes_append (h : ¬ StockExcludesCount c given) (leavesOut : String → Bool) :
    (allExcludes (given ++ more) c).any leavesOut =
      ((allExcludes given c).any leavesOut || more.any leavesOut) := by
  have happend : ¬ StockExcludesCount c (given ++ more) :=
    fun hstock => h ⟨(List.append_eq_nil_iff.1 hstock.1).1, hstock.2⟩
  rw [allExcludes_of_not_stock h, allExcludes_of_not_stock happend]
  simp only [List.any_append, Bool.or_right_comm]

/-- The first patterns that are given take the place of the stock ones. -/
theorem any_allExcludes_of_stock (h : StockExcludesCount c given) (hmore : more ≠ [])
    (leavesOut : String → Bool) :
    (allExcludes (given ++ more) c).any leavesOut = more.any leavesOut := by
  obtain ⟨rfl, hconfig⟩ := h
  have hgiven : ¬ StockExcludesCount c ([] ++ more) := fun hstock => hmore hstock.1
  rw [allExcludes_of_not_stock hgiven, hconfig, List.nil_append, List.append_nil]

theorem discover_eq_ok_iff {a : Analyzer} {fs : FileSystem} {files : List String} :
    a.discover fs = .ok files ↔ ∃ paths, Glob.paths? fs (a.root ++ "/**/*.json") = some paths ∧
      files = paths.filter (!a.isExcluded ·) := by
  rw [discover]
  cases Glob.paths? fs (a.root ++ "/**/*.json") with
  | none => simp
  | some paths => simp [eq_comm]

/-- **Further patterns bring no file back, unless they take the place of the stock ones.** If some
    pattern is given or configured, or if there are no further ones, then what is left out stays
    left out, whatever decides about a single pattern, and the files that are found are some of
    those found before. If none is given or configured, only the stock patterns count without the
    further ones, and only the further ones count with them. -/
theorem isExcluded_monotone (directory : String) (c : Config) (rules : RuleSet)
    (root : Option String) (failOnInvalid : Bool) (given more : List String) :
    let a (patterns : List String) := build directory c rules root patterns failOnInvalid
    ((given ≠ [] ∨ c.analyzer.exclude ≠ [] ∨ more = []) →
      (∀ leavesOut : String → Bool, (a given).excludes.any leavesOut = true →
        (a (given ++ more)).excludes.any leavesOut = true) ∧
      (∀ path, (a given).isExcluded path = true → (a (given ++ more)).isExcluded path = true) ∧
      ∀ fs files, (a given).discover fs = .ok files →
        ∃ files', (a (given ++ more)).discover fs = .ok files' ∧ files'.Sublist files) ∧
    (given = [] → c.analyzer.exclude = [] → more ≠ [] → ∀ path,
      (a given).isExcluded path = stockExcludes.any (matchesExclude path) ∧
        (a (given ++ more)).isExcluded path = more.any (matchesExclude path)) := by
  intro a
  refine ⟨fun h => ?_, fun hgiven hconfig hmore path => ?_⟩
  · have hany : ∀ leavesOut : String → Bool, (a given).excludes.any leavesOut = true →
        (a (given ++ more)).excludes.any leavesOut = true := by
      intro leavesOut hout
      by_cases hstock : StockExcludesCount c given
      · have hmore : more = [] := by
          rcases h with h | h | h
          · exact absurd hstock.1 h
          · exact absurd hstock.2 h
          · exact h
        rwa [hmore, List.append_nil]
      · have happend : (a (given ++ more)).excludes.any leavesOut = _ :=
          any_allExcludes_append hstock leavesOut
        rw [happend, Bool.or_eq_true]
        exact Or.inl hout
    refine ⟨hany, fun path => hany (matchesExclude path), fun fs files hfiles => ?_⟩
    obtain ⟨paths, hpaths, rfl⟩ := discover_eq_ok_iff.1 hfiles
    refine ⟨_, discover_eq_ok_iff.2 ⟨paths, hpaths, rfl⟩, List.monotone_filter_right _ ?_⟩
    intro path hkept
    rw [Bool.not_eq_true', ← Bool.not_eq_true] at hkept ⊢
    exact fun hout => hkept (hany (matchesExclude path) hout)
  · have hstock : StockExcludesCount c given := ⟨hgiven, hconfig⟩
    refine ⟨?_, any_allExcludes_of_stock hstock hmore _⟩
    exact congrArg (·.any (matchesExclude path)) (allExcludes_of_stock hstock)

/-- The configured pattern leaves out what it did, with a further pattern and without it; and a
    first pattern takes the place of the stock ones. -/
theorem isExcluded_monotone_generated :
    let a (configured given : List String) :=
      build "/" { analyzer := { exclude := configured } } {} none given
    let generated := "/orders/generated/types.json"
    let compiled := "/orders/obj/types.json"
    (a ["**/generated/**"] []).isExcluded generated = true ∧
      (a ["**/generated/**"] ([] ++ ["*.tmp.json"])).isExcluded generated = true ∧
      (a [] []).isExcluded compiled = stockExcludes.any (matchesExclude compiled) ∧
      (a [] ([] ++ ["*.tmp.json"])).isExcluded compiled =
        ["*.tmp.json"].any (matchesExclude compiled) := by
  intro a generated compiled
  have hexcluded : (a ["**/generated/**"] []).isExcluded generated = true := by
    decide +kernel +revert
  obtain ⟨hmore, -⟩ := isExcluded_monotone "/" { analyzer := { exclude := ["**/generated/**"] } } {}
    none false [] ["*.tmp.json"]
  obtain ⟨-, hmonotone, -⟩ := hmore (Or.inr (Or.inl (List.cons_ne_nil _ _)))
  obtain ⟨-, hstock⟩ := isExcluded_monotone "/" { analyzer := { exclude := [] } } {} none false []
    ["*.tmp.json"]
  obtain ⟨hwithout, hwith⟩ := hstock rfl rfl (List.cons_ne_nil _ _) compiled
  exact ⟨hexcluded, hmonotone generated hexcluded, hwithout, hwith⟩

/-- A file that is left out comes back with a further pattern. -/
theorem isExcluded_not_monotone :
    let a (given : List String) := build "/" { analyzer := { exclude := [] } } {} none given
    (a []).isExcluded "/orders/bin/types.json" = true ∧
      (a ([] ++ ["**/generated/**"])).isExcluded "/orders/bin/types.json" = false := by
  decide +kernel

end SnapshotLint.Analyzer

/-
  What the rule on reserved fields reports of a type.

  * `TypeHandle.newest`: the last of the qualifying members of a type under each of their names.
  * `DacModel.IsModelOf.perm_declaredFields`: these are the fields that the model of a class
    declares, if the class does not extend itself.
  * `Rule.IsReserved`: which names are reserved; `Rule.reservedFieldViolations`: what is to be said
    of the newest fields with such a name, and where.
  * `Rule.reservedField_reports_newest`: the rule reports this, and nothing else.
-/
import Mathlib.Data.List.Dedup
import SnapshotLint.Proofs.TopLayer
import SnapshotLint.Proofs.TypeReport

namespace SnapshotLint

/-! ## The newest members of a type -/

namespace TypeHandle

variable (p : MemberHandle → Prop) [DecidablePred p]

/-- The last member under each of the different names that the qualifying members of a type have. -/
def newest (t : TypeHandle) : List MemberHandle :=
  ((t.members.filter (p ·)).map (·.name)).dedup.filterMap (t.last? p ·)

variable {p} {t : TypeHandle} {m : MemberHandle} {n : String}

theorem of_last? (h : t.last? p n = some m) : m ∈ t.members ∧ m.name = n ∧ p m := by
  simpa using List.mem_filter.1 (List.mem_of_getLast? h)

theorem mem_newest_iff : m ∈ t.newest p ↔ t.last? p m.name = some m := by
  rw [newest, List.mem_filterMap]
  constructor
  · rintro ⟨n, -, hlast⟩
    rwa [(of_last? hlast).2.1]
  · intro hlast
    obtain ⟨hm, -, hp⟩ := of_last? hlast
    refine ⟨m.name, List.mem_dedup.2 (List.mem_map_of_mem ?_), hlast⟩
    exact List.mem_filter.2 ⟨hm, decide_eq_true hp⟩

theorem nodup_newest : (t.newest p).Nodup := by
  refine List.Nodup.filterMap (fun n n' m hn hn' => ?_) (List.nodup_dedup _)
  rw [← (of_last? hn).2.1, (of_last? hn').2.1]

end TypeHandle

/-! ## The fields that a class declares -/

namespace DacModel

variable {ctx : Context} {t : TypeSymbol}

theorem answer_fieldClasses (ctx : Context) (l : Layer) :
    (layerFieldClasses ctx l).answer ctx.snapshot =
      (l.type.members.filter (IsFieldClass ctx ·)).map fun m => (m.name, m) := by
  rw [answer_layerFieldClasses, ← flatMap_ite_singleton]
  simp only [isFieldClass_iff]

theorem exists_modelsOf (ht : t ∈ ctx.snapshot.types) (hfamily : ctx.InFamily .dac ⟨t, .snapshot⟩) :
    ∃ d, modelsOf ctx t = [d] ∧ IsModelOf ctx t d := by
  have hmodel := answer_infer hfamily
  exact ⟨_, hmodel, isModelOf_of_mem ht (by rw [modelsOf, hmodel]; exact List.mem_cons_self)⟩

variable {d : DacModel} (h : IsModelOf ctx t d) (hfamily : ctx.InFamily .dac ⟨t, .snapshot⟩)
  (hself : ¬ ctx.ExtendsItself .dac ⟨t, .snapshot⟩)
include h hfamily hself

theorem IsModelOf.exists_top : ∃ below top, d.layers = below ++ [top] ∧
    top.type = ⟨t, .snapshot⟩ ∧ ∀ l ∈ below, l.type.name ≠ top.type.name := by
  obtain ⟨below, top, hlayers, htop, hbelow⟩ := Hierarchy.exists_top h.known hfamily hself
  refine ⟨below, top, ?_, htop, by rwa [htop]⟩
  rw [h.linearized.2, h.symbol_eq, hlayers]

/-- What a collection of qualifying members holds of the class itself are its newest members. -/
theorem IsModelOf.perm_newest {α : Type} {p : MemberHandle → Prop} [DecidablePred p]
    {select : Layer → List (String × α)} {member : α → MemberHandle} {item : MemberHandle → α}
    (hitem : ∀ m, member (item m) = m)
    (hselect : ∀ l, select l = (l.type.members.filter (p ·)).map fun m => (m.name, item m))
    {os : List (Overridable α)} (hos : os = (Collection.ofLayers d.layers select).items.filter
      fun o => (member o.item).owner.same d.symbol)
    (hnodup : (os.map fun o => member o.item).Nodup) :
    (os.map fun o => member o.item).Perm (TypeHandle.newest p ⟨t, .snapshot⟩) := by
  obtain ⟨below, top, hlayers, htop, hbelow⟩ := h.exists_top hfamily hself
  have hpairwise := h.pairwise
  rw [hlayers] at hos hpairwise
  rw [List.perm_ext_iff_of_nodup hnodup TypeHandle.nodup_newest]
  intro m
  have hmem := Collection.mem_top_members_iff (m := m) hpairwise hbelow hitem hselect
  rw [TypeHandle.mem_newest_iff, ← htop]
  refine Iff.trans ?_ hmem
  rw [hos, htop, h.symbol_eq]
  simp only [List.mem_map, List.mem_filter, and_assoc]

theorem IsModelOf.perm_declaredFields : (Rule.declaredFields d).Perm
    (TypeHandle.newest (IsFieldClass ctx) ⟨t, .snapshot⟩ ++
      TypeHandle.newest IsProperty ⟨t, .snapshot⟩) := by
  obtain ⟨hfieldClasses, hproperties, -⟩ := h.nodup_declared
  refine List.Perm.append ?_ ?_
  · refine h.perm_newest hfamily hself (fun m => (rfl : id (id m) = m)) (answer_fieldClasses ctx) ?_
      hfieldClasses
    rw [declaredFieldClasses, h.collected.fieldClasses_eq]
    rfl
  · refine h.perm_newest hfamily hself (fun _ => rfl) (answer_layerProperties ctx) ?_ hproperties
    rw [declaredProperties, h.collected.properties_eq]

end DacModel

/-! ## Reserved names -/

namespace Rule

/-- The name is one of those that the framework keeps for itself, or a further one, up to the case
    of letters. -/
def IsReserved (extra : List String) (name : String) : Prop :=
  ∃ reserved ∈ ["CompanyID", "CompanyMask", "DeletedDatabaseRecord"] ++ extra,
    Text.eqIgnoreCase reserved name = true

instance (extra : List String) : DecidablePred (IsReserved extra) :=
  fun _ => inferInstanceAs (Decidable (∃ _ ∈ _, _))

/-- How grave it is to use a reserved name: the mark of deleted records may be used, with a warning,
    unless the analysis is that of a certified solution. -/
def reservedGravity (severity : Severity) (f : Framework) (name : String) : Severity :=
  if Text.eqIgnoreCase "DeletedDatabaseRecord" name && !f.isvSpecificAnalyzers then .warning
  else severity

theorem reservedSeverity_eq (severity : Severity) (extra : List String) (f : Framework)
    (name : String) : reservedSeverity severity extra f name =
      if IsReserved extra name then some (reservedGravity severity f name) else none := by
  have hcomm : Text.eqIgnoreCase name deletedRecordField =
      Text.eqIgnoreCase "DeletedDatabaseRecord" name := Bool.beq_comm
  have hreserved : IsReserved extra name ↔
      Text.eqIgnoreCase "DeletedDatabaseRecord" name = true ∨
        ((reservedFields ++ extra).any fun reserved => Text.eqIgnoreCase reserved name) = true := by
    simp [IsReserved, reservedFields, or_left_comm]
  rw [reservedSeverity, hcomm, reservedGravity]
  by_cases hdeleted : Text.eqIgnoreCase "DeletedDatabaseRecord" name = true
  · rw [if_pos hdeleted, if_pos (hreserved.2 (.inl hdeleted)), hdeleted]
    cases f.isvSpecificAnalyzers <;> rfl
  · rw [if_neg hdeleted]
    simp [hreserved, hdeleted]

theorem found_reservedField (severity : Severity) (extra : List String) (ctx : Context)
    (d : DacModel) : (reservedField severity extra).found ctx d =
      ((declaredFields d).filter (IsReserved extra ·.name)).map fun m =>
        reservedFieldViolation (reservedFieldInfo severity)
          (reservedGravity severity ctx.framework m.name) m := by
  have hfound := (reservedFieldSurvey severity extra).found_eq ctx d
  refine hfound.trans ?_
  rw [reservedFieldSurvey, List.filterMap_map, ← List.filterMap_eq_map, List.filterMap_filter]
  refine List.filterMap_congr fun m _ => ?_
  simp only [Function.comp_apply, reservedSeverity_eq, decide_eq_true_eq]
  split <;> rfl

/-- The violations by the newest field classes and properties of a type with a reserved name. Each
    stands where its field is declared, and names the type. -/
def reservedFieldViolations (severity : Severity) (extra : List String) (ctx : Context)
    (t : TypeHandle) : List Violation :=
  ((t.newest (IsFieldClass ctx) ++ t.newest IsProperty).filter (IsReserved extra ·.name)).map
    fun m =>
      { code := "EL1027"
        rule := "dac-forbidden-fields"
        severity := reservedGravity severity ctx.framework m.name
        location := m.location.getD {}
        message := "'" ++ m.name ++ "' is reserved by the framework and must not be declared in a DAC"
        symbol := some m.owner.name
        suggestion := some "Remove the field declaration" }

/-- **The reserved fields of a type are reported, each name once.** If a data access class or an
    extension of one does not extend itself, the rule reports the last of its field classes under
    each reserved name that they have, the last of its properties under each reserved name that
    those have, each at the place of this last declaration, and nothing else. What the type inherits
    does not matter. The same is what the analysis of the whole snapshot by this rule has to say of
    the type, unless it is suppressed. -/
theorem reservedField_reports_newest (severity : Severity) (extra : List String) {ctx : Context}
    {t : TypeSymbol} (ht : t ∈ ctx.snapshot.types) (hfamily : ctx.InFamily .dac ⟨t, .snapshot⟩)
    (hself : ¬ ctx.ExtendsItself .dac ⟨t, .snapshot⟩) :
    (∀ sink, ∃ vs, checkInferred [reservedField severity extra] ctx
        (DacModel.infer ctx ⟨t, .snapshot⟩) { sink } = (.ok 1, { sink := sink ++ vs }) ∧
      vs.Perm (reservedFieldViolations severity extra ctx ⟨t, .snapshot⟩)) ∧
    ∀ a : Analyzer, a.rules = .ofDac (reservedField severity extra) →
      a.config.framework = ctx.framework → ctx.framework.isSuppressed t = false →
      ∃ r, a.analyzeSnapshot ctx.snapshot {} = (.ok r, {}) ∧
        (r.violations.filter (·.symbol = some t.name)).Perm
          ((reservedFieldViolations severity extra ctx ⟨t, .snapshot⟩).map
            (a.finish ctx.snapshot)) := by
  obtain ⟨d, hmodels, hd⟩ := DacModel.exists_modelsOf ht hfamily
  have hfound : ((reservedField severity extra).found ctx d).Perm
      (reservedFieldViolations severity extra ctx ⟨t, .snapshot⟩) := by
    rw [found_reservedField]
    exact ((hd.perm_declaredFields hfamily hself).filter _).map _
  refine ⟨fun sink => ⟨_, ?_, hfound⟩, fun a ha hframework hsuppressed => ?_⟩
  · exact checkInferred_singleton (BuiltInDac.reservedField severity extra).observes hmodels rfl
      (fun happlies => by cases happlies) sink
  · have hctx : a.context ctx.snapshot = ctx := by rw [Analyzer.context, hframework]
    rw [← hctx] at hmodels
    rw [← hframework] at hsuppressed
    obtain ⟨r, hr, hviolations⟩ := Analyzer.violations_of_dacRule ht hsuppressed
      (v := reservedFieldSurvey severity extra) ha hmodels rfl (fun happlies => by cases happlies)
    rw [hctx] at hviolations
    exact ⟨r, hr, hviolations.trans (hfound.map _)⟩

/-- An extension declares a reserved property twice, once more in another case, and as a field
    class. The property is reported where it is declared last, and the one that the extension
    inherits is not reported. -/
theorem reservedField_reports_newest_orderExt :
    let order : TypeSymbol :=
      { name := "Order"
        interfaces := [{ name := "IBqlTable" }]
        members := [{ name := "CompanyMask", kind := .property }] }
    let property (name : String) (line : UInt64) : Member :=
      { name, kind := .property, location := some { file := "Order.cs", line } }
    let fieldClass : Member :=
      { name := "companyID", kind := .nestedType, type := some { name := "IBqlField" }
        location := some { file := "Order.cs", line := 4 } }
    let extension : TypeSymbol :=
      { name := "OrderExt"
        base := some { name := "PXCacheExtension", args := [{ name := "Order" }] }
        members := [fieldClass, property "CompanyID" 5, property "NOTE" 6, property "Total" 7,
          property "CompanyID" 8] }
    let ctx : Context := { snapshot := { types := [order, extension], distinct := by decide } }
    let a : Analyzer :=
      { root := "/orders", rules := .ofDac (reservedField .error ["note"]), excludes := [] }
    let violation (name : String) (line : UInt64) : Violation :=
      { code := "EL1027", rule := "dac-forbidden-fields", severity := .error
        location := { file := "Order.cs", line }
        message := "'" ++ name ++ "' is reserved by the framework and must not be declared in a DAC"
        symbol := some "OrderExt", suggestion := some "Remove the field declaration" }
    extension ∈ ctx.snapshot.types ∧ ctx.InFamily .dac ⟨extension, .snapshot⟩ ∧
      ¬ ctx.ExtendsItself .dac ⟨extension, .snapshot⟩ ∧
      ctx.framework.isSuppressed extension = false ∧
      ∃ r, a.analyzeSnapshot ctx.snapshot {} = (.ok r, {}) ∧
        (r.violations.filter (·.symbol = some "OrderExt")).Perm
          [violation "companyID" 4, violation "NOTE" 6, violation "CompanyID" 8] := by
  intro order property fieldClass extension ctx a violation
  let h := (Hierarchy.linearize ctx .dac ⟨extension, .snapshot⟩).answer ctx.snapshot
  have hhierarchy : extension ∈ ctx.snapshot.types ∧ h.role ≠ .unrelated ∧
      ¬ (h.role = .extension ∧ ∃ r ∈ h.rootArgs,
        ⟨extension, .snapshot⟩ ∈ ctx.walkOf (Family.dac.roots ctx.framework) r) ∧
      ctx.framework.isSuppressed extension = false := by
    decide +kernel +revert
  have hreported : ((reservedFieldViolations .error ["note"] ctx ⟨extension, .snapshot⟩).map
      (a.finish ctx.snapshot)).Perm
        [violation "companyID" 4, violation "NOTE" 6, violation "CompanyID" 8] := by
    decide +kernel +revert
  obtain ⟨hmem, hrole, hwalk, hsuppressed⟩ := hhierarchy
  have hfamily := Context.inFamily_iff.2 hrole
  have hself : ¬ ctx.ExtendsItself .dac ⟨extension, .snapshot⟩ := by
    rwa [Hierarchy.extendsItself_iff (Context.knows_of_mem hmem) rfl]
  obtain ⟨-, hanalysis⟩ := reservedField_reports_newest .error ["note"] hmem hfamily hself
  obtain ⟨r, hr, hviolations⟩ := hanalysis a rfl rfl hsuppressed
  exact ⟨hmem, hfamily, hself, hsuppressed, r, hr, hviolations.trans hreported⟩

end Rule

end SnapshotLint

/-
  Models of data access classes built under a token that may be cancelled on the way.

  Two questions are followed by no poll: those about the last property, and, in a class without
  properties, those about the field classes of the last layer. An interruption there is not noticed,
  and the model is built with what the interrupted questions say. Nothing else can be wrong.

  * `BoundType.resolve_keeps`: an interruption decides nothing of a property that no attribute
    decides anything of.
  * `DacModel.Damaged`: what such a model has in common with the right one.
  * `DacModel.models_upTo_damaged`: wherever the token becomes cancelled, the model is right, or
    damaged, or there is none.
  * `DacModel.models_not_allOrNothing`: both kinds of damage happen.
-/
import SnapshotLint.Proofs.InterruptedModel

namespace SnapshotLint

open Analysis

/-! ## Collections -/

namespace Collection

variable {α : Type} {layers : List Layer} {select : Layer → Analysis (List (String × α))}

/-- The collection with what is selected from one more layer. -/
def addSelected (select : Layer → Analysis (List (String × α))) (c : Collection α) (l : Layer) :
    Analysis (Collection α) := do
  Analysis.pollToken
  let selected ← select l
  selected.foldlM (fun c s => do
    Analysis.pollToken
    return c.add s.1 l.index s.2) c

theorem build_concat (layers : List Layer) (l : Layer) :
    build (layers ++ [l]) select = build layers select >>= fun c => addSelected select c l := by
  simp only [build, List.foldlM_append, List.foldlM_cons, List.foldlM_nil, bind_pure]
  rfl

theorem addSelected_stops (c : Collection α) (l : Layer) : (addSelected select c l).Stops :=
  stops_pollToken.bind _

/-- If the selection is wrong, then nothing is selected from the layer: anything else would be
    followed by a poll. -/
theorem addSelected_soundUnless (c : Collection α) (l : Layer) :
    (addSelected select c l).SoundUnless fun c' => c' = c := by
  refine sound_pollToken.bind fun _ => ?_
  refine (soundUnless_true _).bind (fun selected => ?_) fun selected _ => ?_
  · exact Sound.soundUnless <| sound_foldlM fun c s => sound_pollToken.bind fun _ => sound_pure _
  · cases selected with
    | nil => exact (yields_pure (P := (· = c)) rfl).late
    | cons s rest =>
      exact (stops_foldlM (List.cons_ne_nil _ _) fun c s => stops_pollToken.bind _).late

/-- A collection is wrong in the last layer only, from which then nothing is selected. -/
theorem build_interrupted {s : Snapshot} {t : Token} {c : Collection α}
    (h : ((build layers select).run s t).1 = some c) :
    c = (build layers select).answer s ∨ c = (build layers.dropLast select).answer s := by
  rcases List.eq_nil_or_concat' layers with rfl | ⟨front, l, rfl⟩
  · cases h
    exact Or.inl rfl
  · rw [build_concat] at h
    obtain ⟨c', t', -, hright, hc⟩ := run_bind_eq_some h
    rcases hright with rfl | hcancelled
    · rw [build_concat, answer_bind, List.dropLast_concat]
      exact addSelected_soundUnless _ l s t' c hc
    · exact (addSelected_stops c' l s t' c hcancelled hc).elim

end Collection

/-! ## What attributes decide -/

namespace BoundType

variable {ctx : Context}

theorem isBound_keeps (a : Attribute) : (a.isBound ctx).Keeps false := by
  unfold Attribute.isBound
  split
  · exact keeps_pure _ _
  · exact keeps_query _

theorem isUnbound_keeps (a : Attribute) : (a.isUnbound ctx).Keeps false := by
  unfold Attribute.isUnbound
  split
  · exact keeps_pure _ _
  · exact keeps_anyM (fun _ => keeps_query _) _

theorem declared_keeps (attributes : List Attribute) :
    (declared ctx attributes).Keeps notDefined := by
  refine (keeps_anyM isBound_keeps attributes).bind ?_ fun bound hbound s => ?_
  · refine (keeps_anyM isUnbound_keeps attributes).bind (keeps_pure _ _) fun unbound hunbound s => ?_
    simp [Bool.of_not_eq_false hunbound]
  · simp [Bool.of_not_eq_false hbound]

theorem firstDecided_keeps (declarations : List (List Attribute)) :
    (firstDecided ctx declarations).Keeps notDefined := by
  induction declarations with
  | nil => exact keeps_pure _ _
  | cons attributes rest ih =>
    refine (declared_keeps attributes).bind ih fun b hb s => ?_
    rw [if_neg hb]
    exact hb

theorem resolve_keeps {α : Type} (attributes : α → List Attribute) (role : Role)
    (o : Overridable α) : (resolve ctx attributes role o).Keeps notDefined := by
  cases role with
  | primary => exact declared_keeps _
  | extension => exact firstDecided_keeps _
  | unrelated => exact keeps_pure _ _

end BoundType

/-! ## Models -/

namespace DacModel

variable {ctx : Context}

theorem buildProperties_sound (layers : List Layer) :
    (Collection.build layers (layerProperties ctx)).Sound :=
  Collection.build_sound fun _ => mapM_soundUnless _ _

theorem resolveAll_stops {role : Role} {properties : Collection DacProperty}
    (h : properties.items ≠ []) : (resolveAll ctx role properties).Stops :=
  stops_mapM h fun _ => stops_pollToken.bind _

/-- What holds of the properties is wrong for the last one only, and there only if something is
    decided of it. -/
theorem resolveAll_interrupted {role : Role} {properties : Collection DacProperty}
    {front : List (Overridable DacProperty)} {o : Overridable DacProperty}
    (hitems : properties.items = front ++ [o]) {s : Snapshot} {t : Token}
    {bounds : List (String × BoundType)}
    (h : ((resolveAll ctx role properties).run s t).1 = some bounds) :
    ∃ resolved right b,
      (resolveAll ctx role properties).answer s = resolved ++ [(o.name, right)] ∧
      bounds = resolved ++ [(o.name, b)] ∧ (right = .notDefined → b = .notDefined) := by
  unfold resolveAll at h ⊢
  rw [hitems] at h ⊢
  obtain ⟨last, t', hlast, rfl⟩ := mapM_interrupted (fun _ => stops_pollToken.bind _) h
  obtain ⟨-, t₁, -, -, hlast⟩ := run_bind_eq_some hlast
  obtain ⟨b, t₂, hb, -, hlast⟩ := run_bind_eq_some hlast
  cases hlast
  refine ⟨_, (BoundType.resolve ctx DacProperty.attributes role o).answer s, b, ?_, rfl,
    fun hright => BoundType.resolve_keeps _ role o s t₁ b hright (by rw [hb])⟩
  rw [answer_mapM, List.map_append]
  simp only [List.map_singleton, answer_bind, answer_pure]

/-- What an interrupted model can be in place of the right one. -/
inductive Damaged (ctx : Context) (d : DacModel) : DacModel → Prop
  /-- The last property was being resolved, and something else is said of it than what is
      decided. -/
  | lastBound {front : List (Overridable DacProperty)} {o : Overridable DacProperty}
      {resolved : List (String × BoundType)} {right b : BoundType}
      (hitems : d.properties.items = front ++ [o])
      (hbounds : d.boundTypes = resolved ++ [(o.name, right)]) (hdecided : right ≠ .notDefined)
      (hb : b ≠ right) :
      Damaged ctx d { d with boundTypes := resolved ++ [(o.name, b)] }
  /-- The field classes of the last layer were being selected: they are missing. There is no
      property. -/
  | lastFieldClasses (hitems : d.properties.items = []) :
      Damaged ctx d { d with
        fieldClasses :=
          (Collection.build d.layers.dropLast (layerFieldClasses ctx)).answer ctx.snapshot }

theorem Damaged.role_eq {d d' : DacModel} (h : Damaged ctx d d') : d'.role = d.role := by
  cases h <;> rfl

theorem ofType_interrupted {t : TypeHandle} {token : Token} {d : DacModel}
    (h : ((ofType ctx t).run ctx.snapshot token).1 = some d) :
    d = (ofType ctx t).answer ctx.snapshot ∨ Damaged ctx ((ofType ctx t).answer ctx.snapshot) d := by
  unfold ofType at h ⊢
  obtain ⟨hierarchy, t₁, hlinearize, -, h⟩ := run_bind_eq_some h
  have hhierarchy : hierarchy = (Hierarchy.linearize ctx .dac t).answer ctx.snapshot :=
    (Hierarchy.linearize_sound ctx .dac t).eq_answer (by rw [hlinearize])
  rw [answer_bind, ← hhierarchy]
  by_cases hrole : hierarchy.role = .unrelated
  · simp only [if_pos hrole] at h ⊢
    cases h
    exact Or.inl rfl
  · simp only [if_neg hrole, answer_bind, answer_pure] at h ⊢
    obtain ⟨properties, t₂, hproperties, -, h⟩ := run_bind_eq_some h
    rw [← (buildProperties_sound hierarchy.layers).eq_answer (by rw [hproperties])]
    obtain ⟨fieldClasses, t₃, hfieldClasses, hcaught, h⟩ := run_bind_eq_some h
    obtain ⟨bounds, t₄, hbounds, -, h⟩ := run_bind_eq_some h
    cases h
    rcases List.eq_nil_or_concat' properties.items with hitems | ⟨front, o, hitems⟩
    · -- without properties nothing is asked of them, and no poll follows the field classes
      have hnone : ∀ role, resolveAll ctx role properties = pure [] := by
        intro role
        rw [resolveAll, hitems, List.mapM_nil]
      rw [hnone] at hbounds
      rw [hnone, answer_pure]
      cases hbounds
      rcases Collection.build_interrupted (by rw [hfieldClasses]) with hright | hwrong
      · exact Or.inl (by rw [hright])
      · rw [hwrong]
        exact Or.inr (.lastFieldClasses hitems)
    · have hne : properties.items ≠ [] := by simp [hitems]
      rcases hcaught with rfl | hcancelled
      · obtain ⟨resolved, right, b, hright, rfl, hkeeps⟩ :=
          resolveAll_interrupted hitems (by rw [hbounds])
        by_cases hb : b = right
        · exact Or.inl (by rw [hright, hb])
        · have hdecided : right ≠ .notDefined := fun hnot => hb ((hkeeps hnot).trans hnot.symm)
          exact Or.inr (.lastBound hitems hright hdecided hb)
      · exact (resolveAll_stops hne _ _ _ hcancelled (by rw [hbounds])).elim

/-- **The models of data access classes are right, damaged, or missing**, wherever the token becomes
    cancelled, and they are right unless it is. -/
theorem models_upTo_damaged (ctx : Context) (t : TypeHandle) :
    (ofType ctx t).UpTo (Damaged ctx) ctx.snapshot ∧
      (infer ctx t).UpTo (List.Forall₂ (Damaged ctx)) ctx.snapshot := by
  refine ⟨upTo_of_forall fun token d h => ofType_interrupted h, upTo_of_forall fun token ds h => ?_⟩
  obtain ⟨d, t', hd, -, h⟩ := run_bind_eq_some h
  cases h
  rw [infer, answer_bind, answer_pure]
  rcases ofType_interrupted (by rw [hd]) with hright | hdamaged
  · exact Or.inl (by rw [hright])
  · rw [hdamaged.role_eq]
    split
    · exact Or.inl rfl
    · exact Or.inr (.cons hdamaged .nil)

/-- The token becomes cancelled at the third lookup, when the only property is being resolved; or at
    the second one, when the only field class is being selected. -/
theorem models_not_allOrNothing :
    let stored : TypeSymbol :=
      { name := "PXDBStringAttribute", base := some { name := "PXDBFieldAttribute" } }
    let order : TypeSymbol :=
      { name := "Order"
        interfaces := [{ name := "IBqlTable" }]
        members := [{ name := "OrderNbr", kind := .property,
                      attributes := [{ typeName := "PXDBStringAttribute" }] }] }
    let ctx : Context := { snapshot := { types := [stored, order], distinct := by decide } }
    let marker : TypeSymbol := { name := "BqlString", base := some { name := "IBqlField" } }
    let fields : TypeSymbol :=
      { name := "Order"
        interfaces := [{ name := "IBqlTable" }]
        members := [{ name := "orderNbr", kind := .nestedType, type := some { name := "BqlString" } }] }
    let ctx' : Context := { snapshot := { types := [marker, fields], distinct := by decide } }
    ¬ (ofType ctx ⟨order, .snapshot⟩).AllOrNothing ctx.snapshot ∧
      ¬ (infer ctx ⟨order, .snapshot⟩).AllOrNothing ctx.snapshot ∧
      ¬ (ofType ctx' ⟨fields, .snapshot⟩).AllOrNothing ctx'.snapshot := by
  intro stored order ctx marker fields ctx'
  refine ⟨fun h => ?_, fun h => ?_, fun h => ?_⟩
  · have := h { lookupsLeft := some 2 }
    revert this
    decide
  · have := h { lookupsLeft := some 2 }
    revert this
    decide
  · have := h { lookupsLeft := some 1 }
    revert this
    decide

end DacModel

end SnapshotLint

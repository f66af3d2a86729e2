/-
  Symbols and violations are read back as they were written.

  Each record has slots, one for each field (`slots`), of which the written form leaves out the
  empty ones (`toJson_eq`). Its reader undoes what was written in each (`faithful`); for references
  to types this is an induction on the levels that the reader may enter, as type arguments are
  references themselves. So nothing is lost, and different data are written differently:
  `symbols_and_violations_read_back`.
-/
import SnapshotLint.Proofs.WrittenRecord
import SnapshotLint.Violation

namespace SnapshotLint

open Json

/-! ## Numbers and names -/

namespace Json

theorem decodeText_text (s : String) : decodeText (.text s) = .ok s := rfl

theorem decodeBool_bool (b : Bool) : decodeBool (.bool b) = .ok b := rfl

theorem text_ne_null (s : String) : Json.text s ≠ .null := nofun

theorem decodeUInt64_nat (n : UInt64) : decodeUInt64 (.nat n.toNat) = .ok n := by
  rw [nat, decodeUInt64, if_pos ⟨Int.natCast_nonneg _, n.toNat_lt_size⟩]
  exact congrArg Except.ok UInt64.ofNat_toNat

theorem decodeInt64_int (n : Int64) : decodeInt64 (.int n.toInt) = .ok n := by
  rw [decodeInt64, if_pos ⟨n.minValue_le_toInt, n.toInt_le⟩, Int64.ofInt_toInt]

theorem decodeName_text {α : Type} {ofName? : String → Option α} {name : String} {a : α}
    (h : ofName? name = some a) : decodeName ofName? (.text name) = .ok a := by
  rw [text, decodeName, decodeName.named, h]

end Json

theorem AttributeValue.decode_toJson (x : AttributeValue) : decode x.toJson = .ok x := by
  cases x with
  | bool b => rfl
  | int n => rw [toJson, decode, decodeInt64_int]; rfl
  | str s => rfl

theorem Severity.decode_toJson (s : Severity) : decode s.toJson = .ok s :=
  decodeName_text s.ofName?_name

/-! ## Locations and types -/

namespace Location

/-- The slots of the written form. -/
def slots (l : Location) : List Slot :=
  [("file", some (.text l.file)), ("line", some (.nat l.line.toNat)),
    ("column", some (.nat l.column.toNat)), ("offset", some (.nat l.offset.toNat)),
    ("length", some (.nat l.length.toNat))]

theorem toJson_eq (l : Location) : l.toJson = written l.slots := rfl

theorem toJson_ne_null (l : Location) : l.toJson ≠ .null := nofun

theorem faithful : Faithful toJson decode := by
  intro levels l h
  rw [toJson_eq] at h ⊢
  obtain ⟨inner, r, rfl, hr, -, hshows⟩ := Record.ofJson_written fieldNames rfl (by decide) h
  simp only [slots, List.forall_mem_cons] at hshows
  obtain ⟨hfile, hline, hcolumn, hoffset, hlength, -⟩ := hshows
  simp only [decode, enter_succ, ok_bind, hr, hfile.required fun _ => decodeText_text _,
    hline.orElse fun _ => decodeUInt64_nat _, hcolumn.orElse fun _ => decodeUInt64_nat _,
    hoffset.orElse fun _ => decodeUInt64_nat _, hlength.orElse fun _ => decodeUInt64_nat _]
  rfl

end Location

namespace TypeRef

/-- The slots of the written form. -/
def slots (t : TypeRef) : List Slot :=
  [("name", some (.text t.name)), ("args", itemsValue toJson t.args)]

theorem toJsonList_eq (ts : List TypeRef) : toJsonList ts = ts.map toJson := by
  induction ts with
  | nil => rfl
  | cons t ts ih => rw [toJsonList, ih, List.map_cons]

theorem toJson_eq (t : TypeRef) : t.toJson = written t.slots := by
  obtain ⟨name, _ | ⟨a, as⟩⟩ := t
  · rfl
  · rw [toJson, toJsonList_eq]
    rfl

theorem toJson_ne_null (t : TypeRef) : t.toJson ≠ .null := by
  rw [toJson_eq]
  exact nofun

theorem decode_succ (levels : Nat) (j : Json) :
    decode (levels + 1) j = (do
      let r ← Record.ofJson ["name", "args"] j
      let name ← r.required "name" decodeText
      let args ← r.orElse "args" (decodeItems decode levels) []
      return ⟨name, args⟩) := by
  cases levels <;> rfl

theorem faithful : Faithful toJson decode := by
  intro levels
  induction levels using Nat.strongRecOn with
  | _ levels ih =>
    intro t h
    rw [toJson_eq] at h ⊢
    obtain ⟨inner, r, rfl, hr, -, hshows⟩ :=
      Record.ofJson_written ["name", "args"] rfl (by decide) h
    simp only [slots, List.forall_mem_cons] at hshows
    obtain ⟨hname, hargs, -⟩ := hshows
    have hitems : r.orElse "args" (decodeItems decode inner) [] = .ok t.args :=
      hargs.items fun levels hlt => ih levels (by omega)
    simp only [decode_succ, ok_bind, hr, hname.required fun _ => decodeText_text _, hitems]
    cases t
    rfl

end TypeRef

/-! ## Symbols -/

namespace Parameter

/-- The slots of the written form. -/
def slots (p : Parameter) : List Slot :=
  [("name", some (.text p.name)), ("type", some p.type.toJson)]

theorem toJson_eq (p : Parameter) : p.toJson = written p.slots := rfl

theorem faithful : Faithful toJson decode := by
  intro levels p h
  rw [toJson_eq] at h ⊢
  obtain ⟨inner, r, rfl, hr, -, hshows⟩ :=
    Record.ofJson_written ["name", "type"] rfl (by decide) h
  simp only [slots, List.forall_mem_cons] at hshows
  obtain ⟨hname, htype, -⟩ := hshows
  simp only [decode, enter_succ, ok_bind, hr, hname.required fun _ => decodeText_text _,
    htype.required (TypeRef.faithful inner p.type)]
  rfl

end Parameter

namespace Attribute

/-- The slots of the written form. -/
def slots (a : Attribute) : List Slot :=
  [("type", some (.text a.typeName)), ("args", itemsValue AttributeValue.toJson a.args),
    ("named", entriesValue AttributeValue.toJson a.named),
    ("location", a.location.map Location.toJson)]

theorem toJson_eq (a : Attribute) : a.toJson = written a.slots := by
  simp [toJson, written, slots, listField_eq, optionalField_eq, mapField_eq]

theorem faithful : Faithful toJson decode := by
  intro levels a h
  rw [toJson_eq] at h ⊢
  obtain ⟨inner, r, rfl, hr, -, hshows⟩ := Record.ofJson_written fieldNames rfl (by decide) h
  simp only [slots, List.forall_mem_cons] at hshows
  obtain ⟨htype, hargs, hnamed, hlocation, -⟩ := hshows
  have hitems : r.orElse "args" (decodeItems (fun _ => AttributeValue.decode) inner) [] =
      .ok a.args := hargs.items fun _ _ x _ => x.decode_toJson
  simp only [decode, enter_succ, ok_bind, hr, htype.required fun _ => decodeText_text _, hitems,
    hnamed.entries AttributeValue.decode_toJson,
    hlocation.optional Location.toJson_ne_null (Location.faithful inner)]
  rfl

end Attribute

namespace Member

/-- The slots of the written form. -/
def slots (m : Member) : List Slot :=
  [("name", some (.text m.name)), ("kind", some (.text m.kind.name)),
    ("is_static", some (.bool m.isStatic)), ("is_override", some (.bool m.isOverride)),
    ("type", m.type.map TypeRef.toJson), ("parameters", itemsValue Parameter.toJson m.parameters),
    ("attributes", itemsValue Attribute.toJson m.attributes),
    ("location", m.location.map Location.toJson)]

theorem toJson_eq (m : Member) : m.toJson = written m.slots := by
  simp [toJson, written, slots, listField_eq, optionalField_eq]

theorem faithful : Faithful toJson decode := by
  intro levels m h
  rw [toJson_eq] at h ⊢
  obtain ⟨inner, r, rfl, hr, -, hshows⟩ := Record.ofJson_written fieldNames rfl (by decide) h
  simp only [slots, List.forall_mem_cons] at hshows
  obtain ⟨hname, hkind, hstatic, hoverride, htype, hparameters, hattributes, hlocation, -⟩ := hshows
  simp only [decode, enter_succ, ok_bind, hr, hname.required fun _ => decodeText_text _,
    hkind.required fun _ => decodeName_text m.kind.ofName?_name,
    hstatic.orElse fun _ => decodeBool_bool _, hoverride.orElse fun _ => decodeBool_bool _,
    htype.optional TypeRef.toJson_ne_null (TypeRef.faithful inner),
    hparameters.items fun levels _ => Parameter.faithful levels,
    hattributes.items fun levels _ => Attribute.faithful levels,
    hlocation.optional Location.toJson_ne_null (Location.faithful inner)]
  rfl

end Member

namespace InitDelegate

/-- The slots of the written form. -/
def slots (d : InitDelegate) : List Slot :=
  [("graph", some (.text d.graph)), ("delegate", some (.text d.delegate)),
    ("location", d.location.map Location.toJson)]

theorem toJson_eq (d : InitDelegate) : d.toJson = written d.slots := by
  simp [toJson, written, slots, optionalField_eq]

theorem faithful : Faithful toJson decode := by
  intro levels d h
  rw [toJson_eq] at h ⊢
  obtain ⟨inner, r, rfl, hr, -, hshows⟩ :=
    Record.ofJson_written ["graph", "delegate", "location"] rfl (by decide) h
  simp only [slots, List.forall_mem_cons] at hshows
  obtain ⟨hgraph, hdelegate, hlocation, -⟩ := hshows
  simp only [decode, enter_succ, ok_bind, hr, hgraph.required fun _ => decodeText_text _,
    hdelegate.required fun _ => decodeText_text _,
    hlocation.optional Location.toJson_ne_null (Location.faithful inner)]
  rfl

end InitDelegate

namespace TypeSymbol

/-- The slots of the written form. -/
def slots (t : TypeSymbol) : List Slot :=
  [("name", some (.text t.name)), ("base", t.base.map TypeRef.toJson),
    ("interfaces", itemsValue TypeRef.toJson t.interfaces),
    ("attributes", itemsValue Attribute.toJson t.attributes),
    ("members", itemsValue Member.toJson t.members),
    ("init_delegates", itemsValue InitDelegate.toJson t.initDelegates),
    ("location", t.location.map Location.toJson)]

theorem toJson_eq (t : TypeSymbol) : t.toJson = written t.slots := by
  simp [toJson, written, slots, listField_eq, optionalField_eq]

theorem faithful : Faithful toJson decode := by
  intro levels t h
  rw [toJson_eq] at h ⊢
  obtain ⟨inner, r, rfl, hr, -, hshows⟩ := Record.ofJson_written fieldNames rfl (by decide) h
  simp only [slots, List.forall_mem_cons] at hshows
  obtain ⟨hname, hbase, hinterfaces, hattributes, hmembers, hdelegates, hlocation, -⟩ := hshows
  simp only [decode, enter_succ, ok_bind, hr, hname.required fun _ => decodeText_text _,
    hbase.optional TypeRef.toJson_ne_null (TypeRef.faithful inner),
    hinterfaces.items fun levels _ => TypeRef.faithful levels,
    hattributes.items fun levels _ => Attribute.faithful levels,
    hmembers.items fun levels _ => Member.faithful levels,
    hdelegates.items fun levels _ => InitDelegate.faithful levels,
    hlocation.optional Location.toJson_ne_null (Location.faithful inner)]
  rfl

end TypeSymbol

/-! ## Violations -/

namespace Label

/-- The slots of the written form. -/
def slots (l : Label) : List Slot :=
  [("location", some l.location.toJson), ("message", some (.text l.message))]

theorem toJson_eq (l : Label) : l.toJson = written l.slots := rfl

theorem faithful : Faithful toJson decode := by
  intro levels l h
  rw [toJson_eq] at h ⊢
  obtain ⟨inner, r, rfl, hr, -, hshows⟩ :=
    Record.ofJson_written ["location", "message"] rfl (by decide) h
  simp only [slots, List.forall_mem_cons] at hshows
  obtain ⟨hlocation, hmessage, -⟩ := hshows
  simp only [decode, enter_succ, ok_bind, hr,
    hlocation.required (Location.faithful inner l.location),
    hmessage.required fun _ => decodeText_text _]
  rfl

end Label

namespace Violation

theorem suggestion_faithful : Faithful suggestionToJson decodeSuggestion := by
  intro levels message h
  obtain ⟨inner, rfl, -⟩ := levels_of_lt h
  rfl

theorem suggestion_ne_null (message : String) : suggestionToJson message ≠ .null := nofun

/-- The slots of the written form. -/
def slots (v : Violation) : List Slot :=
  [("code", some (.text v.code)), ("rule", some (.text v.rule)),
    ("severity", some v.severity.toJson), ("location", some v.location.toJson),
    ("message", some (.text v.message)), ("symbol", v.symbol.map .text),
    ("suggestion", some (.ofOption suggestionToJson v.suggestion)),
    ("labels", some (.list Label.toJson v.labels)),
    ("properties", entriesValue .text v.properties)]

theorem toJson_eq (v : Violation) : v.toJson = written v.slots := by
  simp only [toJson, written, slots, mapField_eq]
  cases v.symbol <;> simp

theorem faithful : Faithful toJson decode := by
  intro levels v h
  rw [toJson_eq] at h ⊢
  obtain ⟨inner, r, rfl, hr, hpositional, hshows⟩ :=
    Record.ofJson_written fieldNames rfl (by decide) h
  simp only [slots, List.forall_mem_cons] at hshows
  obtain ⟨hcode, hrule, hseverity, hlocation, hmessage, hsymbol, hsuggestion, hlabels, hproperties,
    -⟩ := hshows
  have hitems : r.required "labels" (fun j => do
      let levels ← enter inner
      decodeList (Label.decode levels) j) = .ok v.labels :=
    hlabels.required (decodeItems_list fun levels _ => Label.faithful levels)
  have hnullable : r.nullable "suggestion" (decodeSuggestion inner) = .ok v.suggestion :=
    hsuggestion.nullable suggestion_ne_null (suggestion_faithful inner) hpositional
  simp only [decode, enter_succ, ok_bind, hr, hcode.required fun _ => decodeText_text _,
    hrule.required fun _ => decodeText_text _,
    hseverity.required fun _ => v.severity.decode_toJson,
    hlocation.required (Location.faithful inner v.location),
    hmessage.required fun _ => decodeText_text _,
    hsymbol.optional text_ne_null fun s _ => decodeText_text s,
    hnullable, hitems, hproperties.entries decodeText_text]
  rfl

end Violation

/-- **Symbols and violations are read back as they were written.** A reader that may enter as many
    levels as the written form has gets back the type or the violation, with all that was left out
    in writing. So no two types and no two violations have the same written form. -/
theorem symbols_and_violations_read_back :
    (∀ (t : TypeSymbol) (levels : Nat), t.toJson.depth ≤ levels →
      TypeSymbol.decode levels t.toJson = .ok t) ∧
    (∀ (v : Violation) (levels : Nat), v.toJson.depth ≤ levels →
      Violation.decode levels v.toJson = .ok v) ∧
    Function.Injective TypeSymbol.toJson ∧ Function.Injective Violation.toJson :=
  ⟨fun t levels => TypeSymbol.faithful levels t, fun v levels => Violation.faithful levels v,
    TypeSymbol.faithful.injective, Violation.faithful.injective⟩

/-- A graph with nested type arguments, constants of all kinds and a registration, and a violation
    with a label and a property. -/
theorem symbols_and_violations_read_back_orderEntry :
    let place : Location := ⟨"OrderEntry.cs", 12, 5, 340, 18446744073709551615⟩
    let graph : TypeSymbol :=
      { name := "OrderEntry"
        base := some ⟨"PXGraph", [⟨"OrderEntry", []⟩, ⟨"Pair", [⟨"Order", []⟩, ⟨"Line", []⟩]⟩]⟩
        members := [
          { name := "Order_RowSelected", kind := .method, isOverride := true
            parameters := [⟨"sender", ⟨"PXCache", []⟩⟩]
            attributes := [
              { typeName := "PXDefaultAttribute"
                args := [.bool true, .int (-9223372036854775808), .str "1"]
                named := .ofList [("PersistingCheck", .int 2), ("Message", .str "")]
                location := some place }] }]
        initDelegates := [⟨"InvoiceEntry", "OnCreated", none⟩]
        location := some place }
    let violation : Violation :=
      { code := "EL1040", rule := "constructor-in-graph-extension", severity := .warning
        location := place, message := "moved", symbol := some "OrderEntry", suggestion := none
        labels := [⟨place, "here"⟩], properties := .ofList [("IsBoundField", "true")] }
    graph.toJson.depth = 6 ∧ TypeSymbol.decode 127 graph.toJson = .ok graph ∧
      violation.toJson.depth = 4 ∧ Violation.decode 127 violation.toJson = .ok violation := by
  intro place graph violation
  have hgraph : graph.toJson.depth = 6 := by decide
  have hviolation : violation.toJson.depth = 4 := by decide
  obtain ⟨hsymbols, hviolations, -⟩ := symbols_and_violations_read_back
  exact ⟨hgraph, hsymbols graph 127 (by omega), hviolation, hviolations violation 127 (by omega)⟩

end SnapshotLint

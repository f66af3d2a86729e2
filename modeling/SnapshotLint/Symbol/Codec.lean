/-
  The written forms of symbols. Empty lists and absent parts are left out when writing and may be
  left out when reading.
-/
import SnapshotLint.Symbol.Basic

namespace SnapshotLint

/-- A field of a record, left out where there is no value. -/
def optionalField {α : Type} (name : String) (f : α → Json) : Option α → List (String × Json)
  | none => []
  | some a => [(name, f a)]

/-- A field of a record, left out where the list is empty. -/
def listField {α : Type} (name : String) (f : α → Json) : List α → List (String × Json)
  | [] => []
  | xs => [(name, .list f xs)]

/-- Reads a list one level further in. -/
def decodeItems {α : Type} (item : Json.Decoder α) : Json.Decoder (List α) := fun levels j => do
  let levels ← Json.enter levels
  Json.decodeList (item levels) j

namespace TypeRef

mutual
/-- The written form. -/
def toJson : TypeRef → Json
  | ⟨name, []⟩ => .record [("name", .text name)]
  | ⟨name, a :: as⟩ => .record [("name", .text name), ("args", .arr (toJson a :: toJsonList as))]

/-- The written forms of a list. -/
def toJsonList : List TypeRef → List Json
  | [] => []
  | a :: as => toJson a :: toJsonList as
end

/-- Reads the written form. An argument stands two levels further in, in an array. -/
def decode : Json.Decoder TypeRef
  | 0, _ => .error .tooDeep
  | levels + 1, j => do
    let r ← Json.Record.ofJson ["name", "args"] j
    let name ← r.required "name" Json.decodeText
    let args ← r.orElse "args" (fun j =>
      match levels with
      | 0 => .error .tooDeep
      | levels + 1 => Json.decodeList (decode levels) j) []
    return ⟨name, args⟩

end TypeRef

namespace Parameter

/-- The written form. -/
def toJson (p : Parameter) : Json := .record [("name", .text p.name), ("type", p.type.toJson)]

/-- Reads the written form. -/
def decode : Json.Decoder Parameter := fun levels j => do
  let levels ← Json.enter levels
  let r ← Json.Record.ofJson ["name", "type"] j
  return {
    name := ← r.required "name" Json.decodeText
    type := ← r.required "type" (TypeRef.decode levels) }

end Parameter

namespace AttributeValue

/-- The written form. -/
def toJson : AttributeValue → Json
  | bool b => .bool b
  | int n => .int n.toInt
  | str s => .text s

/-- Reads the written form. -/
def decode : Json → Json.Decoded AttributeValue
  | .bool b => .ok (bool b)
  | .str (some s) => .ok (str s)
  | .int n => int <$> Json.decodeInt64 (.int n)
  | _ => .error (.mismatch "constant")

end AttributeValue

namespace Attribute

/-- The field names in order. -/
def fieldNames : List String := ["type", "args", "named", "location"]

/-- The written form. -/
def toJson (a : Attribute) : Json :=
  .record <|
    [("type", .text a.typeName)] ++ listField "args" AttributeValue.toJson a.args ++
    (if a.named.isEmpty then []
      else [("named", .record (a.named.entries.map fun e => (e.1, e.2.toJson)))]) ++
    optionalField "location" Location.toJson a.location

/-- Reads the written form. -/
def decode : Json.Decoder Attribute := fun levels j => do
  let levels ← Json.enter levels
  let r ← Json.Record.ofJson fieldNames j
  return {
    typeName := ← r.required "type" Json.decodeText
    args := ← r.orElse "args" (decodeItems (fun _ => AttributeValue.decode) levels) []
    named := ← r.orElse "named" (fun j => do
      let _ ← Json.enter levels
      Json.decodeMap AttributeValue.decode j) .empty
    location := ← r.optional "location" (Location.decode levels) }

end Attribute

namespace Member

/-- The field names in order. -/
def fieldNames : List String :=
  ["name", "kind", "is_static", "is_override", "type", "parameters", "attributes", "location"]

/-- The written form. -/
def toJson (m : Member) : Json :=
  .record <|
    [("name", .text m.name), ("kind", .text m.kind.name), ("is_static", .bool m.isStatic),
      ("is_override", .bool m.isOverride)] ++
    optionalField "type" TypeRef.toJson m.type ++
    listField "parameters" Parameter.toJson m.parameters ++
    listField "attributes" Attribute.toJson m.attributes ++
    optionalField "location" Location.toJson m.location

/-- Reads the written form. -/
def decode : Json.Decoder Member := fun levels j => do
  let levels ← Json.enter levels
  let r ← Json.Record.ofJson fieldNames j
  return {
    name := ← r.required "name" Json.decodeText
    kind := ← r.required "kind" (Json.decodeName MemberKind.ofName?)
    isStatic := ← r.orElse "is_static" Json.decodeBool false
    isOverride := ← r.orElse "is_override" Json.decodeBool false
    type := ← r.optional "type" (TypeRef.decode levels)
    parameters := ← r.orElse "parameters" (decodeItems Parameter.decode levels) []
    attributes := ← r.orElse "attributes" (decodeItems Attribute.decode levels) []
    location := ← r.optional "location" (Location.decode levels) }

end Member

namespace InitDelegate

/-- The written form. -/
def toJson (d : InitDelegate) : Json :=
  .record <|
    [("graph", .text d.graph), ("delegate", .text d.delegate)] ++
    optionalField "location" Location.toJson d.location

/-- Reads the written form. -/
def decode : Json.Decoder InitDelegate := fun levels j => do
  let levels ← Json.enter levels
  let r ← Json.Record.ofJson ["graph", "delegate", "location"] j
  return {
    graph := ← r.required "graph" Json.decodeText
    delegate := ← r.required "delegate" Json.decodeText
    location := ← r.optional "location" (Location.decode levels) }

end InitDelegate

namespace TypeSymbol

/-- The field names in order. -/
def fieldNames : List String :=
  ["name", "base", "interfaces", "attributes", "members", "init_delegates", "location"]

/-- The written form. -/
def toJson (t : TypeSymbol) : Json :=
  .record <|
    [("name", .text t.name)] ++ optionalField "base" TypeRef.toJson t.base ++
    listField "interfaces" TypeRef.toJson t.interfaces ++
    listField "attributes" Attribute.toJson t.attributes ++
    listField "members" Member.toJson t.members ++
    listField "init_delegates" InitDelegate.toJson t.initDelegates ++
    optionalField "location" Location.toJson t.location

/-- Reads the written form. -/
def decode : Json.Decoder TypeSymbol := fun levels j => do
  let levels ← Json.enter levels
  let r ← Json.Record.ofJson fieldNames j
  return {
    name := ← r.required "name" Json.decodeText
    base := ← r.optional "base" (TypeRef.decode levels)
    interfaces := ← r.orElse "interfaces" (decodeItems TypeRef.decode levels) []
    attributes := ← r.orElse "attributes" (decodeItems Attribute.decode levels) []
    members := ← r.orElse "members" (decodeItems Member.decode levels) []
    initDelegates := ← r.orElse "init_delegates" (decodeItems InitDelegate.decode levels) []
    location := ← r.optional "location" (Location.decode levels) }

end TypeSymbol

end SnapshotLint

/-
  Snapshots: the types of a program, each name declared once, and the file they were taken from.

  Main equations: `find?` gives the one declaration of a name; `ofTypes` refuses a list with a
  repeated name and names the first type whose name came before.
-/
import SnapshotLint.Json.Reader
import SnapshotLint.Symbol.Codec

namespace SnapshotLint

/-- A set of type declarations with distinct names. -/
structure Snapshot where
  /-- The file that the snapshot describes, if it is known. -/
  source : Option String := none
  types : List TypeSymbol := []
  distinct : (types.map (·.name)).Nodup := by exact List.nodup_nil

/-- Why there is no snapshot. -/
inductive SnapshotError where
  /-- The file cannot be read as text. -/
  | unreadable (path : String)
  /-- The text is not the written form of a snapshot. -/
  | malformed
  /-- Two types share a name. -/
  | duplicateType (name : String)
deriving DecidableEq

/-- What is said of a snapshot that cannot be had. -/
def SnapshotError.message : SnapshotError → String
  | unreadable path => "Failed to read snapshot " ++ path
  | malformed => "Failed to parse snapshot"
  | duplicateType name => "Duplicate type `" ++ name ++ "` in snapshot"

namespace Snapshot

instance : Inhabited Snapshot := ⟨{}⟩

/-- The first name of a list that occurs before in it. -/
def firstRepeated? (seen : List String) : List String → Option String
  | [] => none
  | n :: ns => if n ∈ seen then some n else firstRepeated? (n :: seen) ns

theorem nodup_of_firstRepeated?_eq_none {seen ns : List String}
    (h : firstRepeated? seen ns = none) : ns.Nodup ∧ ∀ n ∈ ns, n ∉ seen := by
  induction ns generalizing seen with
  | nil => simp
  | cons n ns ih =>
    unfold firstRepeated? at h
    split at h
    · contradiction
    · next hn =>
      obtain ⟨hnodup, hfresh⟩ := ih h
      refine ⟨List.nodup_cons.2 ⟨fun hm => hfresh n hm (by simp), hnodup⟩, fun m hm => ?_⟩
      rcases List.mem_cons.1 hm with rfl | hm
      · exact hn
      · exact fun hs => hfresh m hm (List.mem_cons_of_mem _ hs)

/-- The snapshot of a list of types. -/
def ofTypes (types : List TypeSymbol) (source : Option String := none) :
    Except SnapshotError Snapshot :=
  match h : firstRepeated? [] (types.map (·.name)) with
  | some name => .error (.duplicateType name)
  | none => .ok ⟨source, types, (nodup_of_firstRepeated?_eq_none h).1⟩

/-- The declaration of a name. -/
def find? (s : Snapshot) (name : String) : Option TypeSymbol :=
  s.types.find? (·.name == name)

/-- How deeply arrays and objects may be nested in the text of a snapshot. -/
def nestingLimit : Nat := 127

/-- Reads the parts of a snapshot. -/
def decodeParts : Json.Decoder (Option String × List TypeSymbol) := fun levels j => do
  let levels ← Json.enter levels
  let r ← Json.Record.ofJson ["source", "types"] j
  return (← r.optional "source" Json.decodeText,
    ← r.orElse "types" (decodeItems TypeSymbol.decode levels) [])

/-- The snapshot that a JSON value describes. -/
def ofJson (levels : Nat) (j : Json) : Except SnapshotError Snapshot :=
  match decodeParts levels j with
  | .ok (source, types) => ofTypes types source
  | .error _ => .error .malformed

/-- The snapshot that a text describes. -/
def parse (text : String) : Except SnapshotError Snapshot :=
  match Json.parse? text with
  | some j => ofJson nestingLimit j
  | none => .error .malformed

/-- The snapshot in the bytes of a file. The file is the source unless the text names one. -/
def ofFile (path : String) (bytes : ByteArray) : Except SnapshotError Snapshot :=
  match String.fromUTF8? bytes with
  | none => .error (.unreadable path)
  | some text => do
    let s ← parse text
    return { s with source := some (s.source.getD path) }

end Snapshot

end SnapshotLint

/-
  Places in source files.
-/
import SnapshotLint.Json.Record

namespace SnapshotLint

/-- A place in a source file; lines and columns count from one, and zero stands for unknown. -/
structure Location where
  file : String := ""
  line : UInt64 := 0
  column : UInt64 := 0
  /-- Byte offset of the span. -/
  offset : UInt64 := 0
  /-- Length of the span in bytes. -/
  length : UInt64 := 0
deriving DecidableEq, Inhabited

namespace Location

/-- The field names in order. -/
def fieldNames : List String := ["file", "line", "column", "offset", "length"]

/-- The written form, with all fields. -/
def toJson (l : Location) : Json :=
  .record [("file", .text l.file), ("line", .nat l.line.toNat), ("column", .nat l.column.toNat),
    ("offset", .nat l.offset.toNat), ("length", .nat l.length.toNat)]

/-- Reads the written form; all fields but the file may be missing. -/
def decode : Json.Decoder Location := fun levels j => do
  let _ ← Json.enter levels
  let r ← Json.Record.ofJson fieldNames j
  return {
    file := ← r.required "file" Json.decodeText
    line := ← r.orElse "line" Json.decodeUInt64 0
    column := ← r.orElse "column" Json.decodeUInt64 0
    offset := ← r.orElse "offset" Json.decodeUInt64 0
    length := ← r.orElse "length" Json.decodeUInt64 0 }

end Location

end SnapshotLint

/-
  The command line: the files that a command looks at are read, the command is run on them, and what
  it says and makes is written.
-/
import SnapshotLint.Command.Outcome

namespace SnapshotLint

/-- What is found at a path; a directory with all it holds. -/
partial def readTree (path : String) : IO FileTree := do
  let place ← IO.FS.realPath path
  if ← place.isDir then
    let entries ← (← place.readDir).toList.mapM fun entry => do
      return (entry.fileName, ← readTree (Path.join path entry.fileName))
    return .directory (entries.foldl (fun es e => insertEntry e.1 e.2 es) [])
  else return .file (← IO.FS.readBinFile path)

/-- The files together with what is found at a path. What cannot be read is left out. -/
def addSource (files : FileSystem) (path : String) : IO FileSystem := do
  try return files.put path (← readTree path)
  catch _ => return files

/-- The environment variables that commands look at. -/
def readVariables : IO (List (String × String)) := do
  let names := ["ERP_LINT_CONFIG_DIR", "ERP_LINT_JOBS", "HOME"]
  let values ← names.mapM fun name => do return (← IO.getEnv name).map (name, ·)
  return values.filterMap id

/-- All that a command line needs. -/
def readEnvironment (args : List String) : IO Command.Environment := do
  let start : FileSystem := { workingDirectory := toString (← IO.currentDir) }
  let e : Command.Environment := { files := start.put "." .empty, bindings := ← readVariables }
  match Command.Invocation.read e.value? args with
  | .error _ => return e
  | .ok i => return { e with files := ← (i.sources e).foldlM addSource e.files }

/-- Writes what a command has made. -/
def writeResult (before after : FileSystem) : IO Unit := do
  let path := Command.configFile
  let some content := after.read? path | return
  if before.read? path != some content then IO.FS.writeBinFile path content

end SnapshotLint

open SnapshotLint in
/-- Runs a command line. -/
def main (args : List String) : IO UInt32 := do
  let e ← readEnvironment args
  let outcome := Command.run e args
  writeResult e.files outcome.files
  IO.print outcome.output
  if let some failure := outcome.failure then
    IO.eprintln ("Error: " ++ failure.message)
    if let some cause := failure.cause? then IO.eprintln ("\nCaused by:\n    " ++ cause)
  else if outcome.status == 2 then IO.eprint Command.helpText
  return outcome.status.toUInt32

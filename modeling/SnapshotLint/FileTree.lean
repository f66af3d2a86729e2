/-
  Files and directories as values. The entries of a directory are in increasing order of their
  names.
-/
import SnapshotLint.OrderedMap
import SnapshotLint.Path

namespace SnapshotLint

/-- A file, or a directory with what it holds. -/
inductive FileTree where
  | file (content : ByteArray)
  | directory (entries : List (String × FileTree))
deriving Inhabited

namespace FileTree

/-- A directory without entries. -/
def empty : FileTree := directory []

/-- Whether the tree is a file. -/
def isFile : FileTree → Bool
  | file _ => true
  | directory _ => false

/-- What a path that is cut at its separators leads to. The directories passed are kept for `..`,
    the last one first; the outermost directory is its own parent. -/
def walk (passed : List FileTree) (t : FileTree) : List String → Option FileTree
  | [] => some t
  | step :: steps =>
    match t with
    | file _ => none
    | directory entries =>
      if step = "" ∨ step = "." then walk passed t steps
      else if step = ".." then
        match passed with
        | [] => walk [] t steps
        | parent :: rest => walk rest parent steps
      else match entries.lookup step with
        | none => none
        | some child => walk (t :: passed) child steps

/-- The tree with another one put at a place; directories on the way are made. Nothing is put below
    a file. -/
def insert (t new : FileTree) : List String → FileTree
  | [] => new
  | step :: steps =>
    match t with
    | file content => file content
    | directory entries =>
      directory (insertEntry step (insert ((entries.lookup step).getD empty) new steps) entries)

end FileTree

/-- All files, and the directory from which relative paths start. -/
structure FileSystem where
  root : FileTree := .empty
  workingDirectory : String := "/"
deriving Inhabited

namespace FileSystem

/-- A path made absolute. -/
def absolute (fs : FileSystem) (path : String) : String := Path.join fs.workingDirectory path

/-- What a path leads to; the empty path leads nowhere. -/
def find? (fs : FileSystem) (path : String) : Option FileTree :=
  if path.isEmpty then none else fs.root.walk [] (Text.segments '/' (fs.absolute path))

/-- Whether a path leads to a file. -/
def isFile (fs : FileSystem) (path : String) : Bool := (fs.find? path).any (·.isFile)

/-- The bytes of a file. -/
def read? (fs : FileSystem) (path : String) : Option ByteArray :=
  match fs.find? path with
  | some (.file content) => some content
  | _ => none

/-- The text of a file, if it is one. -/
def readText? (fs : FileSystem) (path : String) : Option String :=
  (fs.read? path).bind String.fromUTF8?

/-- The steps of a path from the outermost directory on. -/
def steps (fs : FileSystem) (path : String) : List String :=
  (Text.segments '/' (fs.absolute path)).foldl (fun passed step =>
    if step = "" ∨ step = "." then passed
    else if step = ".." then passed.dropLast
    else passed ++ [step]) []

/-- The files with a tree put at a path. -/
def put (fs : FileSystem) (path : String) (t : FileTree) : FileSystem :=
  { fs with root := fs.root.insert t (fs.steps path) }

end FileSystem

end SnapshotLint

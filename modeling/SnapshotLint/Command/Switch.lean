/-
  Command lines as lists of items: switches, settings and words. A switch has a long name after two
  dashes and often a letter after one; letters may be written together. A setting has its value in
  the same word or in the next one, which then must not look like a switch. After `--` there are
  only words.
-/

namespace SnapshotLint.Command

/-- Something that can be switched on or set. -/
structure Switch where
  name : String
  letter : Option Char := none
  takesValue : Bool := false
deriving DecidableEq

/-- An item of a command line. -/
inductive Item where
  /-- Something switched on. -/
  | flag (name : String)
  /-- Something set. -/
  | setting (name value : String)
  /-- A word by itself. -/
  | word (s : String)
  /-- Something that cannot be understood. -/
  | invalid
deriving DecidableEq

/-- What an argument says. -/
inductive Reading where
  /-- All of its items. -/
  | complete (items : List Item)
  /-- Its items, but for a setting whose value is still to come. -/
  | awaiting (items : List Item) (name : String)
deriving DecidableEq

/-- A reading with one more item in front. -/
def Reading.cons (i : Item) : Reading → Reading
  | complete items => complete (i :: items)
  | awaiting items name => awaiting (i :: items) name

/-- Letters written together. -/
def readLetters (switches : List Switch) : List Char → Reading
  | [] => .complete []
  | c :: cs =>
    match switches.find? (·.letter == some c) with
    | none => .complete [.invalid]
    | some s =>
      if !s.takesValue then (readLetters switches cs).cons (.flag s.name)
      else match cs with
        | [] => .awaiting [] s.name
        | '=' :: value => .complete [.setting s.name (String.ofList value)]
        | value => .complete [.setting s.name (String.ofList value)]

/-- A long name, perhaps with a value after an equals sign. -/
def readName (switches : List Switch) (cs : List Char) : Reading :=
  match switches.find? (·.name.toList == cs.takeWhile (· != '=')) with
  | none => .complete [.invalid]
  | some s =>
    match cs.dropWhile (· != '='), s.takesValue with
    | [], false => .complete [.flag s.name]
    | [], true => .awaiting [] s.name
    | _ :: value, true => .complete [.setting s.name (String.ofList value)]
    | _ :: _, false => .complete [.invalid]

/-- An argument other than `--`. A dash alone is a word. -/
def readArgument (switches : List Switch) (arg : String) : Reading :=
  match arg.toList with
  | '-' :: '-' :: name => readName switches name
  | '-' :: c :: cs => readLetters switches (c :: cs)
  | _ => .complete [.word arg]

/-- Whether an argument cannot be the value of a setting before it. -/
def looksLikeSwitch (arg : String) : Bool :=
  match arg.toList with
  | '-' :: _ :: _ => true
  | _ => false

/-- The items of a command line. -/
def items (switches : List Switch) : List String → List Item
  | [] => []
  | arg :: rest =>
    if arg = "--" then rest.map .word
    else match readArgument switches arg, rest with
      | .complete is, rest => is ++ items switches rest
      | .awaiting is _, [] => is ++ [.invalid]
      | .awaiting is name, value :: rest =>
        if looksLikeSwitch value then is ++ [.invalid]
        else is ++ .setting name value :: items switches rest

/-- A command line split before its first word; there is none after `--`. -/
def splitAtWord (switches : List Switch) : List String → List String × List String
  | [] => ([], [])
  | arg :: rest =>
    if arg = "--" then (arg :: rest, [])
    else match readArgument switches arg, rest with
      | .complete [.word _], rest => ([], arg :: rest)
      | .complete _, rest =>
        let (before, after) := splitAtWord switches rest
        (arg :: before, after)
      | .awaiting _ _, [] => ([arg], [])
      | .awaiting _ _, value :: rest =>
        if looksLikeSwitch value then (arg :: value :: rest, [])
        else
          let (before, after) := splitAtWord switches rest
          (arg :: value :: before, after)

end SnapshotLint.Command

import ScriptHost.IoError

/-!
# Files

A program sees the directory it runs in: files and directories by their names. Names and paths are
bytes. Of what lies outside only the directories above are known to be there.

* `FileContent`, `FileTree` — the files of a directory and of the directories in it.
* `FileTree.resolve` — what a path leads to.
* `FileTree.read`, `FileTree.isFile` — the content of a file, and whether a path leads to one.
* `Path.join` — a name in a directory.
-/

namespace ScriptHost

/-- A path, by its bytes. -/
abbrev Path := List UInt8

/-- The byte between the names of a path. -/
def Path.separator : UInt8 := 0x2F

/-- The names of a path, in order. There are empty ones where two separators meet and where a
separator stands at an end. -/
def Path.names : Path → List Path
  | [] => [[]]
  | b :: rest =>
    if b == separator then [] :: names rest
    else
      match names rest with
      | [] => [[b]]
      | n :: ns => (b :: n) :: ns

/-- A name in a directory. -/
def Path.join (directory name : Path) : Path :=
  match directory.getLast? with
  | none => name
  | some b => if b == separator then directory ++ name else directory ++ separator :: name

/-- What is in a file. -/
inductive FileContent where
  | bytes (b : List UInt8)
  /-- Something that the program is not permitted to read. -/
  | withheld

instance : Coe (List UInt8) FileContent := ⟨.bytes⟩

/-- The files of a directory. Each stands under the names that lead to it; a place without content
is a directory. -/
structure FileTree where
  places : List (List Path × Option FileContent)

namespace FileTree

/-- What can be at the end of a path. -/
inductive Target where
  | file (content : List UInt8)
  /-- A file that the program is not permitted to read. -/
  | withheld
  /-- A directory in the tree, by the names that lead to it. -/
  | directory (names : List Path)
  /-- A directory that has the tree in it. -/
  | outside
  deriving Repr, DecidableEq

/-- Whether there is a file at the end of a path, be it one to read or not. -/
def Target.isFile : Target → Bool
  | file _ | withheld => true
  | directory _ | outside => false

/-- What stands under names, if anything does: a file, a directory that was listed, or one that
has something in it. -/
def at? (t : FileTree) (names : List Path) : Option Target :=
  match t.places.find? (·.1 == names) with
  | some (_, some (.bytes b)) => some (.file b)
  | some (_, some .withheld) => some .withheld
  | some (_, none) => some (.directory names)
  | none => if t.places.any (names.isPrefixOf ·.1) then some (.directory names) else none

/-- A name that means the directory itself. -/
def staysHere (name : Path) : Bool := name.isEmpty || name == [0x2E]

/-- A name that means the directory above. -/
def goesUp (name : Path) : Bool := name == [0x2E, 0x2E]

/-- The most bytes of a name. -/
def maxName : Nat := 255

/-- Paths are shorter than this. -/
def maxPath : Nat := 4096

/-- One step from a directory to a name in it. -/
def enter (t : FileTree) (place : Target) (name : Path) : Except IoError Target :=
  match place with
  | .file _ | .withheld => .error .notADirectory
  | .outside =>
    if staysHere name || goesUp name then .ok .outside
    else if maxName < name.length then .error .nameTooLong
    else .error .notFound
  | .directory names =>
    if staysHere name then .ok place
    else if goesUp name then
      .ok (if names.isEmpty then .outside else .directory names.dropLast)
    else if maxName < name.length then .error .nameTooLong
    else
      match t.at? (names ++ [name]) with
      | some target => .ok target
      | none => .error .notFound

/-- What a path leads to. -/
def resolve (t : FileTree) (path : Path) : Except IoError Target :=
  if path.contains 0 then .error .zeroByteInPath
  else if path.isEmpty then .error .notFound
  else if maxPath ≤ path.length then .error .nameTooLong
  else
    let start := if path.head? == some Path.separator then .outside else .directory []
    path.names.foldlM t.enter start

/-- The content of the file that a path leads to. -/
def read (t : FileTree) (path : Path) : Except IoError (List UInt8) := do
  match ← t.resolve path with
  | .file content => return content
  | .withheld => throw .permissionDenied
  | .directory _ | .outside => throw .isADirectory

/-- Whether a path leads to a file. -/
def isFile (t : FileTree) (path : Path) : Bool :=
  match t.resolve path with
  | .ok target => target.isFile
  | .error _ => false

end FileTree

end ScriptHost

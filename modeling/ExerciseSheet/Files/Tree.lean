import ExerciseSheet.Files.Path
import ExerciseSheet.Text.Quoted
import ExerciseSheet.Text.Utf8

/-!
# Files and directories

A file tree holds files and directories below the root. Every operation walks its path part by part
from a working directory, and is refused with the first reason it meets: a missing entry, a file
where a directory is needed, a name that is too long, or a place that the user may not write to. No
entry leads on to another place, and the user may read every file and look into every directory.
-/

namespace ExerciseSheet

/-- Why the operating system refuses a file operation. -/
inductive FileReason where
  | absent
  | notPermitted
  | alreadyThere
  | notDirectory
  | isDirectory
  | nameTooLong
  deriving DecidableEq, Repr

namespace FileReason

/-- The system's number for the reason. -/
def number : FileReason → Nat
  | absent => 2
  | notPermitted => 13
  | alreadyThere => 17
  | notDirectory => 20
  | isDirectory => 21
  | nameTooLong => 36

/-- The system's words for the reason. -/
def words : FileReason → Text
  | absent => "No such file or directory".toList
  | notPermitted => "Permission denied".toList
  | alreadyThere => "File exists".toList
  | notDirectory => "Not a directory".toList
  | isDirectory => "Is a directory".toList
  | nameTooLong => "File name too long".toList

end FileReason

/-- A refused file operation and the path it was about, if it was about one. -/
structure FileFault where
  reason : FileReason
  path : Option Text
  deriving DecidableEq, Repr

/-- The text of a refusal. -/
def FileFault.message (f : FileFault) : Text :=
  "[Errno ".toList ++ Nat.toDigits 10 f.reason.number ++ "] ".toList ++ f.reason.words
    ++ match f.path with
      | some p => ": ".toList ++ p.quoted
      | none => []

/-- What a path may lead to. -/
inductive FileNode where
  | file (content : Octets)
  | directory
  deriving DecidableEq, Repr

/-- The files and directories, each under its parts below the root, and the places among them that
the user may not write to. -/
structure FileTree where
  nodes : List (List Text × FileNode)
  closed : List (List Text)
  deriving Repr

namespace FileTree

/-- The entry at a place; the root is a directory. -/
def node? (tree : FileTree) (place : List Text) : Option FileNode :=
  if place.isEmpty then some .directory else tree.nodes.lookup place

/-- The entries with the one at `place` set. -/
def setNode (place : List Text) (node : FileNode) :
    List (List Text × FileNode) → List (List Text × FileNode)
  | [] => [(place, node)]
  | entry :: entries =>
    if entry.1 = place then (place, node) :: entries else entry :: setNode place node entries

/-- The tree with the entry at `place` set. -/
def put (tree : FileTree) (place : List Text) (node : FileNode) : FileTree :=
  { tree with nodes := setNode place node tree.nodes }

/-- The tree with `content` at `place` and every directory above it. -/
def putFile (tree : FileTree) (place : List Text) (content : Octets) : FileTree :=
  let above := (List.range place.length).drop 1
  (above.foldl (fun t n => t.put (place.take n) .directory) tree).put place (.file content)

/-- The tree with a directory at `place` and at every place above it. -/
def putDirectory (tree : FileTree) (place : List Text) : FileTree :=
  (List.range (place.length + 1)).foldl
    (fun t n => if n = 0 then t else t.put (place.take n) .directory) tree

/-- The longest name a part may be, in octets. -/
def nameLimit : Nat := 255

/-- Follows parts from a place to an entry. -/
def walk (tree : FileTree) : (place : List Text) → List Text → Except FileReason (List Text)
  | place, [] => .ok place
  | place, p :: ps =>
    match tree.node? place with
    | none => .error .absent
    | some (.file _) => .error .notDirectory
    | some .directory =>
      if p = FilePath.parentPart then walk tree place.dropLast ps
      else if nameLimit < p.utf8.length then .error .nameTooLong
      else walk tree (place ++ [p]) ps

/-- The place that a path leads to, which need not hold an entry yet. -/
def locate (tree : FileTree) (cwd : List Text) (p : FilePath) : Except FileReason (List Text) :=
  tree.walk (if p.root.isEmpty then cwd else []) p.parts

/-- What a path leads to, if anything. -/
def find? (tree : FileTree) (cwd : List Text) (p : FilePath) : Option FileNode :=
  match tree.locate cwd p with
  | .ok place => tree.node? place
  | .error _ => none

/-- Whether a path leads to a file. -/
def isFile (tree : FileTree) (cwd : List Text) (p : FilePath) : Bool :=
  match tree.find? cwd p with
  | some (.file _) => true
  | _ => false

/-- Whether a path leads to a directory. -/
def isDirectory (tree : FileTree) (cwd : List Text) (p : FilePath) : Bool :=
  match tree.find? cwd p with
  | some .directory => true
  | _ => false

/-- A refusal about a path. -/
def refuse {α : Type} (p : FilePath) (r : FileReason) : Except FileFault α :=
  .error ⟨r, some p.text⟩

/-- The content of the file that a path leads to. -/
def readFile (tree : FileTree) (cwd : List Text) (p : FilePath) : Except FileFault Octets :=
  match tree.locate cwd p with
  | .error r => refuse p r
  | .ok place =>
    match tree.node? place with
    | none => refuse p .absent
    | some .directory => refuse p .isDirectory
    | some (.file content) => .ok content

/-- Whether the user may write to what lies at a place. -/
def isWritable (tree : FileTree) (place : List Text) : Bool := !tree.closed.contains place

/-- The place of a file that is opened to be written. The user has to be allowed to write to the
file, or to the directory of one that is not there yet. -/
def placeToWrite (tree : FileTree) (cwd : List Text) (p : FilePath) :
    Except FileFault (List Text) :=
  match tree.locate cwd p with
  | .error r => refuse p r
  | .ok place =>
    match tree.node? place with
    | some .directory => refuse p .isDirectory
    | some (.file _) => if tree.isWritable place then .ok place else refuse p .notPermitted
    | none => if tree.isWritable place.dropLast then .ok place else refuse p .notPermitted

/-- The tree after a file is written, in a directory that has to be there. -/
def writeFile (tree : FileTree) (cwd : List Text) (p : FilePath) (content : Octets) :
    Except FileFault FileTree := do
  return tree.put (← tree.placeToWrite cwd p) (.file content)

/-- The tree after a file is opened to be written at its end, an empty one when there was none. -/
def openAtEnd (tree : FileTree) (cwd : List Text) (p : FilePath) : Except FileFault FileTree := do
  let place ← tree.placeToWrite cwd p
  return if (tree.node? place).isSome then tree else tree.put place (.file [])

/-- The tree after one directory is made, in a directory that has to be there. -/
def makeDirectory (tree : FileTree) (cwd : List Text) (p : FilePath) :
    Except FileFault FileTree :=
  match tree.locate cwd p with
  | .error r => refuse p r
  | .ok place =>
    match tree.node? place with
    | some _ => refuse p .alreadyThere
    | none =>
      if tree.isWritable place.dropLast then .ok (tree.put place .directory)
      else refuse p .notPermitted

/-- Makes a directory with those above it, at most `fuel` of them; one that is there already is as
good. -/
def makeDirectoriesFrom (cwd : List Text) :
    (fuel : Nat) → FileTree → FilePath → Except FileFault FileTree
  | 0, _, p => refuse p .absent
  | fuel + 1, tree, p =>
    match tree.makeDirectory cwd p with
    | .ok tree => .ok tree
    | .error f =>
      if f.reason = .absent && p.parent != p then do
        let tree ← makeDirectoriesFrom cwd fuel tree p.parent
        match tree.makeDirectory cwd p with
        | .ok tree => return tree
        | .error f => if tree.isDirectory cwd p then return tree else .error f
      else if f.reason ≠ .absent && tree.isDirectory cwd p then .ok tree
      else .error f

/-- Makes a directory with all those above it. -/
def makeDirectories (tree : FileTree) (cwd : List Text) (p : FilePath) :
    Except FileFault FileTree :=
  makeDirectoriesFrom cwd (p.parts.length + 1) tree p

end FileTree

end ExerciseSheet

import ExerciseSheet.Text.Basic

/-!
# File paths

A path is a root and the parts below it; parts that are empty or a single dot are dropped, so a path
has one text. A path is made absolute against a working directory, each double dot taking back the
part before it.
-/

namespace ExerciseSheet

/-- A path: its root, empty when the path is relative, and its parts. -/
structure FilePath where
  root : Text
  parts : List Text
  deriving DecidableEq, Repr

namespace FilePath

/-- The double dot. -/
def parentPart : Text := ['.', '.']

/-- The parts of a path's text. -/
def partsOf (t : Text) : List Text :=
  (t.splitOn '/').filter fun p => !p.isEmpty && p != ['.']

/-- The path that a text gives; exactly two leading slashes are a root of their own. -/
def ofText (t : Text) : FilePath :=
  let slashes := (t.takeWhile (· == '/')).length
  { root := if slashes = 0 then [] else if slashes = 2 then ['/', '/'] else ['/']
    parts := partsOf t }

/-- The text of a path. -/
def text (p : FilePath) : Text :=
  if p.root.isEmpty && p.parts.isEmpty then ['.'] else p.root ++ Text.join ['/'] p.parts

/-- Whether a path holds a null character, as none that the system opens does. -/
def holdsNull (p : FilePath) : Bool := p.parts.any (·.contains '\x00')

/-- The path of `name` inside the directory `p`. -/
def child (p : FilePath) (name : Text) : FilePath := { p with parts := p.parts ++ [name] }

/-- The directory that holds `p`, or `p` itself when there is none above it. -/
def parent (p : FilePath) : FilePath := { p with parts := p.parts.dropLast }

/-- `p` with its last part replaced. -/
def withName (p : FilePath) (name : Text) : FilePath := p.parent.child name

/-- Adds a part to the parts before it, given from the last: a double dot takes one back. -/
def pushPart (before : List Text) (p : Text) : List Text :=
  if p = parentPart then before.drop 1 else p :: before

/-- The path seen from the directory `cwd`, without double dots. -/
def absolute (p cwd : FilePath) : FilePath :=
  let start := if p.root.isEmpty then cwd.parts else []
  { root := ['/'], parts := (p.parts.foldl pushPart start.reverse).reverse }

/-- The path with a leading tilde replaced by the home directory that `home` gives for the name
after it; no path when there is none. -/
def expandHome? (home : Text → Option FilePath) (p : FilePath) : Option FilePath :=
  match p.root, p.parts with
  | [], ('~' :: user) :: rest => (home user).map fun h => { h with parts := h.parts ++ rest }
  | _, _ => some p

end FilePath

end ExerciseSheet

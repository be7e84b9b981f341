import ExerciseSheet.Files.Document
import ExerciseSheet.Json.Value
import ExerciseSheet.Text.Blank

/-!
# Files of settings

A settings file has a key and a value on a line, with an equals sign between them. Blank lines and
lines that start with a number sign are passed over; so is a line without an equals sign or without
a key. A value in quotes stands without them. The last line of a key counts.
-/

namespace ExerciseSheet

namespace EnvFile

/-- Whether a character is a quote. -/
def isQuote (c : Char) : Bool := c = '"' || c = '\''

/-- A value without the quotes around it. -/
def unquote (value : Text) : Text :=
  match value with
  | c :: inside => if isQuote c && value.getLast? = some c then inside.dropLast else value
  | [] => []

/-- The key and the value of a line. -/
def pairOf? (line : Text) : Option (Text × Text) :=
  let line := line.trim
  if ['#'].isPrefixOf line then none
  else match Text.cutAt? ['='] line with
    | some (key, value) =>
      if key.trim.isEmpty then none else some (key.trim, unquote value.trim)
    | none => none

/-- The settings in a file's text, each key in its first place with its last value. -/
def read (t : Text) : List (Text × Text) := Json.fieldsOf ((t.splitOn '\n').filterMap pairOf?)

/-- The settings in a file, none when there is no file. -/
def load (tree : FileTree) (cwd : List Text) (path : FilePath) :
    Except Fault (List (Text × Text)) :=
  match tree.find? cwd path with
  | none => .ok []
  | some _ =>
    match tree.readFile cwd path with
    | .error f => .error (.file f)
    | .ok content => do return read (← content.document)

end EnvFile

end ExerciseSheet

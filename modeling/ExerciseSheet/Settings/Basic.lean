import ExerciseSheet.Compiler.Basic
import ExerciseSheet.Number.Reading
import ExerciseSheet.Settings.EnvFile
import ExerciseSheet.Text.Lowercase

/-!
# Settings

A setting comes from the environment, else from the settings file of the working directory, else
from its default; an empty value counts as none. Numbers have to be numbers. Whether the values make
sense is checked apart from loading them.
-/

namespace ExerciseSheet

/-- Where the program runs. The paths are the system's own, so none of them holds a null
character. -/
structure Surroundings where
  /-- The working directory. -/
  directory : FilePath
  /-- The home directories, the user's own under the empty name. -/
  homeOf : Text → Option FilePath
  /-- The environment. -/
  environment : List (Text × Text)
  /-- Where the shipped carrier lies. -/
  carrier : FilePath
  /-- How deep the values of a file may nest. -/
  depth : Nat
  /-- What the log writes for the time of a record. -/
  time : Text

/-- The settings of a run. -/
structure Settings where
  logPath : FilePath
  templatePath : FilePath
  executable : Text
  compileTimeout : Amount
  compileDelay : Amount
  /-- Shorter documents are not compiled on their own. -/
  minLength : Int
  compileMode : Text
  documentMode : Text
  trigger : Text
  debug : Bool

namespace Settings

/-- The name of a setting. -/
def keyOf (name : String) : Text := "SHEETWRIGHT_".toList ++ name.toList

/-- The value of a setting in the environment or else in the settings file, unless it is empty. -/
def lookup (environment fileValues : List (Text × Text)) (name : String) : Option Text :=
  let present := fun (values : List (Text × Text)) =>
    (values.lookup (keyOf name)).filter fun value => !value.isEmpty
  present environment <|> present fileValues

/-- A path setting, seen from the working directory. The user that it starts with is asked for
before the rest of it is looked at. -/
def pathOf (s : Surroundings) (value : Option Text) (default : FilePath) :
    Except Fault FilePath :=
  match value with
  | none => .ok default
  | some t =>
    let path := FilePath.ofText t
    match path.expandHome? s.homeOf with
    | some p => if path.holdsNull then .error .nullInPath else .ok (p.absolute s.directory)
    | none =>
      .error (if FilePath.holdsNull ⟨[], path.parts.take 1⟩ then .nullInPath else .noHome)

/-- A setting that is a number. -/
def realOf (name : String) (value : Option Text) (default : Float) : Except Fault Amount :=
  match value with
  | none => .ok (.real default)
  | some t =>
    match readReal? t with
    | some x => .ok (.real x)
    | none => .error (.notNumber (keyOf name) t)

/-- A setting that is a whole number. -/
def wholeOf (name : String) (value : Option Text) (default : Int) : Except Fault Int :=
  match value with
  | none => .ok default
  | some t =>
    match readWhole t with
    | .ok n => .ok n
    | .error _ => .error (.notWhole (keyOf name) t)

/-- The values that switch a setting on. -/
def yesWords : List Text := ["true", "1", "yes", "on"].map String.toList

/-- A setting that is on or off. -/
def flagOf (value : Option Text) : Bool :=
  match value with
  | none => false
  | some t => yesWords.contains t.lower

/-- Where the log goes unless a setting says otherwise. -/
def defaultLogPath (s : Surroundings) : Except Fault FilePath :=
  match s.homeOf [] with
  | some home => .ok ((home.child ".sheetwright".toList).child "logs".toList)
  | none => .error .noHome

/-- The settings from the surroundings and the values of a settings file. -/
def ofValues (s : Surroundings) (fileValues : List (Text × Text)) : Except Fault Settings := do
  let value := lookup s.environment fileValues
  return {
    logPath := ← pathOf s (value "LOG_PATH") (← defaultLogPath s)
    templatePath := ← pathOf s (value "TEMPLATE_PATH") s.carrier
    executable := (value "PDFLATEX").getD Compiler.defaultExecutable
    compileTimeout := ← realOf "COMPILE_TIMEOUT" (value "COMPILE_TIMEOUT") 30
    compileDelay := ← realOf "COMPILE_DELAY" (value "COMPILE_DELAY") 2
    minLength := ← wholeOf "MIN_AUTOCOMPILE_LENGTH" (value "MIN_AUTOCOMPILE_LENGTH") 50
    compileMode := ((value "COMPILE_MODE").getD "auto".toList).lower
    documentMode := ((value "DOCUMENT_MODE").getD "solution".toList).lower
    trigger := (value "TRIGGER_CHAR").getD ['/']
    debug := flagOf (value "DEBUG") }

/-- The settings file of the working directory. -/
def filePath (s : Surroundings) : FilePath := s.directory.child ".env".toList

/-- The settings from the surroundings and the settings file. -/
def load (s : Surroundings) (tree : FileTree) : Except Fault Settings := do
  ofValues s (← EnvFile.load tree s.directory.parts (filePath s))

/-- The compiler that the settings name. -/
def compiler (s : Settings) : Compiler := ⟨s.executable, s.compileTimeout, Compiler.defaultPasses⟩

end Settings

/-- The settings of a session, loaded when they are first asked for and kept until a reset. -/
structure SettingsCache where
  kept : Option Settings

namespace SettingsCache

/-- Nothing loaded yet. -/
def empty : SettingsCache := ⟨none⟩

/-- The settings, with the cache that keeps them. -/
def get (c : SettingsCache) (s : Surroundings) (tree : FileTree) :
    Except Fault (Settings × SettingsCache) :=
  match c.kept with
  | some settings => .ok (settings, c)
  | none => do
    let settings ← Settings.load s tree
    return (settings, ⟨some settings⟩)

end SettingsCache

end ExerciseSheet

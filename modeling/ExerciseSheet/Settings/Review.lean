import ExerciseSheet.Carrier.Basic
import ExerciseSheet.Compiler.Mode
import ExerciseSheet.Settings.Basic
import ExerciseSheet.Starter

/-!
# Reviewing the settings

The review lists what is wrong with settings, and makes the log's directory on the way. What makes
the editor unusable is marked as critical; a compiler that is missing is not.
-/

namespace ExerciseSheet

namespace Settings

/-- An issue that makes the editor unusable. -/
def critical (issue : Text) : Text := "CRITICAL: ".toList ++ issue

/-- The modes of compiling. -/
def compileModes : List Text := CompileMode.all.map (·.name)

/-- The modes of a document. -/
def documentModes : List Text := [SheetMode.solution.name, SheetMode.review.name]

/-- The issue of a mode that is none of those there are. -/
def modeIssues (what : String) (modes : List Text) (mode : Text) : List Text :=
  if modes.contains mode then []
  else [critical ("Unknown ".toList ++ what.toList ++ " mode ".toList ++ mode.quoted
    ++ ". Expected one of: ".toList ++ Text.join ", ".toList modes ++ ['.'])]

/-- Makes the log's directory, with the issue of one that cannot be made or written to. -/
def makeLogDirectory (s : Settings) (cwd : List Text) (tree : FileTree) : List Text × FileTree :=
  match tree.makeDirectories cwd s.logPath with
  | .ok tree =>
    (if (tree.locate cwd s.logPath).toOption.any tree.isWritable then []
      else ["Log directory not writable: ".toList ++ s.logPath.text], tree)
  | .error f =>
    (["Cannot create log directory ".toList ++ s.logPath.text ++ ": ".toList ++ f.message], tree)

/-- The issue of a carrier that is not there. -/
def carrierIssues (s : Settings) (cwd : List Text) (tree : FileTree) : List Text :=
  if tree.isFile cwd s.templatePath then []
  else [critical ("Carrier template not found: ".toList ++ s.templatePath.text)]

/-- The issue of a compiler that is not there. -/
def compilerIssues (s : Settings) (isFound : Text → Bool) : List Text :=
  if isFound s.executable then []
  else ["LaTeX compiler not found on PATH: ".toList ++ s.executable
    ++ " (compilation disabled)".toList]

/-- The issues of numbers out of range. -/
def numberIssues (s : Settings) : List Text :=
  (if s.compileTimeout.isNotPositive then
    ["Compile timeout must be positive, got ".toList ++ s.compileTimeout.text] else [])
  ++ (if s.compileDelay.isNegative then
    ["Compile delay cannot be negative, got ".toList ++ s.compileDelay.text] else [])

/-- Whether a trigger is one visible character. -/
def isVisible (trigger : Text) : Bool :=
  match trigger with
  | [c] => !isBlank c
  | _ => false

/-- The issue of a trigger that cannot be typed and seen. -/
def triggerIssues (s : Settings) : List Text :=
  if isVisible s.trigger then []
  else [critical ("Trigger must be a single visible character, got ".toList ++ s.trigger.quoted)]

/-- What is wrong with settings, and the files after the log's directory is made. -/
def review (s : Settings) (isFound : Text → Bool) (cwd : List Text) (tree : FileTree) :
    List Text × FileTree :=
  let (logIssues, tree) := s.makeLogDirectory cwd tree
  (logIssues ++ s.carrierIssues cwd tree ++ s.compilerIssues isFound
    ++ modeIssues "compile" compileModes s.compileMode
    ++ modeIssues "document" documentModes s.documentMode ++ s.numberIssues ++ s.triggerIssues,
    tree)

/-- What is wrong with the text of the carrier that the settings name, when it is there. A path with
a name that is too long is a fault of the system. -/
def carrierTextIssues (s : Settings) (cwd : List Text) (tree : FileTree) :
    Except Fault (List Text) :=
  match tree.locate cwd s.templatePath with
  | .error .nameTooLong => .error (.file ⟨.nameTooLong, some s.templatePath.text⟩)
  | _ =>
    if !tree.isFile cwd s.templatePath then .ok []
    else match Carrier.load tree cwd s.templatePath with
      | .ok carrier =>
        .ok ((Carrier.issues carrier).map fun i => critical ("Carrier template: ".toList ++ i))
      | .error f => if f.kind?.isSome then .ok [critical f.message] else .error f

end Settings

end ExerciseSheet

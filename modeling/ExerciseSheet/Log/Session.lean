import ExerciseSheet.Fault
import ExerciseSheet.Log.Record

/-!
# Logging in a session

The log is set up once, with a directory and two levels, and a second setup changes nothing. The
directory and the file in it are made if need be, and the setup fails when they cannot be. From then
on a record goes to the console and to the file if its level is high enough for each. Before that
only warnings and worse are shown, as bare messages. What the session writes to the file is kept
beside the files, so a log that grows too long is not cut.
-/

namespace ExerciseSheet

/-- Where records go. -/
structure LogSetup where
  directory : FilePath
  consoleLevel : Int
  fileLevel : Int
  deriving DecidableEq, Repr

/-- The log's file. -/
def LogSetup.file (setup : LogSetup) : FilePath := setup.directory.child "sheetwright.log".toList

/-- What has been logged: the text of the console and the text of the file. -/
structure LogSession where
  setup : Option LogSetup
  console : Text
  file : Text
  deriving DecidableEq, Repr

namespace LogSession

/-- Nothing set up and nothing logged. -/
def new : LogSession := ⟨none, [], []⟩

/-- A text with a line put after it. -/
def putLine (t line : Text) : Text := t ++ line ++ ['\n']

/-- The log after a record. -/
def emit (s : LogSession) (time : Text) (r : LogRecord) : LogSession :=
  match s.setup with
  | none =>
    if r.level < LogLevel.warning then s
    else { s with console := putLine s.console r.message }
  | some setup =>
    if r.level < LogLevel.debug then s
    else
      { s with
        console := if r.level < setup.consoleLevel then s.console
          else putLine s.console (r.consoleLine time)
        file := if r.level < setup.fileLevel then s.file else putLine s.file (r.fileLine time) }

/-- The log after a setup, which is logged itself. -/
def started (s : LogSession) (time : Text) (setup : LogSetup) : LogSession :=
  { s with setup := some setup }.emit time
    { logger := rootLogger, level := LogLevel.info, message := "Logging initialized".toList
      context := some [("log_dir".toList, .text setup.directory.text)] }

/-- The log and the files after a setup, unless there has been one. -/
def setUp (s : LogSession) (time : Text) (setup : LogSetup) (cwd : List Text) (tree : FileTree) :
    Except Fault (LogSession × FileTree) :=
  match s.setup with
  | some _ => .ok (s, tree)
  | none => do
    let tree ← setup.directory.attempt (tree.makeDirectories cwd setup.directory)
    let tree ← setup.file.attempt (tree.openAtEnd cwd setup.file)
    return (s.started time setup, tree)

end LogSession

end ExerciseSheet

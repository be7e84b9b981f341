import ExerciseSheet.Json.Writer
import ExerciseSheet.Text.Lines

/-!
# Log records

A record has a logger, a level, a message and, if given, a context. The log's file has it as a JSON
object on a line, the console as a short text with the context in brackets.
-/

namespace ExerciseSheet

/-- A record of the log. -/
structure LogRecord where
  logger : Text
  level : Int
  message : Text
  context : Option (List (Text × Json))

namespace LogLevel

/-- Details for tracing. -/
def debug : Int := 10

/-- What happens. -/
def info : Int := 20

/-- What may be wrong. -/
def warning : Int := 30

/-- What is wrong. -/
def error : Int := 40

/-- The levels that have a name. -/
def names : List (Int × String) :=
  [(0, "NOTSET"), (10, "DEBUG"), (20, "INFO"), (30, "WARNING"), (40, "ERROR"), (50, "CRITICAL")]

/-- The name of a level, by its number when it has none of its own. -/
def name (level : Int) : Text :=
  match names.lookup level with
  | some n => n.toList
  | none => "Level ".toList ++ wholeText level

end LogLevel

/-- The logger above all others. -/
def rootLogger : Text := "sheetwright".toList

/-- The full name of a logger: below the root, whose name need not be given. -/
def loggerName (name : Text) : Text :=
  let above := rootLogger ++ ['.']
  above ++ if above.isPrefixOf name then name.drop above.length else name

namespace LogRecord

/-- The record as a line of the log's file. -/
def fileLine (r : LogRecord) (time : Text) : Text :=
  Json.write (.object ([("timestamp".toList, .text time),
    ("level".toList, .text (LogLevel.name r.level)), ("module".toList, .text r.logger),
    ("message".toList, .text r.message)]
    ++ match r.context with
      | some fields => [("context".toList, .object fields)]
      | none => []))

/-- The context in brackets, nothing when it is empty. -/
def contextText (r : LogRecord) : Text :=
  match r.context with
  | some (f :: fs) =>
    " [".toList ++ Text.join ", ".toList ((f :: fs).map fun f => f.1 ++ '=' :: f.2.shown) ++ [']']
  | _ => []

/-- The record as the console shows it. -/
def consoleLine (r : LogRecord) (time : Text) : Text :=
  time ++ ' ' :: Text.padRight ' ' 4 ((LogLevel.name r.level).take 4) ++ ' ' :: r.logger
    ++ ": ".toList ++ r.message ++ r.contextText

end LogRecord

end ExerciseSheet

import ExerciseSheet.Text.Blank
import ExerciseSheet.Text.Lines

/-!
# The compiler's log

An error in a log is a line with an exclamation mark in front. The line of the document that it is
about stands a few lines below, behind the letter `l` and a dot.
-/

namespace ExerciseSheet

namespace CompilerLog

/-- How many lines below an error are searched for its place. -/
def lookAhead : Nat := 7

/-- Whether a line of the log reports an error. -/
def isError (line : Text) : Bool := ['!'].isPrefixOf line

/-- Whether a line of the log gives a place in the document. -/
def isPlace (line : Text) : Bool := ['l', '.'].isPrefixOf line

/-- The error of a line, with the place that one of the lines below it gives. -/
def errorOf (line : Text) (below : List Text) : Text :=
  let error := Text.trim (line.drop 1)
  match (below.take lookAhead).find? isPlace with
  | some place => error ++ " (".toList ++ place.takeWhile (· != ' ') ++ [')']
  | none => error

/-- The first error in the lines of a log. -/
def firstErrorIn? : List Text → Option Text
  | [] => none
  | line :: below => if isError line then some (errorOf line below) else firstErrorIn? below

/-- The first error in a log. -/
def firstError? (log : Text) : Option Text := firstErrorIn? log.lines

end CompilerLog

end ExerciseSheet

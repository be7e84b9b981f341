import ExerciseSheet.Fault
import ExerciseSheet.Json.Value
import ExerciseSheet.Text.Blank

/-!
# Starters

A starter is what a fresh sheet begins with: the title of its first exercise, with a number and a
title to fill in, and a body that depends on the mode. A sheet is an untouched starter when, blanks
at its ends apart, it is one with the usual values.
-/

namespace ExerciseSheet

/-- What a sheet is for. -/
inductive SheetMode where
  | review
  | solution
  deriving DecidableEq, Repr

namespace SheetMode

/-- The modes, in the order of their names. -/
def all : List SheetMode := [review, solution]

/-- The name of a mode. -/
def name : SheetMode → Text
  | review => "review".toList
  | solution => "solution".toList

end SheetMode

namespace Starter

/-- What follows the title in a review. -/
def reviewBody : Text := Text.ofLines [
    "\x7d",
    "",
    "\\textbf\x7bReview Comments:\x7d",
    "",
    "Overall, the solution demonstrates a solid understanding of asymptotic analysis. "
      ++ "However, there are some areas that need improvement:",
    "",
    "\\begin\x7bitemize\x7d",
    "    \\item \\textbf\x7bCorrectness:\x7d The recursive relation is correctly identified. "
      ++ "The base case is properly handled.",
    "    \\item \\textbf\x7bAnalysis:\x7d The time complexity derivation is mostly correct, "
      ++ "but the explanation could be more detailed.",
    "    \\item \\textbf\x7bNotation:\x7d Good use of Big-O notation throughout. "
      ++ "Minor: use $\\BigO\x7bn \\log n\x7d$ instead of writing it out.",
    "    \\item \\textbf\x7bClarity:\x7d The proof structure is clear "
      ++ "but could benefit from more intermediate steps.",
    "\\end\x7bitemize\x7d",
    "",
    "\\textbf\x7bSuggestions for improvement:\x7d",
    "\\begin\x7bitemize\x7d",
    "    \\item Add more explanation when applying the Master Theorem",
    "    \\item Show the recursion tree for visual clarity",
    "    \\item Verify edge cases more explicitly",
    "\\end\x7bitemize\x7d",
    "",
    "\\vspace\x7b1em\x7d",
    "\\score\x7b7\x7d\x7b10\x7d",
    ""]

/-- What follows the title in a solution. -/
def solutionBody : Text := Text.ofLines [
    "\x7d",
    "",
    "\\exercisepart\x7bPart (a)\x7d",
    "",
    "\\textbf\x7bProblem:\x7d State your problem here.",
    "",
    "\\textbf\x7bSolution:\x7d",
    "",
    "Write your solution here. Use / for commands.",
    "",
    "You can use inline math like $\\BigO\x7bn \\log n\x7d$ or display math:",
    "",
    "\\[",
    "    T(n) = 2T\\left(\\frac\x7bn\x7d\x7b2\x7d\\right) + \\BigO\x7bn\x7d",
    "\\]",
    "",
    "\\exercisepart\x7bPart (b)\x7d",
    "",
    "\\textbf\x7bProblem:\x7d Another problem.",
    "",
    "\\textbf\x7bSolution:\x7d",
    "",
    "Your solution for part (b) goes here.",
    ""]

/-- What follows the title. -/
def body : SheetMode → Text
  | .review => reviewBody
  | .solution => solutionBody

/-- The starter of a mode with a number and a title, each in its written form. -/
def render (mode : SheetMode) (number title : Text) : Text :=
  "\n\\exercisetitle\x7bExercise ".toList ++ number ++ ": ".toList ++ title ++ body mode

/-- The number of a sheet for which none is given. -/
def defaultNumber : Text := ['1']

/-- The title of a sheet for which none is given. -/
def defaultTitle : Text := "Your Title Here".toList

/-- The starter of a mode with the usual values. -/
def default (mode : SheetMode) : Text := render mode defaultNumber defaultTitle

/-- The starter of a mode with the values that are given for its variables. -/
def ofValues (mode : SheetMode) (values : List (Text × Json)) : Text :=
  let value := fun (name : String) (otherwise : Text) =>
    ((values.lookup name.toList).map Json.shown).getD otherwise
  render mode (value "exercise_number" defaultNumber) (value "title" defaultTitle)

/-- The file of a mode's starter. -/
def fileName (mode : Text) : Text := mode ++ ".tex.j2".toList

/-- The mode that a name stands for. Empty parts and single dots of the name are passed over; with
a double dot it stands for none. -/
def modeOf? (name : Text) : Option SheetMode :=
  let parts := (Text.splitOn '/' (fileName name)).filter fun p => !p.isEmpty && p != ['.']
  SheetMode.all.find? fun m => parts == [fileName m.name]

/-- The starter of the mode with the given name. The names of the mode and of the starter itself are
taken and may not be given values. -/
def renderNamed (name : Text) (values : List (Text × Json)) : Except Fault Text :=
  let isGiven := fun (key : String) => (values.lookup key.toList).isSome
  if isGiven "mode" then .error (.takenName "mode".toList)
  else match modeOf? name with
    | some mode =>
      if isGiven "self" then .error (.takenName "self".toList) else .ok (ofValues mode values)
    | none => .error (.noStarter name)

/-- Whether a content is still a starter that nobody has touched. -/
def isUntouched (content : Text) : Bool :=
  SheetMode.all.any fun mode => (default mode).trim == content.trim

end Starter

end ExerciseSheet

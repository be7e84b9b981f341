import ExerciseSheet.Fault
import ExerciseSheet.Text.Lines

/-!
# Documents in files

A file that holds a document holds its text in octets, with any way of ending a line.
-/

namespace ExerciseSheet

/-- The text of a file's octets. -/
def Octets.document (content : Octets) : Except Fault Text :=
  match content.text? with
  | some t => .ok t.unifyNewlines
  | none => .error .notText

end ExerciseSheet

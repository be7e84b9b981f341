import ExerciseSheet.Files.Document
import ExerciseSheet.Segment

/-!
# The carrier of a sheet

A carrier is a whole document with a place for the content, a place for the sheet's number and, if
it likes, a switch for review mode. Embedding fills each place once. The content goes in last, so
what it holds is never taken for a place.
-/

namespace ExerciseSheet

/-- What a sheet is numbered by. -/
inductive SheetNumber where
  | whole (n : Int)
  | text (t : Text)
  deriving DecidableEq, Repr

/-- The text of a sheet's number. -/
def SheetNumber.written : SheetNumber → Except Fault Text
  | whole n => writeWhole n
  | text t => .ok t

namespace Carrier

/-- The command that carries the sheet's number. -/
def numberCommand (number : Text) : Text :=
  "\\newcommand\x7b\\exercisenum\x7d\x7b".toList ++ number ++ ['\x7d']

/-- The place of the content. -/
def contentPlace : Text := "% Content will be inserted here by the editor".toList

/-- The place of the sheet's number. -/
def numberPlace : Text := numberCommand ['X']

/-- The switch for review mode, as a carrier has it. -/
def reviewOff : Text := "\\reviewmodefalse".toList

/-- The switch for review mode, turned on. -/
def reviewOn : Text := "\\reviewmodetrue".toList

/-- What is wrong with a place that has to occur exactly once. -/
def placeIssues (carrier : Text) (name : String) (place : Text) : List Text :=
  match Text.count place carrier with
  | 0 => ["Missing ".toList ++ name.toList ++ ": ".toList ++ place]
  | 1 => []
  | n => ["Duplicate ".toList ++ name.toList ++ " (".toList ++ naturalText n
      ++ " occurrences): ".toList ++ place]

/-- What is wrong with a switch that may occur at most once. -/
def switchIssues (carrier : Text) : List Text :=
  if 1 < Text.count reviewOff carrier then ["Duplicate review switch: ".toList ++ reviewOff] else []

/-- What is wrong with a carrier. -/
def issues (carrier : Text) : List Text :=
  placeIssues carrier "content placeholder" contentPlace
    ++ placeIssues carrier "exercise number placeholder" numberPlace ++ switchIssues carrier

/-- The carrier with its number and its review switch set. -/
def prepared (carrier number : Text) (review : Bool) : Text :=
  let numbered := Text.replaceFirst numberPlace (numberCommand number) carrier
  if review then Text.replaceFirst reviewOff reviewOn numbered else numbered

/-- The text with the content at its place, or after everything when there is no place for it. -/
def filled (content document : Text) : Text :=
  match Text.cutAt? contentPlace document with
  | some (head, tail) => head ++ content ++ tail
  | none => document ++ content

/-- The whole document that a carrier makes of a content. -/
def embed (carrier content : Text) (number : SheetNumber) (review : Bool) : Except Fault Text := do
  unless Text.has contentPlace carrier do throw (.placeholderMissing contentPlace)
  unless Text.has numberPlace carrier do throw (.placeholderMissing numberPlace)
  return filled content (prepared carrier (← number.written) review)

/-- The whole document that a carrier makes of one exercise. -/
def embedSegment (carrier : Text) (s : Segment) (review : Bool) : Except Fault Text :=
  embed carrier s.text (.text s.label) review

/-- The text of a carrier's file. -/
def load (tree : FileTree) (cwd : List Text) (path : FilePath) : Except Fault Text :=
  if path.holdsNull then .error .nullInPath
  else match tree.readFile cwd path with
    | .error f => .error (.carrierUnreadable path.text f)
    | .ok content => content.document

end Carrier

end ExerciseSheet

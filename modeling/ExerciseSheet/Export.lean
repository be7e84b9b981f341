import ExerciseSheet.Carrier.Basic
import ExerciseSheet.Compiler.Basic

/-!
# Printed sheets

A sheet is printed as a whole, or exercise by exercise, each on its own carrier. Without an exercise
to print nothing is compiled at all. An exercise that does not compile is recorded and the others
are compiled all the same.
-/

namespace ExerciseSheet

/-- The outcome for one exercise. -/
structure SegmentExport where
  segment : Segment
  result : CompileResult
  deriving Repr

namespace Segment

/-- The file that the printed exercise goes to. -/
def fileName (s : Segment) : Text := "exercise_".toList ++ s.label ++ ".pdf".toList

end Segment

/-- The file that a printed sheet goes to. -/
def sheetFileName (number : Text) : Text := "sheet_".toList ++ number ++ ".pdf".toList

/-- Compiles a content as one sheet. -/
def compileSheet {σ : Type} (compile : Text → Compiling σ CompileResult) (content carrier : Text)
    (number : SheetNumber) (review : Bool) : Compiling σ CompileResult := do
  compile (← ExceptT.mk (pure (Carrier.embed carrier content number review)))

/-- The exercises of a content with the numbers, of which there has to be one. -/
def chosenSegments (m : Marker) (content : Text) (numbers : Option (List Int)) :
    Except Fault (List Segment) := do
  let ss ← Segment.split m content
  if ss.isEmpty then throw .noExercises
  let chosen ← Segment.select numbers ss
  if chosen.isEmpty then throw (.noneRequested (ss.map (·.label)))
  return chosen

/-- Compiles segments one after another. -/
def exportEach {σ : Type} (compile : Text → Compiling σ CompileResult) (carrier : Text)
    (review : Bool) : List Segment → Compiling σ (List SegmentExport)
  | [] => pure []
  | s :: ss => do
    let document ← ExceptT.mk (pure (Carrier.embedSegment carrier s review))
    let result ← compile document
    return ⟨s, result⟩ :: (← exportEach compile carrier review ss)

/-- Compiles each exercise of a content with one of the numbers on its own. -/
def exportSegments {σ : Type} (compile : Text → Compiling σ CompileResult) (m : Marker)
    (content carrier : Text) (numbers : Option (List Int)) (review : Bool) :
    Compiling σ (List SegmentExport) := do
  exportEach compile carrier review (← ExceptT.mk (pure (chosenSegments m content numbers)))

end ExerciseSheet

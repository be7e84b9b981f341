import ExerciseSheet.MathMode.Scan

/-!
# Asking for math mode while a text is edited

A detector keeps the state of its last scan as a checkpoint and goes on from there when the next
question lies at or after it; otherwise it scans from the start, and counts that. Whoever edits the
text reports where, and an edit before the checkpoint drops it.
-/

namespace ExerciseSheet

/-- The state of the last scan, if it still holds, and how many scans began at the start. -/
structure Detector where
  checkpoint : Option ScanState
  fullScans : Nat
  deriving DecidableEq, Repr

namespace Detector

/-- A detector that has not scanned yet. -/
def new : Detector := ⟨none, 0⟩

/-- The checkpoint, when a scan up to `offset` can go on from it. -/
def usable? (d : Detector) (document : Text) (offset : Int) : Option ScanState :=
  d.checkpoint.filter fun s => (s.position : Int) ≤ offset && s.position ≤ document.length

/-- Whether an offset lies in math, and the detector with the checkpoint that leaves. -/
def query (d : Detector) (document : Text) (offset : Int) : Bool × Detector :=
  let known := d.usable? document offset
  let s := scan document offset (known.getD .start)
  (s.inMath, ⟨some s, if known.isSome then d.fullScans else d.fullScans + 1⟩)

/-- The detector after an edit that starts at `position`. -/
def notifyEdit (d : Detector) (position : Int) : Detector :=
  { d with checkpoint := d.checkpoint.filter fun s => (s.position : Int) ≤ position }

/-- The detector without its checkpoint. -/
def reset (d : Detector) : Detector := { d with checkpoint := none }

/-- Whether the detector's answer is the one of a scan from the start, and the detector after it. -/
def verify (d : Detector) (document : Text) (offset : Int) : Bool × Detector :=
  let (answer, d) := d.query document offset
  (answer == isInMath document offset, d)

end Detector

/-- A text and the detector that watches it. -/
structure Watched where
  text : Text
  detector : Detector
  deriving DecidableEq, Repr

namespace Watched

/-- What may happen to a watched text. -/
inductive Action where
  /-- The mode at an offset is asked for. -/
  | query (offset : Int)
  /-- The mode at an offset is asked for and compared with a scan from the start. -/
  | verify (offset : Int)
  /-- A stretch is replaced, and the detector is told. -/
  | splice (start stop : Int) (new : Text)
  /-- A stretch is replaced behind the detector's back. -/
  | spliceUntold (start stop : Int) (new : Text)
  /-- The detector is told of an edit. -/
  | notify (position : Int)
  /-- The checkpoint is dropped. -/
  | reset
  deriving DecidableEq, Repr

/-- The answer to a question, if one was asked, and what the action leaves. -/
def step (w : Watched) : Action → Option Bool × Watched
  | .query offset =>
    let (answer, d) := w.detector.query w.text offset
    (some answer, { w with detector := d })
  | .verify offset =>
    let (answer, d) := w.detector.verify w.text offset
    (some answer, { w with detector := d })
  | .splice start stop new =>
    (none, ⟨w.text.splice start stop new, w.detector.notifyEdit start⟩)
  | .spliceUntold start stop new => (none, { w with text := w.text.splice start stop new })
  | .notify position => (none, { w with detector := w.detector.notifyEdit position })
  | .reset => (none, { w with detector := w.detector.reset })

/-- The answers of a run of actions, each with what the action left. -/
def run (w : Watched) : List Action → List (Option Bool × Watched)
  | [] => []
  | a :: as =>
    let result := w.step a
    result :: run result.2 as

end Watched

end ExerciseSheet

import ExerciseSheet.Palette.Basic

/-!
# The editing buffer

A buffer owns a text and a caret and shows every press to its palette first. What the palette lets
through is applied as in a plain text field: a key types its text or deletes, a text is inserted at
the caret. Every replacement is reported to the mode detector and then, with the whole new text, to
whoever listens for changes.
-/

namespace ExerciseSheet

/-- A text being edited. -/
structure Buffer where
  text : Text
  caret : Nat
  palette : Palette

/-- What an operation on a buffer leaves: the plan it carried out, if any, what it reported, and the
buffer. -/
structure Edited where
  plan : Option InsertionPlan
  notices : List Notice
  buffer : Buffer

namespace Buffer

/-- A buffer with the caret at the end of its text. -/
def new (catalog : Catalog) (text trigger : Text) : Buffer :=
  ⟨text, text.length, Palette.new catalog trigger (some Detector.new)⟩

/-- The text that a key types when the palette lets it through. -/
def keyText? : Key → Option Text
  | .enter => some ['\n']
  | .tab => some ['\t']
  | _ => none

/-- The buffer with a stretch of its text replaced and the edit reported; the caret is the
caller's. -/
def replace (b : Buffer) (start stop : Nat) (new : Text) : Buffer :=
  { b with text := b.text.splice start stop new, palette := b.palette.notifyEdit start }

/-- What a replacement from `start` on reports when it leaves `text`. -/
def replaceNotices (start : Nat) (text : Text) : List Notice := [.edit start, .change text]

/-- Lets the palette read its query again. -/
def refresh (b : Buffer) : Buffer := { b with palette := b.palette.textChanged b.text b.caret }

/-- Carries out a plan, after what was reported on the way to it. -/
def carryOut (b : Buffer) (plan : InsertionPlan) (notices : List Notice) : Edited :=
  let start := plan.start.toNat
  let b := b.replace start plan.stop.toNat plan.text
  ⟨some plan, notices ++ replaceNotices start b.text, { b with caret := plan.cursor.toNat }⟩

/-- Inserts a text at the caret. -/
def insert (b : Buffer) (t : Text) : Edited :=
  let caret := b.caret
  let b := b.replace caret caret t
  ⟨none, replaceNotices caret b.text, { b with caret := caret + t.length }.refresh⟩

/-- Deletes the character before the caret, if there is one. -/
def deleteBack (b : Buffer) : Edited :=
  match b.caret with
  | 0 => ⟨none, [], b.refresh⟩
  | n + 1 =>
    let b := b.replace n (n + 1) []
    ⟨none, replaceNotices n b.text, { b with caret := n }.refresh⟩

/-- Applies a press that the palette let through. -/
def applyPress (b : Buffer) (k : Press) : Edited :=
  if k.actsAs .backspace then b.deleteBack
  else match k with
    | .text t => b.insert t
    | .key k =>
      match keyText? k with
      | some t => b.insert t
      | none => ⟨none, [], b⟩

/-- Applies one press. -/
def press (b : Buffer) (k : Press) : Edited :=
  let reply := b.palette.press k b.text b.caret
  let b := { b with palette := reply.palette }
  match reply.plan with
  | some plan => b.carryOut plan reply.notices
  | none => if reply.consumed then ⟨none, reply.notices, b⟩ else b.applyPress k

/-- Types characters one by one. -/
def type (b : Buffer) : Text → Edited
  | [] => ⟨none, [], b⟩
  | c :: cs =>
    let first := b.press (.text [c])
    let rest := first.buffer.type cs
    ⟨none, first.notices ++ rest.notices, rest.buffer⟩

/-- Places the caret, as near as the text allows. -/
def moveCaret (b : Buffer) (position : Int) : Edited :=
  ⟨none, [], { b with caret := min position.toNat b.text.length }.refresh⟩

/-- Commits a row of the palette that is pointed at. -/
def select (b : Buffer) (index : Int) : Edited :=
  let reply := b.palette.select index b.text b.caret
  let b := { b with palette := reply.palette }
  match reply.plan with
  | some plan => b.carryOut plan reply.notices
  | none => ⟨none, reply.notices, b⟩

/-- Replaces the whole text, closing the palette. -/
def setText (b : Buffer) (t : Text) : Edited :=
  let b := { b with palette := b.palette.dismiss }.replace 0 b.text.length t
  ⟨none, replaceNotices 0 b.text, { b with caret := t.length }⟩

/-- Closes the palette. -/
def dismiss (b : Buffer) : Edited := ⟨none, [], { b with palette := b.palette.dismiss }⟩

/-- What a user may do. -/
inductive Action where
  | type (t : Text)
  | press (k : Press)
  | move (position : Int)
  | select (index : Int)
  | setText (t : Text)
  | dismiss
  deriving DecidableEq, Repr

/-- What an action leaves. -/
def step (b : Buffer) : Action → Edited
  | .type t => b.type t
  | .press k => b.press k
  | .move position => b.moveCaret position
  | .select index => b.select index
  | .setText t => b.setText t
  | .dismiss => b.dismiss

/-- What each action of a run leaves. -/
def run (b : Buffer) : List Action → List Edited
  | [] => []
  | a :: as =>
    let e := b.step a
    e :: run e.buffer as

end Buffer

end ExerciseSheet

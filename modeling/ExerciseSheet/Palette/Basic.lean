import ExerciseSheet.Insertion
import ExerciseSheet.MathMode.Detector
import ExerciseSheet.Palette.Session

/-!
# The slash palette

Pressing the trigger opens a session. Every change after that reads the query again between the
trigger and the caret. The session ends by a commit, by cancelling or dismissing it, or when the
text between trigger and caret is no command any more: the trigger is gone, the caret lies before
it, or a line feed or two blanks in a row were typed. A palette never refuses an event, however
little the document it is given has to do with the one before.
-/

namespace ExerciseSheet

/-- What happens on the way, in order, besides the change of state. -/
inductive Notice where
  /-- Math mode is asked for at an offset of a document. -/
  | modeQuery (document : Text) (offset : Nat)
  /-- An edit from a position on is reported to the mode detector. -/
  | edit (position : Nat)
  /-- The whole text is reported to whoever listens for changes. -/
  | change (text : Text)
  deriving DecidableEq, Repr

/-- The palette: what it offers, the trigger that opens it, the mode detector if it has one, the
open session, and why the last one ended. -/
structure Palette where
  catalog : Catalog
  trigger : Text
  detector : Option Detector
  session : Option Session
  lastClose : Option CloseReason

/-- What a palette makes of an event. -/
structure Reply where
  /-- Whether the host must not apply the key. -/
  consumed : Bool
  plan : Option InsertionPlan
  notices : List Notice
  palette : Palette

namespace Palette

/-- A closed palette. -/
def new (catalog : Catalog) (trigger : Text) (detector : Option Detector) : Palette :=
  ⟨catalog, trigger, detector, none, none⟩

/-- Whether a session is open. -/
def isOpen (p : Palette) : Bool := p.session.isSome

/-- The palette without its session, for a reason. -/
def close (p : Palette) (reason : CloseReason) : Palette :=
  { p with session := none, lastClose := some reason }

/-- The palette with a new session at the caret. -/
def openAt (p : Palette) (caret : Nat) : Palette :=
  { p with session := some ⟨caret, [], rank [] p.catalog.entries, 0⟩, lastClose := none }

/-- The palette after an edit is reported. -/
def notifyEdit (p : Palette) (position : Int) : Palette :=
  { p with detector := p.detector.map (·.notifyEdit position) }

/-- Whether an offset lies in math, and the palette after asking. Without a detector the document
is scanned from the start. -/
def queryMode (p : Palette) (document : Text) (offset : Nat) : Bool × Palette :=
  match p.detector with
  | none => (isInMath document offset, p)
  | some d =>
    let (answer, d) := d.query document offset
    (answer, { p with detector := some d })

/-- Commits an entry in place of the text from the trigger up to the caret. Math mode is asked for
only when the entry depends on it. -/
def commitEntry (p : Palette) (e : Entry) (trigger : Nat) (document : Text) (caret : Nat) :
    Reply :=
  let (inMath, asked) := if e.requiresMath then p.queryMode document trigger else (false, p)
  let plan := InsertionPlan.given inMath e document trigger caret
  { consumed := true
    plan := some plan
    notices := (if e.requiresMath then [.modeQuery document trigger] else []) ++ [.edit trigger]
    palette := (asked.close .committed).notifyEdit trigger }

/-- Commits the highlighted row of a session; without one the key is only consumed. -/
def commit (p : Palette) (s : Session) (document : Text) (caret : Nat) : Reply :=
  match s.selected? with
  | none => ⟨true, none, [], p⟩
  | some r => p.commitEntry r.entry s.trigger document caret

/-- Lets a key through. -/
def pass (p : Palette) : Reply := ⟨false, none, [], p⟩

/-- Keeps a key from the host. -/
def consume (p : Palette) : Reply := ⟨true, none, [], p⟩

/-- Reacts to a press before the host applies it. -/
def press (p : Palette) (k : Press) (document : Text) (caret : Nat) : Reply :=
  match p.session with
  | none => if k.spelling = p.trigger then (p.openAt caret).pass else p.pass
  | some s =>
    if k.actsAs .escape then (p.close .cancelled).consume
    else if k.actsAs .down then { p with session := some (s.move 1) }.consume
    else if k.actsAs .up then { p with session := some (s.move (-1)) }.consume
    else if k.commits then p.commit s document caret
    else if k.actsAs .backspace && caret ≤ s.trigger then (p.close .caretBeforeTrigger).pass
    else p.pass

/-- Why the text between a session's trigger and the caret is no command, or the query it is. -/
def readQuery (trigger : Text) (s : Session) (document : Text) (caret : Nat) :
    Except CloseReason Text :=
  if caret < s.trigger then .error .caretBeforeTrigger
  else if document[s.trigger]?.map ([·]) ≠ some trigger then .error .triggerRemoved
  else
    let query := document.slice (s.trigger + trigger.length) caret
    if query.contains '\n' then .error .newline
    else if query.hasBlankRun then .error .blankRun
    else .ok query

/-- Reads the query again after the document or the caret changed. -/
def textChanged (p : Palette) (document : Text) (caret : Nat) : Palette :=
  match p.session with
  | none => p
  | some s =>
    match readQuery p.trigger s document caret with
    | .error reason => p.close reason
    | .ok query =>
      if query = s.query then p
      else { p with session := some ⟨s.trigger, query, rank query p.catalog.entries, 0⟩ }

/-- Commits a row that is pointed at. -/
def select (p : Palette) (index : Int) (document : Text) (caret : Nat) : Reply :=
  match p.session with
  | none => p.pass
  | some s =>
    if 0 ≤ index ∧ index < s.results.length then
      p.commit { s with index := index.toNat } document caret
    else p.pass

/-- Ends the session without an edit. -/
def dismiss (p : Palette) : Palette := if p.isOpen then p.close .dismissed else p

/-- What a host may report. -/
inductive Event where
  | press (k : Press) (document : Text) (caret : Nat)
  | textChanged (document : Text) (caret : Nat)
  | select (index : Int) (document : Text) (caret : Nat)
  | dismiss
  | edit (position : Int)
  deriving DecidableEq, Repr

/-- What the palette makes of an event. -/
def step (p : Palette) : Event → Reply
  | .press k document caret => p.press k document caret
  | .textChanged document caret => (p.textChanged document caret).pass
  | .select index document caret => p.select index document caret
  | .dismiss => p.dismiss.pass
  | .edit position => (p.notifyEdit position).pass

/-- The replies to a run of events. -/
def run (p : Palette) : List Event → List Reply
  | [] => []
  | e :: es =>
    let reply := p.step e
    reply :: run reply.palette es

end Palette

end ExerciseSheet

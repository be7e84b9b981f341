import ExerciseSheet.Buffer
import ExerciseSheet.Compiler.Mode
import ExerciseSheet.Job.Debounce

/-!
# Compiling while the user types

In automatic mode every change to a document that is long enough starts the quiet period again, and
its end submits the document for compiling; a change to a shorter document drops what is pending.
In manual mode only a demand submits. A demand drops what is pending in either mode.
-/

namespace ExerciseSheet

/-- The scheduler of compiles, on a clock of times `τ`. -/
structure AutoCompiler (τ : Type) where
  /-- Only longer documents are compiled on their own. -/
  minLength : Int
  mode : CompileMode
  debouncer : Debouncer Text τ

/-- What an event leads to: the documents submitted, each with its time, a fault, and the scheduler
after it. -/
structure Scheduled (τ : Type) where
  submitted : List (τ × Text)
  fault : Option Fault
  compiler : AutoCompiler τ

namespace AutoCompiler

variable {τ : Type}

/-- A scheduler with nothing pending. -/
def new (now delay : τ) (minLength : Int) (mode : CompileMode) : AutoCompiler τ :=
  ⟨minLength, mode, .new now delay⟩

/-- Whether a compile is pending. -/
def isPending (a : AutoCompiler τ) : Bool := a.debouncer.isPending

/-- Drops what is pending. -/
def cancel (a : AutoCompiler τ) : AutoCompiler τ := { a with debouncer := a.debouncer.cancel.2 }

/-- The document has changed to `t`. -/
def notifyChange [Add τ] (a : AutoCompiler τ) (t : Text) : AutoCompiler τ :=
  if a.mode = .auto ∧ a.minLength < t.length then
    { a with debouncer := a.debouncer.trigger t }
  else a.cancel

/-- The mode is set. -/
def setMode (a : AutoCompiler τ) (mode : CompileMode) : AutoCompiler τ :=
  let a := { a with mode }
  if mode = .manual then a.cancel else a

/-- What may happen. -/
inductive Event (τ : Type) where
  | change (t : Text)
  | setMode (name : Text)
  | compileNow (t : Text)
  | advance (time : τ)
  /-- The end of the countdown at a place is noticed late. -/
  | expire (place : Nat)
  | shutdown

/-- What an event leads to. -/
def step [Add τ] [LE τ] [DecidableLE τ] (a : AutoCompiler τ) : Event τ → Scheduled τ
  | .change t => ⟨[], none, a.notifyChange t⟩
  | .setMode name =>
    match CompileMode.ofName name with
    | .ok mode => ⟨[], none, a.setMode mode⟩
    | .error f => ⟨[], some f, a⟩
  | .compileNow t => ⟨[(a.debouncer.now, t)], none, a.cancel⟩
  | .advance time =>
    let (call, debouncer) := a.debouncer.advance time
    ⟨call.toList, none, { a with debouncer }⟩
  | .expire place =>
    let (call, debouncer) := a.debouncer.expire place
    ⟨call.toList.map fun t => (debouncer.now, t), none, { a with debouncer }⟩
  | .shutdown => ⟨[], none, a.cancel⟩

/-- What each event of a run leads to. -/
def run [Add τ] [LE τ] [DecidableLE τ] (a : AutoCompiler τ) : List (Event τ) → List (Scheduled τ)
  | [] => []
  | e :: es => a.step e :: run (a.step e).compiler es

/-- What reports of a buffer lead to: each change of its text is taken up. -/
def hear [Add τ] (a : AutoCompiler τ) (notices : List Notice) : AutoCompiler τ :=
  notices.foldl (fun a n => match n with
    | .change t => a.notifyChange t
    | _ => a) a

end AutoCompiler

/-- A buffer whose changes a scheduler hears of. -/
structure LiveEditor (τ : Type) where
  buffer : Buffer
  compiler : AutoCompiler τ

namespace LiveEditor

variable {τ : Type}

/-- What may happen to a live editor. -/
inductive Event (τ : Type) where
  | edit (a : Buffer.Action)
  | schedule (e : AutoCompiler.Event τ)

/-- What an event leads to: the documents submitted, a fault, and the editor after it. -/
def step [Add τ] [LE τ] [DecidableLE τ] (w : LiveEditor τ) :
    Event τ → List (τ × Text) × Option Fault × LiveEditor τ
  | .edit a =>
    let e := w.buffer.step a
    ([], none, ⟨e.buffer, w.compiler.hear e.notices⟩)
  | .schedule e =>
    let s := w.compiler.step e
    (s.submitted, s.fault, { w with compiler := s.compiler })

end LiveEditor

end ExerciseSheet

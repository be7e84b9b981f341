import ExerciseSheet.Text.Basic

/-!
# Waiting for a quiet period

A debouncer turns a burst of triggers into one call: every trigger starts a countdown of its own and
overtakes the one before it. A countdown that ends calls only if none has been started or cancelled
since, however late its end is noticed.
-/

namespace ExerciseSheet

/-- A debouncer for calls with arguments `α` on a clock of times `τ`. -/
structure Debouncer (α τ : Type) where
  /-- The time. -/
  now : τ
  /-- How long a countdown takes. -/
  delay : τ
  /-- The arguments of every countdown that was ever started, the oldest first. -/
  started : List α
  /-- The countdown whose call is pending, by its place among those started, and its end. -/
  current : Option (Nat × τ)

namespace Debouncer

variable {α τ : Type}

/-- A debouncer that nothing has triggered yet. -/
def new (now delay : τ) : Debouncer α τ := ⟨now, delay, [], none⟩

/-- Whether a call is pending. -/
def isPending (d : Debouncer α τ) : Bool := d.current.isSome

/-- Starts a countdown for a call with `args`. -/
def trigger [Add τ] (d : Debouncer α τ) (args : α) : Debouncer α τ :=
  { d with started := d.started ++ [args], current := some (d.started.length, d.now + d.delay) }

/-- Drops the pending call, and says whether there was one. -/
def cancel (d : Debouncer α τ) : Bool × Debouncer α τ := (d.isPending, { d with current := none })

/-- The end of the countdown at `place`: the arguments of the call it makes, if it makes one. -/
def expire (d : Debouncer α τ) (place : Nat) : Option α × Debouncer α τ :=
  match d.current with
  | some (i, _) => if i = place then (d.started[i]?, d.cancel.2) else (none, d)
  | none => (none, d)

/-- Lets time pass. A countdown that ends by then makes its call at its end. -/
def advance [Add τ] [LE τ] [DecidableLE τ] (d : Debouncer α τ) (time : τ) :
    Option (τ × α) × Debouncer α τ :=
  let later := d.now + time
  match d.current with
  | some (i, ending) =>
    if ending ≤ later then
      let (call, d) := d.expire i
      (call.map fun args => (ending, args), { d with now := later })
    else (none, { d with now := later })
  | none => (none, { d with now := later })

/-- What may happen to a debouncer. -/
inductive Event (α τ : Type) where
  | trigger (args : α)
  | cancel
  | expire (place : Nat)
  | advance (time : τ)

/-- What an event leads to: the arguments of a call, if one is made, and the debouncer after it. -/
def step [Add τ] [LE τ] [DecidableLE τ] (d : Debouncer α τ) :
    Event α τ → Option α × Debouncer α τ
  | .trigger args => (none, d.trigger args)
  | .cancel => (none, d.cancel.2)
  | .expire place => d.expire place
  | .advance time =>
    let (call, d) := d.advance time
    (call.map (·.2), d)

/-- What each event of a run leads to. -/
def run [Add τ] [LE τ] [DecidableLE τ] (d : Debouncer α τ) :
    List (Event α τ) → List (Option α × Debouncer α τ)
  | [] => []
  | e :: es => d.step e :: run (d.step e).2 es

end Debouncer

end ExerciseSheet

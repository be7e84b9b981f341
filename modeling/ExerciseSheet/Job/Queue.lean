import ExerciseSheet.Number.Reading

/-!
# Jobs

Jobs wait in a queue in the order in which they came, and are known by their names: whether work of
a name is outstanding is read off the job that last took the name. Closing the queue forgets the
names; the jobs themselves may still be done.
-/

namespace ExerciseSheet

/-- A job: its name, its work and whether the work is done. -/
structure Job (κ : Type) where
  name : Text
  work : κ
  isDone : Bool
  deriving DecidableEq, Repr

/-- The jobs that were ever submitted. -/
structure JobQueue (κ : Type) where
  /-- Every job, the oldest first. -/
  jobs : List (Job κ)
  /-- The place of the job that last took each name. -/
  tracked : List (Text × Nat)
  /-- Whether jobs have been submitted since the queue was last closed. -/
  isOpen : Bool

namespace JobQueue

variable {κ : Type}

/-- No jobs. -/
def empty : JobQueue κ := ⟨[], [], false⟩

/-- Submits a job. -/
def submit (q : JobQueue κ) (name : Text) (work : κ) : JobQueue κ :=
  ⟨q.jobs ++ [⟨name, work, false⟩],
    (name, q.jobs.length) :: q.tracked.filter fun t => t.1 != name, true⟩

/-- The jobs that are not done. -/
def waiting (q : JobQueue κ) : List (Job κ) := q.jobs.filter fun t => !t.isDone

/-- The jobs with the one at `place` done. -/
def finish (q : JobQueue κ) (place : Nat) : JobQueue κ :=
  { q with jobs := q.jobs.modify place fun t => { t with isDone := true } }

/-- Whether the job that last took a name is outstanding. -/
def isRunning (q : JobQueue κ) (name : Text) : Bool :=
  match q.tracked.lookup name with
  | some place => (q.jobs[place]?.map fun t => !t.isDone).getD false
  | none => false

/-- Does the job that has waited longest. -/
def doNext (q : JobQueue κ) : Option (Job κ) × JobQueue κ :=
  match q.jobs.findIdx? fun t => !t.isDone with
  | some place => (q.jobs[place]?, q.finish place)
  | none => (none, q)

/-- Does every job that waits, in order. -/
def doAll (q : JobQueue κ) : List (Job κ) × JobQueue κ :=
  (q.waiting, { q with jobs := q.jobs.map fun t => { t with isDone := true } })

/-- Closes the queue, first doing every job that waits if `wait` says so. -/
def close (q : JobQueue κ) (wait : Bool) : List (Job κ) × JobQueue κ :=
  let (done, q) := if q.isOpen && wait then q.doAll else ([], q)
  (done, { q with tracked := [], isOpen := false })

end JobQueue

/-- A span of time in seconds, given its length in microseconds. -/
def secondsOf (microseconds : Int) : Float :=
  let digits := (naturalText microseconds.natAbs).map fun c => c.toNat - '0'.toNat
  let magnitude := nearestFloat digits (-6)
  if microseconds < 0 then -magnitude else magnitude

/-- How long a job took, in seconds, if its start and its end in microseconds are known. -/
def duration? (start stop : Option Int) : Option Float :=
  match start, stop with
  | some a, some b => some (secondsOf (b - a))
  | _, _ => none

end ExerciseSheet

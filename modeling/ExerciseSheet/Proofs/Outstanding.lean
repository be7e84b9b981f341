import ExerciseSheet.Job.Queue
import Mathlib.Data.List.Induction

/-!
# Which work is outstanding

Workers start the jobs of a queue in the order in which they came, at most one a worker at a time,
and finish them in any order (`WorkerPool.step?`). Whatever they do, a name is tracked by the last
job that took it (`JobQueue.Tracks`), so a name is told to be running exactly while that job is not
done. A single worker has finished every earlier job by then (`WorkerPool.Serial`), and so the name
is told to be running exactly while any of its jobs is outstanding; two workers may finish the last
job of a name before an earlier one, which is then forgotten (`isRunning_tells_iff`).
-/

namespace ExerciseSheet

variable {κ : Type} {name : Text} {place : Nat}

namespace JobQueue

/-- The names of the jobs. -/
def names (q : JobQueue κ) : List Text := q.jobs.map (·.name)

/-- The job at a place is the last of its name. -/
def IsLast (q : JobQueue κ) (name : Text) (place : Nat) : Prop :=
  q.names[place]? = some name ∧ ∀ later, place < later → q.names[later]? ≠ some name

/-- Every name that a job has taken is tracked by the place of its last job. -/
structure Tracks (q : JobQueue κ) : Prop where
  isLast : ∀ name place, q.tracked.lookup name = some place → q.IsLast name place
  not_mem : ∀ name, q.tracked.lookup name = none → name ∉ q.names

/-- Some job of a name is not done. -/
def HasOutstanding (q : JobQueue κ) (name : Text) : Prop :=
  ∃ job ∈ q.jobs, job.name = name ∧ job.isDone = false

/-- The last job of a name is not done. -/
def LastOutstanding (q : JobQueue κ) (name : Text) : Prop :=
  ∃ place job, q.IsLast name place ∧ q.jobs[place]? = some job ∧ job.isDone = false

variable {q : JobQueue κ} {job : Job κ}

theorem IsLast.unique {other : Nat} (h : q.IsLast name place) (h' : q.IsLast name other) :
    place = other := by
  rcases Nat.lt_trichotomy place other with hlt | heq | hlt
  · exact absurd h'.1 (h.2 other hlt)
  · exact heq
  · exact absurd h.1 (h'.2 place hlt)

theorem getElem?_names : q.names[place]? = q.jobs[place]?.map (·.name) := List.getElem?_map

theorem lookup_filter_name {other : Text} (h : other ≠ name) : ∀ tracked : List (Text × Nat),
    (tracked.filter fun t => t.1 != name).lookup other = tracked.lookup other
  | [] => rfl
  | t :: tracked => by
    rw [List.filter_cons]
    split_ifs with ht
    · rw [List.lookup_cons, List.lookup_cons, lookup_filter_name h]
    · have hne : other ≠ t.1 := fun heq => h (heq.trans (by simpa using ht))
      rw [List.lookup_cons, beq_eq_false_iff_ne.2 hne, lookup_filter_name h]

theorem lookup_tracked_submit (q : JobQueue κ) (name : Text) (work : κ) (other : Text) :
    (q.submit name work).tracked.lookup other
      = if other = name then some q.jobs.length else q.tracked.lookup other := by
  rw [submit, List.lookup_cons]
  split_ifs with h
  · rw [h, beq_self_eq_true]
  · rw [beq_eq_false_iff_ne.2 h, lookup_filter_name h]

theorem names_submit (q : JobQueue κ) (name : Text) (work : κ) :
    (q.submit name work).names = q.names ++ [name] := List.map_append

theorem length_names : q.names.length = q.jobs.length := List.length_map _

theorem Tracks.submit (h : q.Tracks) (name : Text) (work : κ) : (q.submit name work).Tracks where
  isLast other place hplace := by
    rw [lookup_tracked_submit] at hplace
    rw [IsLast, names_submit]
    split_ifs at hplace with hother
    · obtain rfl := Option.some.inj hplace
      rw [← length_names, hother]
      refine ⟨List.getElem?_concat_length, fun later hlater => ?_⟩
      rw [List.getElem?_eq_none (by rw [List.length_append]; exact hlater)]
      exact nofun
    · obtain ⟨hname, hlast⟩ := h.isLast other place hplace
      refine ⟨?_, fun later hlater hlast' => ?_⟩
      · rw [List.getElem?_append_left (List.getElem?_eq_some_iff.1 hname).1, hname]
      · rw [List.getElem?_append] at hlast'
        split_ifs at hlast'
        · exact hlast later hlater hlast'
        · exact hother (List.mem_singleton.1 (List.mem_of_getElem? hlast'))
  not_mem other hnone := by
    rw [lookup_tracked_submit] at hnone
    split_ifs at hnone with hother
    rw [names_submit, List.mem_append, List.mem_singleton, not_or]
    exact ⟨h.not_mem other hnone, hother⟩

theorem getElem?_jobs_finish (q : JobQueue κ) (place i : Nat) :
    (q.finish place).jobs[i]?
      = q.jobs[i]?.map fun t => if place = i then { t with isDone := true } else t := by
  rw [finish, List.getElem?_modify]
  rfl

theorem names_finish (q : JobQueue κ) (place : Nat) : (q.finish place).names = q.names := by
  refine List.ext_getElem? fun i => ?_
  rw [getElem?_names, getElem?_names, getElem?_jobs_finish, Option.map_map]
  congr 1
  funext t
  rw [Function.comp_apply]
  split_ifs <;> rfl

theorem Tracks.finish (h : q.Tracks) (place : Nat) : (q.finish place).Tracks where
  isLast name i hi := by
    rw [IsLast, names_finish]
    exact h.isLast name i hi
  not_mem name hnone := by
    rw [names_finish]
    exact h.not_mem name hnone

/-- A name is told to be running exactly while its last job is not done. -/
theorem Tracks.isRunning_iff (h : q.Tracks) : q.isRunning name = true ↔ q.LastOutstanding name := by
  unfold isRunning
  rcases hplace : q.tracked.lookup name with _ | place
  · refine iff_of_false Bool.false_ne_true ?_
    rintro ⟨place, job, hlast, -, -⟩
    exact h.not_mem name hplace (List.mem_of_getElem? hlast.1)
  · have hlast := h.isLast name place hplace
    constructor
    · intro hrunning
      rcases hjob : q.jobs[place]? with _ | job
      · simp [hjob] at hrunning
      · exact ⟨place, job, hlast, hjob, by simpa [hjob] using hrunning⟩
    · rintro ⟨other, job, hlast', hjob, hdone⟩
      rw [hlast.unique hlast']
      simp [hjob, hdone]

theorem LastOutstanding.hasOutstanding (h : q.LastOutstanding name) : q.HasOutstanding name := by
  obtain ⟨place, job, hlast, hjob, hdone⟩ := h
  have hname := hlast.1
  rw [getElem?_names, hjob] at hname
  exact ⟨job, List.mem_of_getElem? hjob, Option.some.inj hname, hdone⟩

end JobQueue

/-- A queue of jobs that workers serve, and how many of the jobs have been started. -/
structure WorkerPool (κ : Type) where
  queue : JobQueue κ
  started : Nat

namespace WorkerPool

/-- No jobs yet. -/
def idle : WorkerPool κ := ⟨.empty, 0⟩

/-- The jobs that workers are at. -/
def active (p : WorkerPool κ) : List (Job κ) :=
  (p.queue.jobs.take p.started).filter fun t => !t.isDone

/-- What may happen to a queue that is served. -/
inductive Event (κ : Type) where
  | submit (name : Text) (work : κ)
  | start
  | finish (place : Nat)

/-- The pool after an event, if the event may happen. A start is of the job that has waited longest
and needs a free worker; a job is finished once, and only when it has been started. -/
def step? (workers : Nat) (p : WorkerPool κ) : Event κ → Option (WorkerPool κ)
  | .submit name work => some { p with queue := p.queue.submit name work }
  | .start =>
    if p.started < p.queue.jobs.length ∧ p.active.length < workers then
      some { p with started := p.started + 1 }
    else none
  | .finish place =>
    if place < p.started ∧ (p.queue.jobs[place]?.any fun t => !t.isDone) then
      some { p with queue := p.queue.finish place }
    else none

/-- The pool after some events, if they may happen in this order. -/
def run? (workers : Nat) (p : WorkerPool κ) (es : List (Event κ)) : Option (WorkerPool κ) :=
  es.foldlM (step? workers) p

/-- Whatever happens to a queue that workers serve, a name is told to be running exactly while some
job of it is outstanding. -/
def Tells (κ : Type) (workers : Nat) : Prop :=
  ∀ es p, (idle : WorkerPool κ).run? workers es = some p →
    ∀ name, p.queue.isRunning name = true ↔ p.queue.HasOutstanding name

/-- What holds of a pool whatever has happened to it. -/
structure Inv (p : WorkerPool κ) : Prop where
  tracks : p.queue.Tracks
  started_le : p.started ≤ p.queue.jobs.length
  waiting : ∀ place job, p.started ≤ place → p.queue.jobs[place]? = some job → job.isDone = false

/-- Every job started but the last is done. -/
def Serial (p : WorkerPool κ) : Prop :=
  ∀ place job, place + 1 < p.started → p.queue.jobs[place]? = some job → job.isDone = true

variable {workers : Nat} {p p' : WorkerPool κ} {e : Event κ}

theorem run?_append_singleton (workers : Nat) (p : WorkerPool κ) (es : List (Event κ))
    (e : Event κ) :
    p.run? workers (es ++ [e]) = (p.run? workers es).bind fun p => p.step? workers e := by
  rw [run?, List.foldlM_append]
  refine congrArg _ (funext fun p => ?_)
  simp

theorem step?_cases (h : p.step? workers e = some p') :
    (∃ name work, p' = { p with queue := p.queue.submit name work })
    ∨ (p.started < p.queue.jobs.length ∧ p.active.length < workers
      ∧ p' = { p with started := p.started + 1 })
    ∨ ∃ place, place < p.started ∧ p' = { p with queue := p.queue.finish place } := by
  cases e with
  | submit name work =>
    cases h
    exact .inl ⟨name, work, rfl⟩
  | start =>
    rw [step?] at h
    split_ifs at h with hstart
    cases h
    exact .inr (.inl ⟨hstart.1, hstart.2, rfl⟩)
  | finish place =>
    rw [step?] at h
    split_ifs at h with hfinish
    cases h
    exact .inr (.inr ⟨place, hfinish.1, rfl⟩)

theorem idle_inv : (idle : WorkerPool κ).Inv where
  tracks := ⟨fun _ _ h => (nomatch h), fun _ _ => List.not_mem_nil⟩
  started_le := Nat.le_refl 0
  waiting _ _ _ h := nomatch h

theorem getElem?_jobs_submit (q : JobQueue κ) (name : Text) (work : κ)
    (hplace : place < q.jobs.length) : (q.submit name work).jobs[place]? = q.jobs[place]? :=
  List.getElem?_append_left hplace

theorem Inv.step? (h : p.Inv) (hstep : p.step? workers e = some p') : p'.Inv := by
  obtain ⟨name, work, rfl⟩ | ⟨hlt, -, rfl⟩ | ⟨place, hplace, rfl⟩ := step?_cases hstep
  · refine ⟨h.tracks.submit name work, ?_, fun i job hi hjob => ?_⟩
    · exact Nat.le_trans h.started_le (by simp [JobQueue.submit])
    · simp only [JobQueue.submit, List.getElem?_append] at hjob
      split_ifs at hjob
      · exact h.waiting i job hi hjob
      · rw [List.mem_singleton.1 (List.mem_of_getElem? hjob)]
  · exact ⟨h.tracks, hlt, fun i job hi hjob => h.waiting i job (Nat.le_of_succ_le hi) hjob⟩
  · refine ⟨h.tracks.finish place, ?_, fun i job hi hjob => ?_⟩
    · simpa [JobQueue.finish] using h.started_le
    · simp only [JobQueue.getElem?_jobs_finish] at hjob
      obtain ⟨old, hold, rfl⟩ := Option.map_eq_some_iff.1 hjob
      rw [if_neg (by simp only at hi; omega)]
      exact h.waiting i old hi hold

/-- A worker alone starts a job only when all before it are done. -/
theorem Serial.step? (h : p.Serial) (hinv : p.Inv) (hworkers : workers ≤ 1)
    (hstep : p.step? workers e = some p') : p'.Serial := by
  obtain ⟨name, work, rfl⟩ | ⟨-, hfree, rfl⟩ | ⟨place, hplace, rfl⟩ := step?_cases hstep
  · intro i job hi hjob
    have hlt : i < p.queue.jobs.length := by
      have := hinv.started_le
      simp only at hi
      omega
    exact h i job hi ((getElem?_jobs_submit p.queue name work hlt).symm.trans hjob)
  · intro i job hi hjob
    have hnone : p.active = [] := List.length_eq_zero_iff.1 (by omega)
    have hmem : job ∈ p.queue.jobs.take p.started := by
      refine List.mem_of_getElem? (i := i) ?_
      rw [List.getElem?_take_of_lt (Nat.lt_of_succ_lt_succ hi), hjob]
    simpa using List.filter_eq_nil_iff.1 hnone job hmem
  · intro i job hi hjob
    simp only [JobQueue.getElem?_jobs_finish] at hjob
    obtain ⟨old, hold, rfl⟩ := Option.map_eq_some_iff.1 hjob
    split_ifs
    · rfl
    · exact h i old hi hold

theorem inv_of_run? : ∀ {es : List (Event κ)} {p : WorkerPool κ},
    (idle : WorkerPool κ).run? workers es = some p → p.Inv ∧ (workers ≤ 1 → p.Serial) := by
  intro es
  induction es using List.reverseRecOn with
  | nil =>
    rintro p ⟨⟩
    exact ⟨idle_inv, fun _ _ _ h => absurd h (Nat.not_lt_zero _)⟩
  | append_singleton es e ih =>
    intro p' hrun
    rw [run?_append_singleton] at hrun
    obtain ⟨p, hp, hstep⟩ := Option.bind_eq_some_iff.1 hrun
    obtain ⟨hinv, hserial⟩ := ih hp
    exact ⟨hinv.step? hstep, fun hworkers => (hserial hworkers).step? hinv hworkers hstep⟩

/-- While any job of a name is outstanding, so is the last one, if jobs are done one by one. -/
theorem Serial.lastOutstanding (h : p.Serial) (hinv : p.Inv) (hout : p.queue.HasOutstanding name) :
    p.queue.LastOutstanding name := by
  obtain ⟨job, hmem, hname, hdone⟩ := hout
  obtain ⟨i, hi⟩ := List.mem_iff_getElem?.1 hmem
  have hnamed : p.queue.names[i]? = some name := by
    rw [JobQueue.getElem?_names, hi, ← hname]
    rfl
  rcases hplace : p.queue.tracked.lookup name with _ | place
  · exact absurd (List.mem_of_getElem? hnamed) (hinv.tracks.not_mem name hplace)
  · have hlast := hinv.tracks.isLast name place hplace
    have hlt := (List.getElem?_eq_some_iff.1 hlast.1).1
    rw [JobQueue.length_names] at hlt
    refine ⟨place, p.queue.jobs[place], hlast, List.getElem?_eq_getElem hlt, ?_⟩
    rcases Nat.lt_trichotomy i place with hbefore | rfl | hafter
    · -- were the last job started, this earlier one would be done
      refine hinv.waiting place _ ?_ (List.getElem?_eq_getElem hlt)
      by_contra hstarted
      rw [h i job (by omega) hi] at hdone
      cases hdone
    · rw [List.getElem?_eq_getElem hlt, Option.some.injEq] at hi
      rwa [hi]
    · exact absurd hnamed (hlast.2 i hafter)

/-- Two jobs of one name are started, and the later is finished first. -/
def overtaking (name : Text) (work : κ) : List (Event κ) :=
  [.submit name work, .submit name work, .start, .start, .finish 1]

theorem run?_overtaking (hworkers : 1 < workers) (name : Text) (work : κ) :
    (idle : WorkerPool κ).run? workers (overtaking name work)
      = some ⟨⟨[⟨name, work, false⟩, ⟨name, work, true⟩], [(name, 1)], true⟩, 2⟩ := by
  have hone : 0 < workers := Nat.zero_lt_of_lt hworkers
  simp [overtaking, run?, step?, idle, JobQueue.empty, JobQueue.submit, JobQueue.finish, active,
    hworkers, hone]

/-- A name is told to be running exactly while the last job that took it is outstanding. This tells
whether any job of the name is outstanding exactly if there is a single worker, or none. -/
theorem isRunning_tells_iff (κ : Type) [Inhabited κ] (workers : Nat) :
    (∀ es p, (idle : WorkerPool κ).run? workers es = some p →
      ∀ name, p.queue.isRunning name = true ↔ p.queue.LastOutstanding name)
    ∧ (Tells κ workers ↔ workers ≤ 1) := by
  refine ⟨fun es p hrun name => (inv_of_run? hrun).1.tracks.isRunning_iff, fun htells => ?_,
    fun hworkers es p hrun name => ?_⟩
  · by_contra hworkers
    have hrun := run?_overtaking (κ := κ) (Nat.lt_of_not_le hworkers) [] default
    have hrunning := (htells _ _ hrun []).2 ⟨⟨[], default, false⟩, List.mem_cons_self, rfl, rfl⟩
    cases hrunning
  · obtain ⟨hinv, hserial⟩ := inv_of_run? hrun
    rw [hinv.tracks.isRunning_iff]
    exact ⟨fun h => h.hasOutstanding, (hserial hworkers).lastOutstanding hinv⟩

/-- Of two jobs of a name the second is finished first, by another worker: the name is no longer
told to be running, though the first is outstanding. -/
theorem not_tells_later_done_first :
    ∃ p, (idle : WorkerPool Unit).run? 2 (overtaking ['a'] ()) = some p
      ∧ p.queue.HasOutstanding ['a'] ∧ ¬ p.queue.isRunning ['a'] = true :=
  ⟨_, rfl, ⟨⟨['a'], (), false⟩, List.mem_cons_self, rfl, rfl⟩, nofun⟩

end WorkerPool

end ExerciseSheet

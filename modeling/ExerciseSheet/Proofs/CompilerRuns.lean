import ExerciseSheet.Proofs.Exporting

/-!
# The runs of a compile

`Programs.recorded` are programs that keep the runs they make on record. A compile makes runs up to
the first that does not end well, or all that it may (`MadeUpTo`), and what the last of them says is
how they end together (`run_runPasses_recorded`). What the runs leave of a file is what was written
last (`foldl_after`). So a sheet comes out exactly of runs that all end well and of which one wrote
it; a sheet that an earlier run left behind makes no success of a failure (`compile_runs`).
-/

namespace ExerciseSheet

variable {σ : Type}

namespace Programs

/-- The programs, with what each run of a command is asked and gives on record. -/
def recorded (programs : Programs σ) : Programs (σ × List (List Text × Text × Run)) where
  isFound := programs.isFound
  ask command := fun (w, calls) =>
    let (ending, w) := programs.ask command w
    pure (ending, w, calls)
  run command document := fun (w, calls) =>
    let (r, w) := programs.run command document w
    pure (r, w, calls ++ [(command, document, r)])

/-- Programs that are all found and whose runs follow a script. -/
def scripted : Programs (List Run) where
  isFound _ := true
  ask _ := pure (.exited 0)
  run _ _ := fun
    | [] => pure (⟨none, none, .exited 0⟩, [])
    | r :: rest => pure (r, rest)

end Programs

/-- What runs wrote last of a file. -/
def lastWritten (file : Run → Option Octets) (made : List Run) : Option Octets :=
  (made.filterMap file).getLast?

theorem lastWritten_cons (file : Run → Option Octets) (r : Run) (made : List Run) :
    lastWritten file (r :: made) = (lastWritten file made).or (file r) := by
  rw [lastWritten, lastWritten, List.filterMap_cons]
  rcases file r with _ | octets
  · rw [Option.or_none]
  · rw [List.getLast?_cons]
    cases (made.filterMap file).getLast? <;> rfl

/-- Runs up to the first that does not end well, `n` at most and no fewer if all end well. -/
structure MadeUpTo (n : Nat) (made : List Run) : Prop where
  length_le : made.length ≤ n
  earlier : ∀ r ∈ made.dropLast, r.ending = .exited 0
  complete : made.length = n ∨ ∃ r ∈ made.getLast?, r.ending ≠ .exited 0

namespace MadeUpTo

variable {n : Nat} {r : Run} {made : List Run}

theorem zero : MadeUpTo 0 [] := ⟨Nat.le_refl 0, by simp, .inl rfl⟩

theorem stopped (h : r.ending ≠ .exited 0) : MadeUpTo (n + 1) [r] :=
  ⟨by simp, by simp, .inr ⟨r, by simp, h⟩⟩

theorem cons (h : r.ending = .exited 0) (hmade : MadeUpTo n made) :
    MadeUpTo (n + 1) (r :: made) where
  length_le := Nat.succ_le_succ hmade.length_le
  earlier := by
    rcases made with _ | ⟨s, made⟩
    · simp
    · rw [List.dropLast_cons_cons, List.forall_mem_cons]
      exact ⟨h, hmade.earlier⟩
  complete := by
    refine hmade.complete.imp (congrArg Nat.succ) ?_
    rintro ⟨s, hs, hne⟩
    refine ⟨s, ?_, hne⟩
    rw [Option.mem_def] at hs
    rw [List.getLast?_cons, hs]
    rfl

/-- All runs end well exactly when the last one does. -/
theorem all_iff (hmade : MadeUpTo n made) :
    (∀ r ∈ made, r.ending = .exited 0) ↔ ∀ r ∈ made.getLast?, r.ending = .exited 0 := by
  refine ⟨fun h r hr => h r (List.mem_of_mem_getLast? hr), fun h r hr => ?_⟩
  have hearlier := hmade.earlier
  rcases List.eq_nil_or_concat made with rfl | ⟨front, last, rfl⟩
  · cases hr
  · simp at h hearlier hr
    rcases hr with hr | rfl
    · exact hearlier r hr
    · exact h

end MadeUpTo

/-- After a number of runs each file is as it was written last. -/
theorem foldl_after : ∀ (made : List Run) (files : WorkFiles),
    made.foldl WorkFiles.after files
      = ⟨(lastWritten (·.pdf) made).or files.pdf, (lastWritten (·.log) made).or files.log⟩
  | [], _ => rfl
  | r :: made, files => by
    rw [List.foldl_cons, foldl_after made, lastWritten_cons, lastWritten_cons, Option.or_assoc,
      Option.or_assoc]
    simp only [WorkFiles.after, Option.orElse_eq_orElse, Option.orElse_eq_or]

namespace Compiler

variable {c : Compiler} {programs : Programs σ} {document : Text} {made : List Run} {n : Nat}

/-- What the last of some runs says about how they end together. -/
def endAfter (c : Compiler) : Option Run → PassesEnd
  | none => .finished
  | some r => match r.ending with
    | .timedOut => .failed c.timeoutMessage
    | .notStarted cause => .notStarted cause
    | .exited status => if status = 0 then .finished else .failed (c.statusMessage status)

theorem endAfter_cons {r : Run} (h : r.ending = .exited 0) (made : List Run) :
    c.endAfter (r :: made).getLast? = c.endAfter made.getLast? := by
  rcases made with _ | ⟨s, made⟩
  · simp only [List.getLast?_singleton, List.getLast?_nil, endAfter, h, if_pos]
  · rw [List.getLast?_cons_cons]

/-- A run that ends well is followed by the other runs. -/
theorem run_runPasses_of_exited {r : Run} {files : WorkFiles} {w w₁ : σ}
    (hrun : programs.run c.runCommand document w = (r, w₁)) (h : r.ending = .exited 0) :
    (c.runPasses programs document (n + 1) files).run w
      = (c.runPasses programs document n (files.after r)).run w₁ := by
  simp only [runPasses, bind, StateT.bind, StateT.run, hrun, h, if_pos]

/-- A run that does not end well is the last. -/
theorem run_runPasses_of_stopped {r : Run} {files : WorkFiles} {w w₁ : σ}
    (hrun : programs.run c.runCommand document w = (r, w₁)) (h : r.ending ≠ .exited 0) :
    (c.runPasses programs document (n + 1) files).run w
      = ((c.endAfter (some r), files.after r), w₁) := by
  simp only [runPasses, bind, StateT.bind, StateT.run, hrun, endAfter]
  rcases hend : r.ending with status | _ | cause
  · have hs : status ≠ 0 := by
      rintro rfl
      exact h hend
    simp only [if_neg hs]
    rfl
  · rfl
  · rfl

/-- The runs that a compile makes, what they leave, and how they end together. -/
theorem run_runPasses_recorded (c : Compiler) (programs : Programs σ) (document : Text) :
    ∀ (n : Nat) (files : WorkFiles) (w : σ) (before : List (List Text × Text × Run)),
      ∃ made w', MadeUpTo n made
        ∧ (c.runPasses programs document n files).run w
          = ((c.endAfter made.getLast?, made.foldl WorkFiles.after files), w')
        ∧ (c.runPasses programs.recorded document n files).run (w, before)
          = ((c.endAfter made.getLast?, made.foldl WorkFiles.after files), w',
            before ++ made.map fun r => (c.runCommand, document, r))
  | 0, files, w, before => ⟨[], w, .zero, rfl, by rw [List.map_nil, List.append_nil]; rfl⟩
  | n + 1, files, w, before => by
    rcases hrun : programs.run c.runCommand document w with ⟨r, w₁⟩
    have hrecorded : programs.recorded.run c.runCommand document (w, before)
        = (r, w₁, before ++ [(c.runCommand, document, r)]) := by
      simp only [Programs.recorded, hrun]
      rfl
    -- the other runs find this one's files and have it on record already
    by_cases hend : r.ending = .exited 0
    · obtain ⟨made, w', hmade, hrest, hrest'⟩ := run_runPasses_recorded c programs document n
        (files.after r) w₁ (before ++ [(c.runCommand, document, r)])
      refine ⟨r :: made, w', hmade.cons hend, ?_, ?_⟩
      · rw [run_runPasses_of_exited hrun hend, hrest, endAfter_cons hend, List.foldl_cons]
      · rw [run_runPasses_of_exited hrecorded hend, hrest', endAfter_cons hend, List.foldl_cons,
          List.map_cons, List.append_assoc, List.singleton_append]
    · exact ⟨[r], w₁, .stopped hend, run_runPasses_of_stopped hrun hend,
        run_runPasses_of_stopped hrecorded hend⟩

theorem endAfter_eq_finished_iff {last : Option Run} :
    c.endAfter last = .finished ↔ ∀ r ∈ last, r.ending = .exited 0 := by
  rcases last with _ | ⟨pdf, log, status | _ | reason⟩
  · simp [endAfter]
  · by_cases hs : status = 0 <;> simp [endAfter, hs]
  · simp [endAfter]
  · simp [endAfter]

theorem endAfter_eq_notStarted_iff {last : Option Run} {cause : FileFault} :
    c.endAfter last = .notStarted cause ↔ ∃ r ∈ last, r.ending = .notStarted cause := by
  rcases last with _ | ⟨pdf, log, status | _ | reason⟩
  · simp [endAfter]
  · by_cases hs : status = 0 <;> simp [endAfter, hs]
  · simp [endAfter]
  · simp [endAfter]

section Result

variable {reported : Option Text} {files : WorkFiles}

theorem failureMessage_ne_nil (log reported : Text) : failureMessage log reported ≠ [] := by
  unfold failureMessage
  split
  · exact List.cons_ne_nil _ _
  · split
    · decide
    · next h => exact fun hnil => h (List.isEmpty_iff.2 hnil)

theorem log_resultOf : (resultOf reported files).log = files.logText := by
  unfold resultOf
  split <;> rfl

theorem isSuccess_resultOf_iff :
    (resultOf reported files).isSuccess = true ↔ reported = none ∧ files.pdf.isSome = true := by
  unfold resultOf
  rcases reported with _ | message <;> rcases files.pdf with _ | pdf <;>
    simp [CompileResult.isSuccess]

theorem resultOf_of_success (h : (resultOf reported files).isSuccess = true) :
    (resultOf reported files).pdf? = files.pdf ∧ (resultOf reported files).message = [] := by
  obtain ⟨rfl, hpdf⟩ := isSuccess_resultOf_iff.1 h
  obtain ⟨pdf, hpdf⟩ := Option.isSome_iff_exists.1 hpdf
  simp only [resultOf, hpdf, CompileResult.pdf?, CompileResult.message, and_self]

theorem resultOf_of_failure (h : (resultOf reported files).isSuccess = false) :
    (resultOf reported files).pdf? = none ∧ (resultOf reported files).message ≠ [] := by
  have hne := failureMessage_ne_nil files.logText (reported.getD [])
  rcases reported with _ | message
  · rcases files with ⟨_ | pdf, log⟩
    · exact ⟨rfl, hne⟩
    · cases h
  · exact ⟨rfl, hne⟩

end Result

/-- The outcome of a compile whose runs end together in a way. -/
def outcomeOf (c : Compiler) (files : WorkFiles) : PassesEnd → Except Fault CompileResult
  | .finished => .ok (resultOf none files)
  | .failed message => .ok (resultOf (some message) files)
  | .notStarted cause => .error (.compilerNotStarted c.executable cause)

theorem run_compile {ending : PassesEnd} {files : WorkFiles} {w w' : σ}
    (hfound : programs.isFound c.executable = true)
    (hruns : (c.runPasses programs document c.passes .empty).run w = ((ending, files), w')) :
    (c.compile programs document).run.run w = (c.outcomeOf files ending, w') := by
  have hlift : ((c.runPasses programs document c.passes .empty : StateM σ _) :
      Compiling σ (PassesEnd × WorkFiles)).run.run w = (.ok (ending, files), w') := by
    change (c.runPasses programs document c.passes .empty >>= fun a => pure (Except.ok a)).run w = _
    rw [StateT.run_bind, hruns]
    rfl
  simp only [compile, isConfigured, hfound, if_pos, Compiling.run_bind_of_ok hlift]
  rcases ending <;> rfl

section Outcome

variable {files : WorkFiles} {ending : PassesEnd}

theorem outcomeOf_eq_error_iff {f : Fault} :
    c.outcomeOf files ending = .error f ↔
      ∃ cause, ending = .notStarted cause ∧ f = .compilerNotStarted c.executable cause := by
  rcases ending with _ | message | cause <;> simp [outcomeOf, eq_comm]

theorem outcomeOf_success_iff :
    (∃ result, c.outcomeOf files ending = .ok result ∧ result.isSuccess = true) ↔
      ending = .finished ∧ files.pdf.isSome = true := by
  rcases ending with _ | message | cause <;> simp [outcomeOf, isSuccess_resultOf_iff]

theorem outcomeOf_eq_ok {result : CompileResult} (h : c.outcomeOf files ending = .ok result) :
    ∃ reported, result = resultOf reported files := by
  rcases ending with _ | message | cause
  · cases h
    exact ⟨none, rfl⟩
  · cases h
    exact ⟨some message, rfl⟩
  · cases h

end Outcome

/-- A compile makes runs of its command up to the first that does not end well, or all that it may.
It fails as not started exactly when the last run is not, gives a sheet exactly when all runs end
well and one wrote it, and then the one written last and no message, and else a message but no
sheet. The log is the one written last. -/
theorem compile_runs (c : Compiler) (programs : Programs σ) (document : Text) (w : σ)
    (h : programs.isFound c.executable = true) :
    ∃ made outcome w',
      (c.compile programs document).run.run w = (outcome, w')
      ∧ (c.compile programs.recorded document).run.run (w, [])
        = (outcome, w', made.map fun r => (c.runCommand, document, r))
      ∧ MadeUpTo c.passes made
      ∧ (∀ f, outcome = .error f ↔ ∃ cause, (∃ r ∈ made.getLast?, r.ending = .notStarted cause)
        ∧ f = .compilerNotStarted c.executable cause)
      ∧ (∀ f, outcome = .error f → f.kind? = some .compiler)
      ∧ ((∃ result, outcome = .ok result ∧ result.isSuccess = true) ↔
        (∀ r ∈ made, r.ending = .exited 0) ∧ (lastWritten (·.pdf) made).isSome = true)
      ∧ ∀ result, outcome = .ok result →
        result.log = ((lastWritten (·.log) made).getD []).textLossy.unifyNewlines
        ∧ (result.isSuccess = true →
          result.pdf? = lastWritten (·.pdf) made ∧ result.message = [])
        ∧ (result.isSuccess = false → result.pdf? = none ∧ result.message ≠ []) := by
  obtain ⟨made, w', hmade, hruns, hrecorded⟩ :=
    run_runPasses_recorded c programs document c.passes .empty w []
  have hfiles : made.foldl WorkFiles.after .empty
      = ⟨lastWritten (·.pdf) made, lastWritten (·.log) made⟩ := by
    rw [foldl_after, WorkFiles.empty, Option.or_none, Option.or_none]
  rw [hfiles] at hruns hrecorded
  refine ⟨made, _, w', run_compile h hruns, run_compile h hrecorded, hmade, fun f => ?_,
    fun f hf => ?_, ?_, fun result hresult => ?_⟩
  · simp only [outcomeOf_eq_error_iff, endAfter_eq_notStarted_iff]
  · obtain ⟨cause, -, rfl⟩ := outcomeOf_eq_error_iff.1 hf
    rfl
  · rw [outcomeOf_success_iff, endAfter_eq_finished_iff, hmade.all_iff]
  · obtain ⟨reported, rfl⟩ := outcomeOf_eq_ok hresult
    exact ⟨log_resultOf, resultOf_of_success, resultOf_of_failure⟩

/-- A sheet that the first run left is not the result when the second run ends badly. -/
theorem compile_runs_of_sheet_left :
    let c : Compiler := ⟨defaultExecutable, defaultTimeout, defaultPasses⟩
    let script : List Run := [⟨some [37], none, .exited 0⟩, ⟨none, none, .exited 1⟩]
    Programs.scripted.isFound c.executable = true
      ∧ ∃ result, ((c.compile Programs.scripted []).run.run script).1 = .ok result
        ∧ result.pdf? = none ∧ result.message ≠ [] := by
  intro c script
  refine ⟨rfl, ?_⟩
  have heval : ∃ result, ((c.compile Programs.scripted []).run.run script).1 = .ok result
      ∧ result.isSuccess = false := ⟨_, rfl, rfl⟩
  obtain ⟨result, hok, hfailed⟩ := heval
  obtain ⟨made, outcome, w', hrun, -, -, -, -, -, hresult⟩ :=
    compile_runs c Programs.scripted [] script rfl
  rw [hrun] at hok
  exact ⟨result, by rw [hrun]; exact hok, (hresult result hok).2.2 hfailed⟩

end Compiler

end ExerciseSheet

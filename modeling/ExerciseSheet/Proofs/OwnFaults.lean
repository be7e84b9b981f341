import ExerciseSheet.Main
import ExerciseSheet.Proofs.Exporting

/-!
# The faults that a run reports

Of the faults that belong to the program, those of a command are reported (`runReporting_of_own`)
and one of the carrier is listed as an issue (`not_failsAsOwn_carrierTextIssues`). The settings are
loaded before either, unless an earlier run has loaded them, and their faults are the program's own
exactly when a number is malformed (`Settings.failsAsOwn_load_iff`); such a fault, and no other,
goes through to the caller. Setting up the log, which comes next, fails only as the system does
(`LogSession.not_failsAsOwn_setUp`).
-/

namespace ExerciseSheet

/-- There is no answer, for a fault of the program's own. -/
def FailsAsOwn {α : Type} (r : Except Fault α) : Prop :=
  ∃ f, r = .error f ∧ f.kind?.isSome = true

section FailsAsOwn

variable {α β : Type} {f : Fault} {a : α} {r : Except Fault α} {g : α → Except Fault β}

@[simp]
theorem failsAsOwn_error : FailsAsOwn (.error f : Except Fault α) ↔ f.kind?.isSome = true :=
  ⟨fun ⟨_, hf, hkind⟩ => Except.error.inj hf ▸ hkind, fun h => ⟨f, rfl, h⟩⟩

@[simp]
theorem not_failsAsOwn_ok : ¬ FailsAsOwn (.ok a) := fun ⟨_, hf, _⟩ => nomatch hf

@[simp]
theorem not_failsAsOwn_pure : ¬ FailsAsOwn (pure a) := not_failsAsOwn_ok

theorem failsAsOwn_bind_iff :
    FailsAsOwn (r >>= g) ↔ FailsAsOwn r ∨ ∃ a, r = .ok a ∧ FailsAsOwn (g a) := by
  rcases r with f | a
  · simp [bind, Except.bind]
  · simp [bind, Except.bind]

/-- What never fails as the program's own leaves it to what comes before. -/
theorem failsAsOwn_bind_iff_left (h : ∀ a, ¬ FailsAsOwn (g a)) :
    FailsAsOwn (r >>= g) ↔ FailsAsOwn r :=
  failsAsOwn_bind_iff.trans (or_iff_left fun ⟨a, _, hown⟩ => h a hown)

theorem not_failsAsOwn_attempt {p : FilePath} {r : Except FileFault α} :
    ¬ FailsAsOwn (p.attempt r) := by
  unfold FilePath.attempt
  split_ifs
  · simp [Fault.kind?]
  · rcases r with f | a <;> simp [Fault.kind?]

instance : (r : Except Fault α) → Decidable (FailsAsOwn r)
  | .error _ => decidable_of_iff _ failsAsOwn_error.symm
  | .ok _ => .isFalse not_failsAsOwn_ok

end FailsAsOwn

theorem LogSession.not_failsAsOwn_setUp {log : LogSession} {time : Text} {setup : LogSetup}
    {cwd : List Text} {tree : FileTree} : ¬ FailsAsOwn (log.setUp time setup cwd tree) := by
  unfold LogSession.setUp
  split
  · exact not_failsAsOwn_ok
  · rw [failsAsOwn_bind_iff_left fun _ => ?_]
    · exact not_failsAsOwn_attempt
    · rw [failsAsOwn_bind_iff_left fun _ => not_failsAsOwn_pure]
      exact not_failsAsOwn_attempt

namespace Settings

variable {s : Surroundings} {values : List (Text × Text)}

/-- A setting that has to be a number has a value that is none. -/
def Malformed (s : Surroundings) (values : List (Text × Text)) : Prop :=
  (∃ name ∈ ["COMPILE_TIMEOUT", "COMPILE_DELAY"], ∃ t,
      lookup s.environment values name = some t ∧ readReal? t = none)
    ∨ ∃ t f, lookup s.environment values "MIN_AUTOCOMPILE_LENGTH" = some t ∧ readWhole t = .error f

/-- A path setting can be followed: the home directory that it starts with, if it does, is known,
and it holds no null character. -/
def Followed (s : Surroundings) (t : Text) : Prop :=
  (FilePath.ofText t).expandHome? s.homeOf ≠ none ∧ (FilePath.ofText t).holdsNull = false

/-- The user's own home directory is known, and the path settings can be followed. -/
def Placed (s : Surroundings) (values : List (Text × Text)) : Prop :=
  s.homeOf [] ≠ none ∧ ∀ name ∈ ["LOG_PATH", "TEMPLATE_PATH"], ∀ t,
    lookup s.environment values name = some t → Followed s t

theorem not_failsAsOwn_defaultLogPath : ¬ FailsAsOwn (defaultLogPath s) := by
  unfold defaultLogPath
  rcases s.homeOf [] with _ | home <;> simp [Fault.kind?]

theorem defaultLogPath_isOk_iff : (∃ p, defaultLogPath s = .ok p) ↔ s.homeOf [] ≠ none := by
  unfold defaultLogPath
  rcases s.homeOf [] with _ | home <;> simp

theorem not_failsAsOwn_pathOf {value : Option Text} {path : FilePath} :
    ¬ FailsAsOwn (pathOf s value path) := by
  unfold pathOf
  rcases value with _ | t
  · exact not_failsAsOwn_ok
  · simp only
    split <;> split_ifs <;> simp [Fault.kind?]

theorem pathOf_isOk_iff {value : Option Text} {path : FilePath} :
    (∃ p, pathOf s value path = .ok p) ↔ ∀ t, value = some t → Followed s t := by
  unfold pathOf Followed
  rcases value with _ | t
  · simp
  · rcases h : (FilePath.ofText t).expandHome? s.homeOf with _ | p
    · simp [h]
    · cases hnull : (FilePath.ofText t).holdsNull <;> simp [h, hnull]

theorem failsAsOwn_realOf_iff {name : String} {value : Option Text} {x : Float} :
    FailsAsOwn (realOf name value x) ↔ ∃ t, value = some t ∧ readReal? t = none := by
  unfold realOf
  rcases value with _ | t
  · simp
  · rcases h : readReal? t with _ | y <;> simp [h, Fault.kind?]

theorem realOf_isOk_iff {name : String} {value : Option Text} {x : Float} :
    (∃ y, realOf name value x = .ok y) ↔ ¬ ∃ t, value = some t ∧ readReal? t = none := by
  unfold realOf
  rcases value with _ | t
  · simp
  · rcases h : readReal? t with _ | y <;> simp [h]

theorem failsAsOwn_wholeOf_iff {name : String} {value : Option Text} {n : Int} :
    FailsAsOwn (wholeOf name value n) ↔ ∃ t f, value = some t ∧ readWhole t = .error f := by
  unfold wholeOf
  rcases value with _ | t
  · simp
  · rcases h : readWhole t with f | m <;> simp [h, Fault.kind?]

/-- Values are refused for a malformed number, once the paths are known. -/
theorem failsAsOwn_ofValues_iff :
    FailsAsOwn (ofValues s values) ↔ Placed s values ∧ Malformed s values := by
  unfold ofValues
  simp only [failsAsOwn_bind_iff, not_failsAsOwn_defaultLogPath, not_failsAsOwn_pathOf, false_or,
    not_failsAsOwn_pure, and_false, exists_false, or_false, exists_and_right,
    failsAsOwn_realOf_iff, failsAsOwn_wholeOf_iff, defaultLogPath_isOk_iff, pathOf_isOk_iff,
    realOf_isOk_iff, Placed, Malformed, List.mem_cons, List.not_mem_nil, or_false, forall_eq_or_imp,
    forall_eq, exists_eq_or_imp, exists_eq_left]
  -- a later number is looked at only when the earlier ones are well formed
  simp only [or_and_left, em, true_and, or_assoc, and_assoc]

theorem not_failsAsOwn_envFile {tree : FileTree} {cwd : List Text} {path : FilePath} :
    ¬ FailsAsOwn (EnvFile.load tree cwd path) := by
  unfold EnvFile.load Octets.document
  rcases tree.find? cwd path with _ | node
  · simp
  · rcases tree.readFile cwd path with f | content
    · simp [Fault.kind?]
    · rcases hread : content.text? with _ | t <;> simp [hread, Fault.kind?]

/-- The settings are refused as the program's own exactly when a number among them is malformed and
nothing before it has failed. -/
theorem failsAsOwn_load_iff {tree : FileTree} : FailsAsOwn (load s tree) ↔
    ∃ values, EnvFile.load tree s.directory.parts (filePath s) = .ok values
      ∧ Placed s values ∧ Malformed s values := by
  unfold load
  simp only [failsAsOwn_bind_iff, not_failsAsOwn_envFile, false_or, failsAsOwn_ofValues_iff]

theorem not_failsAsOwn_carrierTextIssues {settings : Settings} {cwd : List Text} {tree : FileTree} :
    ¬ FailsAsOwn (settings.carrierTextIssues cwd tree) := by
  unfold carrierTextIssues
  split
  · simp [Fault.kind?]
  · split_ifs
    · simp
    · split
      · simp
      · split_ifs with hkind <;> simp [hkind]

end Settings

namespace Cli

variable {σ α : Type} {w : σ}

theorem run_lift {r r' : Except Fault α} (h : r = r') (w : σ) :
    (Context.lift r : Compiling σ α).run.run w = (r', w) := Compiling.run_mk_pure h w

theorem run_tryCatch (x : Compiling σ α) (h : Fault → Compiling σ α) (w : σ) :
    (tryCatch x h).run.run w = match x.run.run w with
      | (.ok a, w') => (.ok a, w')
      | (.error f, w') => (h f).run.run w' := by
  change (ExceptT.tryCatch x h).run.run w = _
  simp only [ExceptT.tryCatch, ExceptT.run_mk, StateT.run_bind]
  rcases hx : x.run.run w with ⟨f | a, w'⟩ <;> rw [show StateT.run x w = _ from hx] <;> rfl

namespace Context

variable {c : Context σ} {command : Command} {w' : σ} {f : Fault}

theorem not_failsAsOwn_runStatus (issues : List Text) :
    ¬ FailsAsOwn ((c.runStatus issues).run.run w).1 := by
  have hasked : ∃ isHealthy w',
      (liftM (c.settings.compiler.isHealthy c.programs) : Compiling σ Bool).run.run w
        = (.ok isHealthy, w') := ⟨_, _, rfl⟩
  obtain ⟨isHealthy, w', hasked⟩ := hasked
  unfold runStatus
  rw [Compiling.run_bind_of_ok hasked]
  exact not_failsAsOwn_ok

/-- A fault of the program's own ends a command as it is reported. -/
theorem runReporting_of_own (h : (c.runCommand command).run.run w = (.error f, w'))
    (hkind : f.kind?.isSome = true) :
    (c.runReporting command).run.run w = (.ok (c.reported f), w') := by
  unfold runReporting
  rw [run_tryCatch, h]
  simp only [hkind, if_true]
  rfl

theorem not_failsAsOwn_runReporting : ¬ FailsAsOwn ((c.runReporting command).run.run w).1 := by
  unfold runReporting
  rw [run_tryCatch]
  rcases (c.runCommand command).run.run w with ⟨f | o, w'⟩
  · simp only
    split_ifs with hkind
    · exact not_failsAsOwn_ok
    · exact fun h => hkind (failsAsOwn_error.1 h)
  · exact not_failsAsOwn_ok

end Context

section Run

variable {state : RunState} {s : Surroundings} {programs : Programs σ} {files : FileTree}
  {args : List Text} {i : Invocation}

theorem failsAsOwn_get_iff : FailsAsOwn (state.settings.get s files)
    ↔ state.settings.kept = none ∧ FailsAsOwn (Settings.load s files) := by
  unfold SettingsCache.get
  rcases state.settings.kept with _ | settings
  · exact (failsAsOwn_bind_iff_left fun _ => not_failsAsOwn_pure).trans (and_iff_right rfl).symm
  · simp

/-- Of what comes before a command only the loading of the settings fails as the program's own. -/
theorem failsAsOwn_prepare_iff {debug : Bool} :
    FailsAsOwn (Context.prepare state s programs files debug)
      ↔ state.settings.kept = none ∧ FailsAsOwn (Settings.load s files) := by
  rw [← failsAsOwn_get_iff]
  refine failsAsOwn_bind_iff_left fun (settings, cache) => ?_
  refine mt (failsAsOwn_bind_iff_left fun (log, files) => ?_).1 LogSession.not_failsAsOwn_setUp
  exact mt (failsAsOwn_bind_iff_left fun _ => not_failsAsOwn_pure).1
    Settings.not_failsAsOwn_carrierTextIssues

section Prepared

variable {c : Context σ} {issues : List Text}
  (h : Context.prepare state s programs files i.debug = .ok (c, issues))

include h

theorem runWith_of_prepared : (runWith state s programs files i).run.run w
    = (if i.status then c.runStatus issues
        else match i.command with
          | some command => c.runReporting command
          | none => pure (c.answer 0 usage []) : Compiling σ Output).run.run w := by
  unfold runWith
  refine (Compiling.run_bind_of_ok (run_lift h w)).trans ?_
  rcases i.command with _ | command <;> rfl

theorem not_failsAsOwn_runWith : ¬ FailsAsOwn ((runWith state s programs files i).run.run w).1 := by
  rw [runWith_of_prepared h]
  split_ifs
  · exact Context.not_failsAsOwn_runStatus _
  · rcases i.command with _ | command
    · exact not_failsAsOwn_ok
    · exact Context.not_failsAsOwn_runReporting

end Prepared

theorem failsAsOwn_runWith_iff : FailsAsOwn ((runWith state s programs files i).run.run w).1
    ↔ state.settings.kept = none ∧ FailsAsOwn (Settings.load s files) := by
  have hprepare : FailsAsOwn (Context.prepare state s programs files i.debug)
      ↔ state.settings.kept = none ∧ FailsAsOwn (Settings.load s files) := failsAsOwn_prepare_iff
  rw [← hprepare]
  rcases h : Context.prepare state s programs files i.debug with f | ⟨c, issues⟩
  · have hrun : (runWith state s programs files i).run.run w = (.error f, w) :=
      Compiling.run_bind_of_error (run_lift h w)
    rw [hrun, failsAsOwn_error, failsAsOwn_error]
  · exact iff_of_false (not_failsAsOwn_runWith h) not_failsAsOwn_ok

/-- A run lets a fault of the program's own through exactly when it has to load the settings, their
file is read, the paths are known, and a number among them is malformed. Once the settings are
loaded and reviewed and the log is set up, such a fault of a command ends the run with code one and
its message. -/
theorem run_reports_iff (hargs : Invocation.ofArguments args = .ok i) (state : RunState) (w : σ) :
    (FailsAsOwn ((run state s programs files args).run.run w).1 ↔ i.version = false
      ∧ state.settings.kept = none
      ∧ ∃ values, EnvFile.load files s.directory.parts (Settings.filePath s) = .ok values
        ∧ Settings.Placed s values ∧ Settings.Malformed s values)
    ∧ ∀ (c : Context σ) issues command f w', i.version = false → i.status = false →
      i.command = some command → Context.prepare state s programs files i.debug = .ok (c, issues) →
      (c.runCommand command).run.run w = (.error f, w') → f.kind?.isSome = true →
      ∃ out, (run state s programs files args).run.run w = (.ok out, w')
        ∧ out.code = .returned 1 ∧ out.printed = [] ∧ out.files = c.files
        ∧ out.complaints = "Error: ".toList ++ f.message ++ ['\n'] := by
  unfold run
  rw [hargs]
  constructor
  · rw [← Settings.failsAsOwn_load_iff]
    simp only
    split_ifs with hversion
    · simp only [hversion, Bool.true_eq_false, false_and, iff_false]
      exact not_failsAsOwn_ok
    · rw [failsAsOwn_runWith_iff]
      simp [hversion]
  · intro c issues command f w' hversion hstatus hcommand hprepare hrun hkind
    have hready := runWith_of_prepared (w := w) hprepare
    simp only [hversion, hstatus, hcommand, Bool.false_eq_true, if_false] at hready ⊢
    rw [hready]
    exact ⟨_, Context.runReporting_of_own hrun hkind, rfl, rfl, rfl, rfl⟩

/-- The root as working directory and home, and an environment. -/
def rooted (environment : List (Text × Text)) : Surroundings :=
  ⟨⟨['/'], []⟩, fun _ => some ⟨['/'], []⟩, environment, ⟨['/'], [['c']]⟩, 1000, []⟩

theorem run_reports_of_unset :
    Invocation.ofArguments ["--status".toList] = .ok ⟨false, true, false, none⟩
      ∧ ¬ FailsAsOwn
        ((run .new (rooted []) Host.programs ⟨[], []⟩ ["--status".toList]).run.run ()).1 := by
  have hargs : Invocation.ofArguments ["--status".toList] = .ok ⟨false, true, false, none⟩ := by
    decide +kernel
  refine ⟨hargs, ?_⟩
  rw [(run_reports_iff hargs .new ()).1]
  rintro ⟨-, -, values, hvalues, -, hmalformed⟩
  have hnone : EnvFile.load ⟨[], []⟩ (rooted []).directory.parts (Settings.filePath (rooted []))
      = .ok [] := by decide +kernel
  obtain rfl : [] = values := Except.ok.inj (hnone.symm.trans hvalues)
  rcases hmalformed with ⟨name, -, t, ht, -⟩ | ⟨t, f, ht, -⟩ <;> cases ht

/-- A timeout that is no number goes through to the caller, whatever the command. -/
theorem run_fails_of_malformed_timeout :
    FailsAsOwn ((run .new (rooted [(Settings.keyOf "COMPILE_TIMEOUT", ['x'])]) Host.programs
      ⟨[], []⟩ ["catalog".toList]).run.run ()).1 := by
  decide +kernel

end Run

end Cli

end ExerciseSheet

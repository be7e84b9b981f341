import ExerciseSheet.Compiler.Log
import ExerciseSheet.Fault
import ExerciseSheet.Number.Decimal

/-!
# Compiling a document

The compiler runs a number of times over a document so that references settle, and stops at the
first run that does not end well. A document that does not compile is a result like any other; only
a compiler that is missing or cannot be started is a fault. What the runs leave behind stays from
one to the next. The document lies ready before the first run: that it cannot be put there is left
out.
-/

namespace ExerciseSheet

/-- How a run ends. -/
inductive RunEnd where
  | exited (status : Int)
  | timedOut
  | notStarted (cause : FileFault)
  deriving DecidableEq, Repr

/-- One run: the printed sheet and the log it writes, if it writes them, and how it ends. -/
structure Run where
  pdf : Option Octets
  log : Option Octets
  ending : RunEnd
  deriving Repr

/-- What a compile leaves in its working directory. -/
structure WorkFiles where
  pdf : Option Octets
  log : Option Octets
  deriving Repr

namespace WorkFiles

/-- The empty working directory. -/
def empty : WorkFiles := ⟨none, none⟩

/-- The files after a run. -/
def after (w : WorkFiles) (r : Run) : WorkFiles := ⟨r.pdf <|> w.pdf, r.log <|> w.log⟩

/-- The text of the log, empty when there is none. -/
def logText (w : WorkFiles) : Text := ((w.log.getD []).textLossy).unifyNewlines

end WorkFiles

/-- What programs the system has and what they do, in a state of the world `σ`. -/
structure Programs (σ : Type) where
  /-- Whether a program is found. -/
  isFound : Text → Bool
  /-- Runs a command on no document. -/
  ask : List Text → StateM σ RunEnd
  /-- Runs a command in a directory with the document. -/
  run : List Text → Text → StateM σ Run

/-- The outcome of a compile. -/
inductive CompileResult where
  | produced (pdf : Octets) (log : Text)
  | failed (message log : Text)
  deriving DecidableEq, Repr

namespace CompileResult

/-- Whether a sheet came out. -/
def isSuccess : CompileResult → Bool
  | produced .. => true
  | failed .. => false

/-- The message of a failure, empty for a success. -/
def message : CompileResult → Text
  | produced .. => []
  | failed m _ => m

/-- The log of the compile. -/
def log : CompileResult → Text
  | produced _ l => l
  | failed _ l => l

/-- The printed sheet of a success. -/
def pdf? : CompileResult → Option Octets
  | produced p _ => some p
  | failed .. => none

end CompileResult

/-- A computation on the state of the world that may fail, whose effects stay when it does. -/
abbrev Compiling (σ α : Type) := ExceptT Fault (StateM σ) α

/-- The compiler: its program, how long a run may take, and how often it runs. -/
structure Compiler where
  executable : Text
  timeout : Amount
  passes : Nat

namespace Compiler

/-- How often a document is compiled. -/
def defaultPasses : Nat := 2

/-- The compiler's usual program. -/
def defaultExecutable : Text := "pdflatex".toList

/-- How many seconds a run may take. -/
def defaultTimeout : Amount := .real 30

/-- The command that asks the compiler for its version. -/
def versionCommand (c : Compiler) : List Text := [c.executable, "--version".toList]

/-- The command of a run. -/
def runCommand (c : Compiler) : List Text :=
  [c.executable, "-interaction=nonstopmode".toList, "document.tex".toList]

/-- What a run that does not end well is reported as. -/
def timeoutMessage (c : Compiler) : Text :=
  "Compilation timed out after ".toList ++ c.timeout.brief ++ ['s']

/-- What a run that ends with a status other than zero is reported as. -/
def statusMessage (c : Compiler) (status : Int) : Text :=
  c.executable ++ " exited with status ".toList ++ wholeText status

/-- How the runs together end: well, with a failure, or not started. -/
inductive PassesEnd where
  | finished
  | failed (message : Text)
  | notStarted (cause : FileFault)

/-- Makes `n` runs, or as many as it takes to one that does not end well. -/
def runPasses {σ : Type} (c : Compiler) (programs : Programs σ) (document : Text) :
    (n : Nat) → WorkFiles → StateM σ (PassesEnd × WorkFiles)
  | 0, w => pure (.finished, w)
  | n + 1, w => do
    let r ← programs.run c.runCommand document
    match r.ending with
    | .timedOut => pure (.failed c.timeoutMessage, w.after r)
    | .notStarted cause => pure (.notStarted cause, w.after r)
    | .exited status =>
      if status = 0 then runPasses c programs document n (w.after r)
      else pure (.failed (c.statusMessage status), w.after r)

/-- What is reported when neither the log nor a run says what is wrong. -/
def plainFailure : Text := "Compilation failed".toList

/-- What is reported of a failure: the first error in the log, else what the runs report. -/
def failureMessage (log : Text) (reported : Text) : Text :=
  match CompilerLog.firstError? log with
  | some (c :: error) => c :: error
  | _ => if reported.isEmpty then plainFailure else reported

/-- The result of runs that ended with `reported`, or with nothing to report. -/
def resultOf (reported : Option Text) (w : WorkFiles) : CompileResult :=
  match reported, w.pdf with
  | none, some pdf => .produced pdf w.logText
  | _, _ => .failed (failureMessage w.logText (reported.getD [])) w.logText

/-- Whether the compiler is installed. -/
def isConfigured {σ : Type} (c : Compiler) (programs : Programs σ) : Bool :=
  programs.isFound c.executable

/-- Whether the compiler is installed and tells its version. -/
def isHealthy {σ : Type} (c : Compiler) (programs : Programs σ) : StateM σ Bool :=
  if c.isConfigured programs then do
    return (← programs.ask c.versionCommand) == .exited 0
  else
    pure false

/-- Compiles a document. -/
def compile {σ : Type} (c : Compiler) (programs : Programs σ) (document : Text) :
    Compiling σ CompileResult := do
  unless c.isConfigured programs do throw .compilerMissing
  let (ending, w) ← (c.runPasses programs document c.passes .empty : StateM σ _)
  match ending with
  | .finished => return resultOf none w
  | .failed message => return resultOf (some message) w
  | .notStarted cause => throw (.compilerNotStarted c.executable cause)

end Compiler

end ExerciseSheet

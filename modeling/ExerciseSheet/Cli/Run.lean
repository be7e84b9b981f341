import ExerciseSheet.Catalog.Reading
import ExerciseSheet.Catalog.Shipped
import ExerciseSheet.Cli.Command
import ExerciseSheet.Export
import ExerciseSheet.Log.Session
import ExerciseSheet.Ranking
import ExerciseSheet.Settings.Review

/-!
# Running a command line

Before anything else but the version is looked at, a run reads the settings, sets up the log, and
reviews the settings. The faults that belong to the program are reported and end a command with code
one; those of the system pass through, as do faults in the settings and in setting up the log. Of
the records in the log only those of the run itself are kept, none of what its parts note down.
-/

namespace ExerciseSheet

/-- How a run ends: with a code of its own, or turned away for its arguments. -/
inductive ExitCode where
  | returned (code : Nat)
  | turnedAway (code : Nat)
  deriving DecidableEq, Repr

/-- What stays from one run to the next: the settings once they are loaded, and the log. -/
structure RunState where
  settings : SettingsCache
  log : LogSession

/-- Nothing loaded and nothing logged. -/
def RunState.new : RunState := ⟨.empty, .new⟩

/-- What a run leaves: its code, what it printed, the files, and what stays. What the log shows on
the console is not among what is printed. -/
structure Output where
  code : ExitCode
  printed : Text
  complaints : Text
  files : FileTree
  state : RunState

namespace Cli

/-- The version of the program. -/
def version : Text := "0.1.0".toList

/-- How the program is called. -/
def usage : Text := Text.ofLines [
  "usage: sheetwright [-h] [--version] [--status] [--debug] [command] ...",
  "",
  "commands:",
  "  compile file [-o OUTPUT] [--number NUMBER] [--review]",
  "  split file [-o OUTPUT_DIR] [--numbers NUMBERS ...] [--review]",
  "  starter mode [--number NUMBER] [--title TITLE]",
  "  catalog [query] [--catalog CATALOG]",
  ""]

/-- What a command runs with. -/
structure Context (σ : Type) where
  surroundings : Surroundings
  programs : Programs σ
  settings : Settings
  files : FileTree
  state : RunState

namespace Context

variable {σ : Type}

/-- The working directory. -/
def directory (c : Context σ) : List Text := c.surroundings.directory.parts

/-- An effect that may fail. -/
def lift {α : Type} (r : Except Fault α) : Compiling σ α := ExceptT.mk (pure r)

/-- A file operation on a path, whose refusal is a fault. -/
def fileResult {α : Type} (p : FilePath) (r : Except FileFault α) : Compiling σ α :=
  lift (p.attempt r)

/-- The document in a file. -/
def document (c : Context σ) (path : FilePath) : Compiling σ Text := do
  let content ← fileResult path (c.files.readFile c.directory path)
  lift content.document

/-- The carrier that the settings name. -/
def carrier (c : Context σ) : Compiling σ Text :=
  lift (Carrier.load c.files c.directory c.settings.templatePath)

/-- Compiles a document. -/
def compile (c : Context σ) (document : Text) : Compiling σ CompileResult :=
  c.settings.compiler.compile c.programs document

/-- Whether sheets are in review mode. -/
def isReview (c : Context σ) (asked : Bool) : Bool :=
  asked || c.settings.documentMode == SheetMode.review.name

/-- What a command returns without having changed a file. -/
def answer (c : Context σ) (code : Nat) (printed complaints : Text) : Output :=
  ⟨.returned code, printed, complaints, c.files, c.state⟩

/-- The path that a whole sheet is printed to unless one is given: beside its file. -/
def besideFile (file : FilePath) (number : Text) : Except Fault FilePath :=
  let name := sheetFileName number
  if name.contains '/' then .error (.invalidName name) else .ok (file.withName name)

/-- Compiles a sheet as a whole. -/
def runCompile (c : Context σ) (file : Text) (output : Option Text) (number : Text)
    (review : Bool) : Compiling σ Output := do
  let path := FilePath.ofText file
  let content ← c.document path
  let carrier ← c.carrier
  match ← compileSheet c.compile content carrier (.text number) (c.isReview review) with
  | .failed message _ =>
    return c.answer 1 [] ("Compilation failed: ".toList ++ message ++ ['\n'])
  | .produced pdf _ =>
    let target ← match output with
      | some o => pure (FilePath.ofText o)
      | none => lift (besideFile path number)
    let files ← fileResult target (c.files.writeFile c.directory target pdf)
    return ⟨.returned 0, target.text ++ ['\n'], [], files, c.state⟩

/-- Puts one exercise's outcome after those before it. -/
def putExport (c : Context σ) (target : FilePath) (before : Output) (e : SegmentExport) :
    Compiling σ Output :=
  match e.result with
  | .failed message _ =>
    return { before with
      code := .returned 1
      complaints := before.complaints ++ "Exercise ".toList ++ e.segment.label ++ ": ".toList
        ++ message ++ ['\n'] }
  | .produced pdf _ => do
    let path := target.child e.segment.fileName
    let files ← fileResult path (before.files.writeFile c.directory path pdf)
    return { before with printed := before.printed ++ path.text ++ ['\n'], files }

/-- Compiles each exercise on its own. -/
def runSplit (c : Context σ) (file : Text) (output : Option Text) (numbers : Option (List Int))
    (review : Bool) : Compiling σ Output := do
  let content ← c.document (FilePath.ofText file)
  let carrier ← c.carrier
  let exports ← exportSegments c.compile .exercise content carrier numbers (c.isReview review)
  let target := match output with
    | some o => FilePath.ofText o
    | none => c.surroundings.directory
  let files ← fileResult target (c.files.makeDirectories c.directory target)
  exports.foldlM (c.putExport target) ⟨.returned 0, [], [], files, c.state⟩

/-- A snippet in a list: its score, symbol, label and description. -/
def rowOf (r : Ranked) : Text :=
  Text.padLeft ' ' 3 (naturalText r.score) ++ "  ".toList ++ Text.padRight ' ' 3 r.entry.symbol
    ++ ' ' :: Text.padRight ' ' 22 r.entry.label ++ ' ' :: r.entry.description ++ ['\n']

/-- Lists the snippets that match a query. What is listed of a catalog without entries of its own is
left open: the run then ends with a fault that is not the program's. -/
def runCatalog (c : Context σ) (query : Text) (file : Option Text) : Compiling σ Output := do
  let catalog ← match file with
    | some f => lift (Catalog.load c.surroundings.depth c.files c.directory (FilePath.ofText f))
    | none => pure (some Catalog.shipped)
  match catalog with
  | some catalog => return c.answer 0 ((rank query catalog.entries).flatMap rowOf) []
  | none => throw .notCharacters

/-- Prints a starter. -/
def runStarter (c : Context σ) (mode : Text) (number : Int) (title : Text) :
    Compiling σ Output := do
  let values := [("exercise_number".toList, Json.whole number), ("title".toList, Json.text title)]
  return c.answer 0 (← lift (Starter.renderNamed mode values)) []

/-- Runs a command. -/
def runCommand (c : Context σ) : Command → Compiling σ Output
  | .compile file output number review => c.runCompile file output number review
  | .split file output numbers review => c.runSplit file output numbers review
  | .starter mode number title => c.runStarter mode number title
  | .catalog query file => c.runCatalog query file

/-- The log after a message of the run itself. -/
def note (time : Text) (log : LogSession) (level : Int) (message : Text) : LogSession :=
  log.emit time ⟨loggerName "main".toList, level, message, none⟩

/-- The log after the issues of the settings. -/
def noteIssues (time : Text) (log : LogSession) (issues : List Text) : LogSession :=
  issues.foldl (fun log i =>
    if "CRITICAL:".toList.isPrefixOf i then
      note time log LogLevel.error ("Configuration: ".toList ++ i)
    else note time log LogLevel.warning ("Configuration issue: ".toList ++ i)) log

/-- What a run leaves after a fault that is reported. -/
def reported (c : Context σ) (f : Fault) : Output :=
  { c.answer 1 [] ("Error: ".toList ++ f.message ++ ['\n']) with
    state.log := note c.surroundings.time c.state.log LogLevel.error f.message }

/-- Runs a command; a fault of the program's own is reported. -/
def runReporting (c : Context σ) (command : Command) : Compiling σ Output :=
  tryCatch (c.runCommand command) fun f =>
    if f.kind?.isSome then return c.reported f else throw f

/-- What a command runs with, and what is wrong with the settings, once they are read and the log is
set up. -/
def prepare (state : RunState) (s : Surroundings) (programs : Programs σ) (files : FileTree)
    (debug : Bool) : Except Fault (Context σ × List Text) := do
  let (settings, cache) ← state.settings.get s files
  let level := if debug || settings.debug then LogLevel.debug else LogLevel.warning
  let setup : LogSetup := ⟨settings.logPath, level, LogLevel.debug⟩
  let (log, files) ← state.log.setUp s.time setup s.directory.parts files
  let (issues, files) := settings.review programs.isFound s.directory.parts files
  let issues := issues ++ (← settings.carrierTextIssues s.directory.parts files)
  return (⟨s, programs, settings, files, cache, noteIssues s.time log issues⟩, issues)

/-- What the status says of the issues. -/
def issueText (issues : List Text) : Text :=
  if issues.isEmpty then []
  else "\nConfiguration issues (".toList ++ naturalText issues.length ++ "):\n".toList
    ++ issues.flatMap fun i => "  ! ".toList ++ i ++ ['\n']

/-- Tells whether all is ready. -/
def runStatus (c : Context σ) (issues : List Text) : Compiling σ Output := do
  let isHealthy ← (c.settings.compiler.isHealthy c.programs : StateM σ Bool)
  let s := c.settings
  return c.answer 0 ("\nSheetwright v".toList ++ version ++ " - Readiness\n\n".toList
    ++ "  Template:  ".toList ++ s.templatePath.text
    ++ "\n  Compiler:  ".toList ++ s.executable ++ " (".toList
    ++ (if isHealthy then "ok" else "unavailable").toList
    ++ ")\n  Modes:     compile=".toList ++ s.compileMode ++ " document=".toList ++ s.documentMode
    ++ ['\n'] ++ issueText issues ++ ['\n']) []

end Context

variable {σ : Type}

/-- Runs what a command line asks for. -/
def runWith (state : RunState) (s : Surroundings) (programs : Programs σ) (files : FileTree)
    (i : Invocation) : Compiling σ Output := do
  let (c, issues) ← Context.lift (Context.prepare state s programs files i.debug)
  if i.status then c.runStatus issues
  else match i.command with
    | some command => c.runReporting command
    | none => return c.answer 0 usage []

/-- Runs a command line. -/
def run (state : RunState) (s : Surroundings) (programs : Programs σ) (files : FileTree)
    (args : List Text) : Compiling σ Output :=
  match Invocation.ofArguments args with
  | .error .help => return ⟨.turnedAway 0, usage, [], files, state⟩
  | .error .misuse => return ⟨.turnedAway 2, [], usage, files, state⟩
  | .ok i =>
    if i.version then
      return ⟨.returned 0, "Sheetwright v".toList ++ version ++ ['\n'], [], files, state⟩
    else runWith state s programs files i

end Cli

end ExerciseSheet

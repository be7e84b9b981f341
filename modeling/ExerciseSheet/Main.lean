import ExerciseSheet.Carrier.Shipped
import ExerciseSheet.Cli.Run

/-!
# The program

The program takes the environment and the files that the arguments may name from the system, runs
the command line, and puts the files that changed back. It starts no other program, so the compiler
counts as missing, and finds out what it may not write to only when it puts a file back.
-/

namespace ExerciseSheet

namespace Host

/-- No program is found. -/
def programs : Programs Unit where
  isFound _ := false
  ask _ := pure (.notStarted ⟨.absent, none⟩)
  run _ _ := pure ⟨none, none, .notStarted ⟨.absent, none⟩⟩

/-- The settings that the environment gives. -/
def environment : IO (List (Text × Text)) :=
  let names := ["LOG_PATH", "TEMPLATE_PATH", "PDFLATEX", "COMPILE_TIMEOUT", "COMPILE_DELAY",
    "MIN_AUTOCOMPILE_LENGTH", "COMPILE_MODE", "DOCUMENT_MODE", "TRIGGER_CHAR", "DEBUG"]
  (names.map Settings.keyOf).filterMapM fun name => do
    return (← IO.getEnv (String.ofList name)).map fun value => (name, value.toList)

/-- Where the program runs; the carrier lies beside the program. -/
def surroundings : IO Surroundings := do
  let directory ← IO.currentDir
  let program ← IO.appPath
  let home ← IO.getEnv "HOME"
  return {
    directory := .ofText directory.toString.toList
    homeOf := fun user =>
      if user.isEmpty then home.map fun path => .ofText path.toList else none
    environment := ← environment
    carrier := ["templates", "latex", "sheet.tex"].foldl (fun p part => p.child part.toList)
      (FilePath.ofText program.toString.toList).parent
    depth := 1000
    time := naturalText (← IO.monoMsNow) }

/-- The text of a place. -/
def pathText (place : List Text) : String := String.ofList (FilePath.text ⟨['/'], place⟩)

/-- What the disk has at a place. -/
def nodeAt (place : List Text) : IO (Option FileNode) := do
  if ← (System.mkFilePath [pathText place]).isDir then return some .directory
  match ← (IO.FS.readBinFile (pathText place)).toBaseIO with
  | .ok content => return some (.file content.toList)
  | .error _ => return none

/-- The tree with what the disk has at a path and above it. -/
def gather (directory : FilePath) (tree : FileTree) (path : FilePath) : IO FileTree :=
  let place := (path.absolute directory).parts
  (List.range place.length).foldlM (fun tree n => do
    let place := place.take (n + 1)
    return ((← nodeAt place).map (tree.put place)).getD tree) tree

/-- The paths that an argument may name: all of it, or what follows its option. -/
def pathsOf (argument : Text) : List FilePath :=
  let values := [argument, argument.drop 2] ++ ((Text.cutAt? ['='] argument).map (·.2)).toList
  values.map FilePath.ofText

/-- The files that a run may need. -/
def files (s : Surroundings) (arguments : List Text) : IO FileTree := do
  let tree ← (s.directory :: Settings.filePath s :: s.carrier :: arguments.flatMap pathsOf).foldlM
    (gather s.directory) ⟨[], []⟩
  let tree ← match Settings.load s tree with
    | .ok settings =>
      let log : LogSetup := ⟨settings.logPath, LogLevel.warning, LogLevel.debug⟩
      [log.file, settings.templatePath].foldlM (gather s.directory) tree
    | .error _ => pure tree
  if tree.isFile s.directory.parts s.carrier then return tree
  else return tree.putFile s.carrier.parts (Text.utf8 Carrier.shipped)

/-- Puts what a run changed on the disk. -/
def keep (before after : FileTree) : IO Unit :=
  after.nodes.forM fun (place, node) => do
    if before.node? place == some node then return
    match node with
    | .directory => IO.FS.createDirAll (pathText place)
    | .file content => IO.FS.writeBinFile (pathText place) ⟨content.toArray⟩

/-- Puts what a run logged at the end of the log's file. -/
def keepLog (log : LogSession) : IO Unit :=
  log.setup.forM fun setup => do
    let file ← IO.FS.Handle.mk (String.ofList setup.file.text) .append
    file.putStr (String.ofList log.file)

end Host

end ExerciseSheet

open ExerciseSheet in
/-- Runs the command line. -/
def main (arguments : List String) : IO UInt32 := do
  let arguments := arguments.map String.toList
  let s ← Host.surroundings
  let tree ← Host.files s arguments
  let (result, _) := (Cli.run .new s Host.programs tree arguments).run.run ()
  match result with
  | .error f =>
    (← IO.getStderr).putStrLn (String.ofList f.message)
    return 1
  | .ok o =>
    Host.keep tree o.files
    Host.keepLog o.state.log
    (← IO.getStderr).putStr (String.ofList o.state.log.console)
    (← IO.getStdout).putStr (String.ofList o.printed)
    (← IO.getStderr).putStr (String.ofList o.complaints)
    match o.code with
    | .returned code | .turnedAway code => return UInt32.ofNat code

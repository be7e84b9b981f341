import ExerciseSheet.Cli.Arguments
import ExerciseSheet.Starter

/-!
# What a command line asks for

Beside its own flags a command line may name a command with arguments of its own.
-/

namespace ExerciseSheet

/-- A command. -/
inductive Command where
  /-- Compile a sheet as a whole. -/
  | compile (file : Text) (output : Option Text) (number : Text) (review : Bool)
  /-- Compile each exercise on its own. -/
  | split (file : Text) (output : Option Text) (numbers : Option (List Int)) (review : Bool)
  /-- Print a starter. -/
  | starter (mode : Text) (number : Int) (title : Text)
  /-- List the snippets of a catalog that match a query. -/
  | catalog (query : Text) (file : Option Text)
  deriving DecidableEq, Repr

/-- What a command line asks for. -/
structure Invocation where
  version : Bool
  status : Bool
  debug : Bool
  command : Option Command
  deriving DecidableEq, Repr

namespace Command

/-- The option that asks for help. -/
def helpRule : OptionRule := ⟨["-h".toList, "--help".toList], .flag, fun _ => true⟩

/-- A flag. -/
def flagRule (name : String) : OptionRule := ⟨[name.toList], .flag, fun _ => true⟩

/-- An option with any value. -/
def textRule (names : List String) : OptionRule := ⟨names.map String.toList, .value, fun _ => true⟩

/-- Whether a text is a whole number. -/
def isWhole (t : Text) : Bool := (readWhole t).isOk

/-- The whole number that a text gives. -/
def wholeOf (t : Text) : Int := (readWhole t).toOption.getD 0

/-- The arguments of a command for a file. -/
def fileGrammar (own : List OptionRule) : Grammar :=
  ⟨helpRule :: own ++ [flagRule "--review"], .one, fun _ => true⟩

/-- The file that a command is for. -/
def fileOf (u : Understood) : Text := (u.positional.bind (·.head?)).getD []

/-- What the arguments of `compile` mean. -/
def compileOf (args : List Text) : Except Stop (Command × List Text) := do
  let u ← (fileGrammar [textRule ["-o", "--output"], textRule ["--number"]]).understand args
  return (.compile (fileOf u) (u.value? "--output") ((u.value? "--number").getD ['1'])
    (u.has "--review"), u.extras)

/-- What the arguments of `split` mean. -/
def splitOf (args : List Text) : Except Stop (Command × List Text) := do
  let numbers : OptionRule := ⟨["--numbers".toList], .values, isWhole⟩
  let u ← (fileGrammar [textRule ["-o", "--output-dir"], numbers]).understand args
  return (.split (fileOf u) (u.value? "--output-dir")
    ((u.values? "--numbers").map fun ns => ns.map wholeOf) (u.has "--review"), u.extras)

/-- What the arguments of `starter` mean. -/
def starterOf (args : List Text) : Except Stop (Command × List Text) := do
  let number : OptionRule := ⟨["--number".toList], .value, isWhole⟩
  let g : Grammar := ⟨[helpRule, number, textRule ["--title"]], .one,
    fun m => SheetMode.all.any fun mode => mode.name == m⟩
  let u ← g.understand args
  return (.starter (fileOf u) (((u.value? "--number").map wholeOf).getD 1)
    ((u.value? "--title").getD Starter.defaultTitle), u.extras)

/-- What the arguments of `catalog` mean. -/
def catalogOf (args : List Text) : Except Stop (Command × List Text) := do
  let g : Grammar := ⟨[helpRule, textRule ["--catalog"]], .optional, fun _ => true⟩
  let u ← g.understand args
  return (.catalog (fileOf u) (u.value? "--catalog"), u.extras)

/-- The commands by name. -/
def all : List (Text × (List Text → Except Stop (Command × List Text))) :=
  [("compile".toList, compileOf), ("split".toList, splitOf), ("starter".toList, starterOf),
    ("catalog".toList, catalogOf)]

end Command

namespace Invocation

/-- The arguments before a command. -/
def grammar : Grammar :=
  ⟨Command.helpRule :: ["--version", "--status", "--debug"].map Command.flagRule, .rest,
    fun name => Command.all.any fun c => c.1 == name⟩

/-- What a command line asks for. -/
def ofArguments (args : List Text) : Except Stop Invocation := do
  let u ← grammar.understand args
  let (command, extras) ← match u.positional with
    | some (name :: own) =>
      match Command.all.lookup name with
      | some read => do
        let (c, extras) ← read own
        pure (some c, extras)
      | none => throw .misuse
    | _ => pure (none, [])
  unless (u.extras ++ extras).isEmpty do throw .misuse
  return ⟨u.has "--version", u.has "--status", u.has "--debug", command⟩

end Invocation

end ExerciseSheet

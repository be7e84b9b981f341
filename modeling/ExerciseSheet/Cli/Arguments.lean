import ExerciseSheet.Number.Whole

/-!
# Command-line arguments

A grammar has options and a place for positional arguments. An option may be shortened as long as it
stays the only one meant, its value may be attached behind an equals sign or, for a single letter,
without one, and flags of single letters may be joined. Two dashes end the options. A negative
number and an argument with a blank in it are no options. What fits nowhere is left over.
-/

namespace ExerciseSheet

/-- How many values an option takes. -/
inductive Arity where
  | flag
  | value
  | values
  deriving DecidableEq, Repr

/-- An option: its names, the last of which it is known by, and the values it accepts. -/
structure OptionRule where
  names : List Text
  arity : Arity
  accepts : Text → Bool

/-- The name that an option is known by. -/
def OptionRule.key (r : OptionRule) : Text := r.names.getLastD []

/-- What the positional arguments are: one, one or none, or one with all that follows it. -/
inductive Positional where
  | one
  | optional
  | rest
  deriving DecidableEq, Repr

/-- The arguments that a command understands. -/
structure Grammar where
  options : List OptionRule
  positional : Positional
  /-- Whether the first positional argument is accepted. -/
  accepts : Text → Bool

/-- Why arguments lead nowhere: they ask for help, or they are wrong. -/
inductive Stop where
  | help
  | misuse
  deriving DecidableEq, Repr

/-- A value attached to an option, with or without an equals sign. -/
structure Attached where
  behindSign : Bool
  value : Text

/-- What an argument looks like. -/
inductive Shape where
  | option (rule : OptionRule) (isShort : Bool) (attached : Option Attached)
  | unknown
  | plain
  | separator

namespace Shape

/-- Whether an argument looks like an option. -/
def isOption : Shape → Bool
  | option .. | unknown => true
  | plain | separator => false

/-- Whether an argument is plain. -/
def isPlain : Shape → Bool
  | plain => true
  | _ => false

/-- Whether an argument ends the options. -/
def isSeparator : Shape → Bool
  | separator => true
  | _ => false

end Shape

/-- Whether an option's name is a dash and a letter. -/
def isShortName (name : Text) : Bool := name.drop 1 |>.head?.any (· != '-')

/-- Whether a text is a negative number in plain decimal; a line feed may follow it. -/
def looksNegative (t : Text) : Bool :=
  let isDigit := fun c => (digitValue? c).isSome
  let body := match t.getLast? with
    | some '\n' => t.dropLast
    | _ => t
  match body with
  | '-' :: digits =>
    match digits.dropWhile isDigit with
    | [] => !digits.isEmpty
    | '.' :: part => !part.isEmpty && part.all isDigit
    | _ => false
  | _ => false

namespace Grammar

/-- The option of a name. -/
def named? (g : Grammar) (name : Text) : Option OptionRule :=
  g.options.find? fun r => r.names.contains name

/-- Every option that an argument may be short for, or have a value attached to. -/
def candidates (g : Grammar) (arg : Text) : List Shape :=
  let named := g.options.flatMap fun r => r.names.map fun n => (r, n)
  if isShortName arg then
    named.filterMap fun (r, n) =>
      if n = arg.take 2 then some (.option r true (some ⟨false, arg.drop 2⟩))
      else if arg.isPrefixOf n then some (.option r (isShortName n) none)
      else none
  else
    let name := arg.takeWhile (· != '=')
    let attached := (arg.drop name.length).tail?.map (⟨true, ·⟩)
    named.filterMap fun (r, n) =>
      if name.isPrefixOf n then some (.option r (isShortName n) attached) else none

/-- What an argument that may be an option looks like. -/
def shapeOf (g : Grammar) (arg : Text) : Except Stop Shape :=
  if arg.head? != some '-' || arg.length = 1 then .ok .plain
  else match g.named? arg with
    | some r => .ok (.option r (isShortName arg) none)
    | none =>
      let name := arg.takeWhile (· != '=')
      match (arg.drop name.length).tail?, g.named? name with
      | some value, some r => .ok (.option r (isShortName name) (some ⟨true, value⟩))
      | _, _ =>
        match g.candidates arg with
        | [s] => .ok s
        | _ :: _ :: _ => .error .misuse
        | [] => .ok (if looksNegative arg || arg.contains ' ' then .plain else .unknown)

/-- What each argument looks like; behind two dashes all are plain. -/
def shapesOf (g : Grammar) : List Text → Except Stop (List (Text × Shape))
  | [] => .ok []
  | arg :: args =>
    if arg = ['-', '-'] then .ok ((arg, .separator) :: args.map fun a => (a, .plain))
    else do return (arg, ← g.shapeOf arg) :: (← g.shapesOf args)

end Grammar

/-- What has been understood: the options with their values, the positional arguments, and what is
left over. -/
structure Understood where
  options : List (Text × List Text)
  positional : Option (List Text)
  extras : List Text
  deriving DecidableEq, Repr

namespace Understood

/-- Nothing yet. -/
def empty : Understood := ⟨[], none, []⟩

/-- Whether an option has been given. -/
def has (u : Understood) (key : String) : Bool := (u.options.lookup key.toList).isSome

/-- The values of an option, as last given. -/
def values? (u : Understood) (key : String) : Option (List Text) :=
  u.options.reverse.lookup key.toList

/-- The value of an option, as last given. -/
def value? (u : Understood) (key : String) : Option Text := (u.values? key).bind (·.head?)

/-- Takes an option with its values. -/
def takeOption (u : Understood) (taken : OptionRule × List Text) : Except Stop Understood :=
  let (r, values) := taken
  if r.key = "--help".toList then .error .help
  else if values.all r.accepts then .ok { u with options := u.options ++ [(r.key, values)] }
  else .error .misuse

/-- Adds arguments that are left over. -/
def leave (u : Understood) (args : List Text) : Understood := { u with extras := u.extras ++ args }

end Understood

/-- How many arguments at the start of a list are separators. -/
def separators (args : List (Text × Shape)) : Nat :=
  (args.takeWhile fun a => a.2.isSeparator).length

/-- How many of the arguments the positional place takes, if it can take any. -/
def Positional.count? (p : Positional) (args : List (Text × Shape)) : Option Nat :=
  let before := separators args
  match args.drop before with
  | (_, .plain) :: after =>
    some (if p = .rest then args.length else before + 1 + separators after)
  | _ => if p = .optional then some before else none

namespace Grammar

/-- The options in an argument, the last of them taking values from the `following` plain ones: each
with its values, how many following ones are taken, and what is left over. `fuel` bounds the flags
that are joined. -/
def joined (g : Grammar) (following : List Text) :
    (fuel : Nat) → OptionRule → (isShort : Bool) → Option Attached →
      Except Stop (List (OptionRule × List Text) × Nat × List Text)
  | 0, _, _, _ => .error .misuse
  | fuel + 1, r, isShort, attached =>
    match r.arity, attached with
    | .flag, none => .ok ([(r, [])], 0, [])
    | .flag, some ⟨behindSign, value⟩ =>
      match value with
      | c :: more =>
        if !isShort || behindSign || c = '-' then .error .misuse
        else match g.named? ['-', c] with
          | none => .ok ([(r, [])], 0, ['-' :: value])
          | some next => do
            let attached := match more with
              | [] => none
              | '=' :: v => some ⟨true, v⟩
              | v => some ⟨false, v⟩
            let (taken, used, extras) ← joined g following fuel next true attached
            return ((r, []) :: taken, used, extras)
      | [] => .error .misuse
    | _, some a => .ok ([(r, [a.value])], 0, [])
    | .value, none =>
      match following with
      | v :: _ => .ok ([(r, [v])], 1, [])
      | [] => .error .misuse
    | .values, none =>
      if following.isEmpty then .error .misuse
      else .ok ([(r, following)], following.length, [])

/-- Takes the positional arguments at the start of a list, with how many those are. -/
def takePositional (g : Grammar) (u : Understood) (args : List (Text × Shape)) :
    Except Stop (Understood × Nat) :=
  match u.positional, g.positional.count? args with
  | none, some n =>
    let given := (args.take n).map (·.1)
    let values := if g.positional = .rest then given else given.erase ['-', '-']
    if values.head?.all g.accepts then .ok ({ u with positional := some values }, n)
    else .error .misuse
  | _, _ => .ok (u, 0)

/-- Understands arguments one after another. `fuel` bounds their number. -/
def understandFrom (g : Grammar) :
    (fuel : Nat) → Understood → List (Text × Shape) → Except Stop Understood
  | 0, u, _ => .ok u
  | fuel + 1, u, args => do
    let before := args.takeWhile fun a => !a.2.isOption
    let (v, n) ← if before.isEmpty && !args.isEmpty then pure (u, 0) else g.takePositional u args
    match args.drop before.length with
    | [] => return v.leave ((args.drop n).map (·.1))
    | (arg, shape) :: after =>
      if 0 < n then g.understandFrom fuel v (args.drop n)
      else
        let v := v.leave (before.map (·.1))
        match shape with
        | .option r isShort attached =>
          let following := (after.takeWhile fun a => a.2.isPlain).map (·.1)
          let (taken, used, extras) ← g.joined following (arg.length + 1) r isShort attached
          g.understandFrom fuel ((← taken.foldlM Understood.takeOption v).leave extras)
            (after.drop used)
        | _ => g.understandFrom fuel (v.leave [arg]) after

/-- Understands arguments; one positional argument that has to be there must be. -/
def understand (g : Grammar) (args : List Text) : Except Stop Understood := do
  let shapes ← g.shapesOf args
  let u ← g.understandFrom (args.length + 1) .empty shapes
  if g.positional = .one && u.positional.isNone then throw .misuse
  return u

end Grammar

end ExerciseSheet

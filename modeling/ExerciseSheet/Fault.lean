import ExerciseSheet.Files.Tree
import ExerciseSheet.Number.Whole
import ExerciseSheet.Text.Quoted

/-!
# What can go wrong

A fault is a cause with the data its message needs. The faults that a run reports to its user belong
to a family of kinds, each kind under a wider one; the others are the system's or the caller's and
pass through.
-/

namespace ExerciseSheet

/-- The kinds of fault that a run reports to its user. -/
inductive FaultKind where
  | sheet
  | configuration
  | validation
  | catalog
  | template
  | segmentation
  | noSegments
  | integration
  | compiler
  deriving DecidableEq, Repr

namespace FaultKind

/-- The next wider kind. -/
def wider? : FaultKind → Option FaultKind
  | sheet => none
  | configuration | validation | segmentation | integration => some sheet
  | catalog | template => some validation
  | noSegments => some segmentation
  | compiler => some integration

/-- The kind and the wider ones, at most `fuel` of them. -/
def widerFrom : (fuel : Nat) → FaultKind → List FaultKind
  | 0, k => [k]
  | fuel + 1, k =>
    match k.wider? with
    | some w => k :: widerFrom fuel w
    | none => [k]

/-- The kind itself and every wider one, the widest last. -/
def ancestry (k : FaultKind) : List FaultKind := widerFrom 3 k

end FaultKind

/-- Why a message is not filled with its arguments. -/
inductive FillFault where
  /-- There are fewer arguments than places. -/
  | tooFew
  /-- There are more arguments than places. -/
  | tooMany
  /-- The argument is not of the place's kind. -/
  | wrongKind
  /-- A place asks for a field, and the argument has none. -/
  | noFields
  /-- A place asks for a field that is not there. -/
  | missingField
  /-- The message ends inside a place. -/
  | incomplete
  /-- The message ends inside the key of a place. -/
  | incompleteKey
  /-- A place's kind is unknown. -/
  | unknownKind (kind : Char) (offset : Nat)
  /-- A whole number is asked for, and the argument is not a number. -/
  | notANumber
  /-- The argument is too large for the place. -/
  | outOfRange
  /-- The width of a place is too large. -/
  | widthTooLarge
  /-- The precision of a place is too large. -/
  | precisionTooLarge
  deriving DecidableEq, Repr

namespace FillFault

/-- The text of the fault. -/
def message : FillFault → Text
  | tooFew => "not enough arguments for format string".toList
  | tooMany => "not all arguments converted during string formatting".toList
  | wrongKind => "the argument is not of the kind asked for".toList
  | noFields => "format requires a mapping".toList
  | missingField => "the mapping has no such field".toList
  | incomplete => "incomplete format".toList
  | incompleteKey => "incomplete format key".toList
  | unknownKind kind offset =>
    let shown := if 31 ≤ kind.toNat && kind.toNat < 127 then kind else '?'
    "unsupported format character '".toList ++ shown :: "' (0x".toList
      ++ Nat.toDigits 16 kind.toNat ++ ") at index ".toList ++ naturalText offset
  | notANumber => "cannot convert float NaN to integer".toList
  | outOfRange => "the argument is out of range".toList
  | widthTooLarge => "width too big".toList
  | precisionTooLarge => "precision too big".toList

end FillFault

/-- A cause of failure. -/
inductive Fault where
  /-- A setting that has to be a number is none. -/
  | notNumber (key value : Text)
  /-- A setting that has to be a whole number is none. -/
  | notWhole (key value : Text)
  /-- Compiling is neither automatic nor manual. -/
  | unknownCompileMode (mode : Text)
  /-- Two snippets are the same text. -/
  | repeatedSnippet (id : Text)
  /-- A snippet has nothing to show. -/
  | unlabelled (id : Text)
  /-- A snippet's metadata is no mapping. -/
  | metadataNotMapping (id : Text)
  /-- A snippet's keywords are not a list of texts. -/
  | keywordsNotTexts (id : Text)
  /-- A snippet's keywords are no collection at all. -/
  | keywordsNotCollection (id : Text)
  /-- The catalog's file cannot be read or is not JSON. -/
  | catalogUnreadable (path : Text) (cause : Option FileFault)
  /-- The catalog's file holds no object. -/
  | catalogNotObject (path : Text)
  /-- The carrier's file cannot be read. -/
  | carrierUnreadable (path : Text) (cause : FileFault)
  /-- The carrier lacks a required placeholder. -/
  | placeholderMissing (marker : Text)
  /-- There is no starter of that mode. -/
  | noStarter (mode : Text)
  /-- A starter is given a value under a name that is taken. -/
  | takenName (name : Text)
  /-- The document has no exercise. -/
  | noExercises
  /-- None of the requested exercises is among those found. -/
  | noneRequested (found : List Text)
  /-- The compiler is not installed. -/
  | compilerMissing
  /-- The compiler cannot be started. -/
  | compilerNotStarted (executable : Text) (cause : FileFault)
  /-- The system refuses a file operation. -/
  | file (cause : FileFault)
  /-- A path that is to be opened holds a null character. -/
  | nullInPath
  /-- What has to be written is not made of characters alone. -/
  | notCharacters
  /-- Octets that have to be text are none. -/
  | notText
  /-- A home directory is not known. -/
  | noHome
  /-- A text that has to be a whole number is none. -/
  | invalidWhole (t : Text)
  /-- A whole number has more digits than are read. -/
  | readTooLong (digits : Nat)
  /-- A whole number has more digits than are written. -/
  | writeTooLong
  /-- Values nest too deep. -/
  | tooDeep
  /-- There is no such way of wrapping a snippet. -/
  | unknownWrap (name : Text)
  /-- A file name has more than one part. -/
  | invalidName (name : Text)
  /-- A pattern is malformed. -/
  | badPattern
  /-- A message and its arguments do not fit. -/
  | unfilled (cause : FillFault)
  deriving DecidableEq, Repr

namespace Fault

/-- The kind of a fault that is reported to the user. -/
def kind? : Fault → Option FaultKind
  | notNumber .. | notWhole .. | unknownCompileMode _ => some .configuration
  | repeatedSnippet _ | unlabelled _ | metadataNotMapping _ | keywordsNotTexts _
  | catalogUnreadable .. | catalogNotObject _ => some .catalog
  | carrierUnreadable .. | placeholderMissing _ | noStarter _ => some .template
  | noExercises | noneRequested _ => some .noSegments
  | compilerMissing | compilerNotStarted .. => some .compiler
  | _ => none

/-- Advice on the digit limit. -/
def limitAdvice : Text :=
  "use sys.set_int_max_str_digits() to increase the limit".toList

/-- The text of a fault. -/
def message : Fault → Text
  | notNumber key value => key ++ " must be a number, got ".toList ++ value.quoted
  | notWhole key value => key ++ " must be a whole number, got ".toList ++ value.quoted
  | unknownCompileMode mode => "Unknown compile mode: ".toList ++ mode.quoted
  | repeatedSnippet id => "Duplicate snippet id: ".toList ++ id.quoted
  | unlabelled id => "Snippet ".toList ++ id.quoted ++ " has no label".toList
  | metadataNotMapping id =>
    "Snippet ".toList ++ id.quoted ++ " metadata must be a mapping".toList
  | keywordsNotTexts id =>
    "Snippet ".toList ++ id.quoted ++ " keywords must be a list of strings".toList
  | keywordsNotCollection id =>
    "Snippet ".toList ++ id.quoted ++ " keywords must be a collection".toList
  | catalogUnreadable path cause =>
    "Cannot read catalog ".toList ++ path ++ match cause with
      | some f => ": ".toList ++ f.message
      | none => []
  | catalogNotObject path => "Catalog ".toList ++ path ++ " must contain a JSON object".toList
  | carrierUnreadable path cause =>
    "Cannot read carrier template ".toList ++ path ++ ": ".toList ++ cause.message
  | placeholderMissing marker => "Carrier template has no placeholder: ".toList ++ marker
  | noStarter mode => "No starter template for mode ".toList ++ mode.quoted
  | takenName name => "The name ".toList ++ name.quoted ++ " is taken".toList
  | noExercises =>
    "No exercises found. Start each exercise with ".toList
      ++ "\\exercisetitle\x7bExercise <n>: <title>\x7d.".toList
  | noneRequested found =>
    "None of the requested exercises exist (found: ".toList ++ Text.join ", ".toList found
      ++ ")".toList
  | compilerMissing => "LatexCompiler is not configured".toList
  | compilerNotStarted executable cause =>
    "Cannot run ".toList ++ executable ++ ": ".toList ++ cause.message
  | file cause => cause.message
  | nullInPath => "embedded null byte".toList
  | notCharacters => "The text holds half of a pair of units".toList
  | notText => "The octets are no text".toList
  | noHome => "Could not determine home directory.".toList
  | invalidWhole t =>
    "invalid literal for int() with base 10: ".toList ++ t.quoted.take 200
  | readTooLong digits =>
    "Exceeds the limit (".toList ++ naturalText digitLimit
      ++ " digits) for integer string conversion: value has ".toList ++ naturalText digits
      ++ " digits; ".toList ++ limitAdvice
  | writeTooLong =>
    "Exceeds the limit (".toList ++ naturalText digitLimit
      ++ " digits) for integer string conversion; ".toList ++ limitAdvice
  | tooDeep => "The values nest too deep".toList
  | unknownWrap name => name.quoted ++ " is not a valid WrapStyle".toList
  | invalidName name => "Invalid name ".toList ++ name.quoted
  | badPattern => "The pattern is malformed".toList
  | unfilled cause => cause.message

/-- The fault of a whole number that is not read. -/
def ofNumber (t : Text) : NumberFault → Fault
  | .malformed => invalidWhole t
  | .tooLong digits => readTooLong digits

end Fault

/-- The answer of a file operation on a path. One that holds a null character is turned away before
the system is asked. -/
def FilePath.attempt {α : Type} (p : FilePath) (r : Except FileFault α) : Except Fault α :=
  if p.holdsNull then .error .nullInPath
  else match r with
    | .ok a => .ok a
    | .error f => .error (.file f)

/-- A whole number in decimal, unless it has too many digits. -/
def writeWhole (n : Int) : Except Fault Text :=
  if Nat.pow 10 digitLimit ≤ n.natAbs then .error .writeTooLong else .ok (wholeText n)

end ExerciseSheet

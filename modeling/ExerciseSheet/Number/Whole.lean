import ExerciseSheet.Text.Basic
import ExerciseSheet.Text.Blank
import ExerciseSheet.Text.Digit

/-!
# Whole numbers in decimal

A whole number is written in plain decimal, and read with surrounding blanks, a sign, digits of any
script, and single underscores between digits. Neither way handles more than 4300 digits: a longer
run of digits is refused when it ends, before what follows it is looked at.
-/

namespace ExerciseSheet

/-- The most digits that are read or written. -/
def digitLimit : Nat := 4300

/-- The decimal digits of a natural number. -/
def naturalText (n : Nat) : Text := Nat.toDigits 10 n

/-- A whole number in decimal, however long. -/
def wholeText (n : Int) : Text :=
  if n < 0 then '-' :: naturalText n.natAbs else naturalText n.natAbs

/-- Why a text is not read as a number. -/
inductive NumberFault where
  /-- The text does not have the form of a number. -/
  | malformed
  /-- The text has more digits than are read. -/
  | tooLong (digits : Nat)
  deriving DecidableEq, Repr

/-- Whether a number may have the character around it: a blank other than an information
separator. -/
def isNumberBlank (c : Char) : Bool := isBlank c && !(0x1C ≤ c.toNat && c.toNat ≤ 0x1F)

/-- The text without the blanks that may surround a number. -/
def trimNumber (t : Text) : Text :=
  ((t.dropWhile isNumberBlank).reverse.dropWhile isNumberBlank).reverse

/-- The digits at the start of the text and what follows them, unless they are none or an underscore
among them stands beside another one or beside no digit. `gap` says that no digit stands just
before. -/
def groupedDigits : (gap : Bool) → Text → Option (List Nat × Text)
  | gap, [] => if gap then none else some ([], [])
  | gap, c :: t =>
    if c = '_' then if gap then none else groupedDigits true t
    else match digitValue? c with
      | some d => (groupedDigits false t).map fun (ds, rest) => (d :: ds, rest)
      | none => if gap then none else some ([], c :: t)

/-- The number that decimal digits spell. -/
def ofDigits (ds : List Nat) : Nat := ds.foldl (fun n d => 10 * n + d) 0

/-- The sign of a number's text, true for a minus, and the text after it. -/
def splitSign : Text → Bool × Text
  | '-' :: t => (true, t)
  | '+' :: t => (false, t)
  | t => (false, t)

/-- Reads a whole number. -/
def readWhole (t : Text) : Except NumberFault Int :=
  let (negative, body) := splitSign (trimNumber t)
  match groupedDigits true body with
  | none => .error .malformed
  | some (ds, rest) =>
    if digitLimit < ds.length then .error (.tooLong ds.length)
    else if rest.isEmpty then .ok (if negative then -(ofDigits ds : Int) else ofDigits ds)
    else .error .malformed

end ExerciseSheet

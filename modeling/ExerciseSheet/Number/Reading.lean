import ExerciseSheet.Number.Decimal

/-!
# Reading floating-point numbers

A number is read as the nearest floating-point number, from decimal digits with an optional point
and exponent, or as infinity or not-a-number by name. Single underscores may stand between digits.
-/

namespace ExerciseSheet

/-- The floating-point number nearest to `digits * 10 ^ exponent`; far exponents give zero or
infinity at once. -/
def nearestFloat (digits : List Nat) (exponent : Int) : Float :=
  let ds := digits.dropWhile (· == 0)
  let point := exponent + ds.length
  if ds.isEmpty || point < -400 then 0.0
  else if 400 < point then 1.0 / 0.0
  else Float.ofScientific (ofDigits ds) (exponent < 0) exponent.natAbs

/-- The text without its underscores, each of which has to stand between two ASCII digits. -/
def dropUnderscores : (before : Char) → Text → Option Text
  | before, [] => if before = '_' then none else some []
  | before, '_' :: t => if before.isDigit then dropUnderscores '_' t else none
  | before, c :: t =>
    if before = '_' && !c.isDigit then none else (dropUnderscores c t).map (c :: ·)

/-- The decimal digits at the start of a text, and the rest. -/
def leadingDigits : Text → List Nat × Text
  | [] => ([], [])
  | c :: t =>
    if c.isDigit then
      let (ds, rest) := leadingDigits t
      ((c.toNat - '0'.toNat) :: ds, rest)
    else ([], c :: t)

/-- The exponent that the text gives, zero when it is empty. -/
def readExponent? : Text → Option Int
  | [] => some 0
  | c :: t =>
    if c = 'e' || c = 'E' then
      let (negative, body) := splitSign t
      match leadingDigits body with
      | (d :: ds, []) => some (if negative then -(ofDigits (d :: ds) : Int) else ofDigits (d :: ds))
      | _ => none
    else none

/-- Reads digits with an optional point and exponent. -/
def readMagnitude? (t : Text) : Option Float :=
  let (whole, rest) := leadingDigits t
  let (part, rest) := match rest with
    | '.' :: r => leadingDigits r
    | r => ([], r)
  if whole.isEmpty && part.isEmpty then none
  else (readExponent? rest).map fun e => nearestFloat (whole ++ part) (e - part.length)

/-- Reads a magnitude or the name of one. -/
def readUnsigned? (t : Text) : Option Float :=
  let name := t.map Char.toLower
  if name = "inf".toList || name = "infinity".toList then some (1.0 / 0.0)
  else if name = "nan".toList then some (0.0 / 0.0)
  else readMagnitude? t

/-- Digits of every script as ASCII digits. -/
def asciiDigits (t : Text) : Text :=
  t.map fun c => match digitValue? c with
    | some d => Nat.digitChar d
    | none => c

/-- Reads a floating-point number. -/
def readReal? (t : Text) : Option Float :=
  match dropUnderscores ' ' (asciiDigits (trimNumber t)) with
  | none => none
  | some body =>
    let (negative, magnitude) := splitSign body
    (readUnsigned? magnitude).map fun x => if negative then -x else x

end ExerciseSheet

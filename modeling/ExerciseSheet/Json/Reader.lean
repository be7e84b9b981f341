import ExerciseSheet.Json.Value
import ExerciseSheet.Number.Reading

/-!
# Reading JSON

A document is one value with blanks around it. Beyond the standard, the names of infinity and
not-a-number are values, and a key may come again: its last value stands in its first place. A text
may not hold a control character unescaped. Its escapes are UTF-16 units, so half of a pair may
stand on its own, which is no character. How deep values may nest is up to the caller, and a whole
number has at most `digitLimit` digits.
-/

namespace ExerciseSheet.Json

/-- Why a text is not read as JSON. -/
inductive ReadFault where
  /-- The text is not JSON. -/
  | malformed
  /-- A whole number has more digits than are read. -/
  | tooLong (digits : Nat)
  /-- Values nest too deep. -/
  | tooDeep
  deriving DecidableEq, Repr

/-- A sign of a text in JSON: a character, or a unit that is half of a pair. -/
inductive Sign where
  | char (c : Char)
  | half (unit : Nat)
  deriving DecidableEq, Repr

namespace Sign

/-- The sign of one unit on its own. -/
def ofUnit (unit : Nat) : Sign :=
  if 0xD800 ≤ unit && unit < 0xE000 then half unit else char (Char.ofNat unit)

/-- Whether a sign is a character. -/
def isChar : Sign → Bool
  | char _ => true
  | half _ => false

/-- The character that a sign is, or else the replacement character. -/
def toChar : Sign → Char
  | char c => c
  | half _ => Char.ofNat 0xFFFD

end Sign

/-- Whether JSON allows the character around values. -/
def isJsonBlank (c : Char) : Bool := c = ' ' || c = '\t' || c = '\n' || c = '\r'

/-- The text from its first character that is no JSON blank. -/
def skipBlanks (t : Text) : Text := t.dropWhile isJsonBlank

/-- The number that one hexadecimal digit stands for. -/
def hexValue? (c : Char) : Option Nat :=
  if c.isDigit then some (c.toNat - '0'.toNat)
  else if 'a' ≤ c && c ≤ 'f' then some (c.toNat - 'a'.toNat + 10)
  else if 'A' ≤ c && c ≤ 'F' then some (c.toNat - 'A'.toNat + 10)
  else none

/-- The number in the four hexadecimal digits at the start of a text. -/
def hexUnit? (t : Text) : Option Nat :=
  match t.take 4 with
  | [a, b, c, d] => do
    return ((← hexValue? a) * 16 + (← hexValue? b)) * 256 + (← hexValue? c) * 16 + (← hexValue? d)
  | _ => none

/-- The character that one escape letter stands for. -/
def escapeLetter? (c : Char) : Option Char :=
  match c with
  | '"' => some '"'
  | '\\' => some '\\'
  | '/' => some '/'
  | 'b' => some (Char.ofNat 8)
  | 'f' => some (Char.ofNat 12)
  | 'n' => some '\n'
  | 'r' => some '\r'
  | 't' => some '\t'
  | _ => none

/-- The text between a quote and the next one that no backslash escapes, still escaped, and the text
after it. -/
def rawText? : Text → Option (Text × Text)
  | [] => none
  | '"' :: t => some ([], t)
  | '\\' :: c :: t => (rawText? t).map fun (raw, rest) => ('\\' :: c :: raw, rest)
  | c :: t => (rawText? t).map fun (raw, rest) => (c :: raw, rest)

/-- The sign of a first unit, and what follows: a first half joins a second one right after it. -/
def joinUnits (unit : Nat) (rest : Text) : Sign × Text :=
  let low := match rest with
    | '\\' :: 'u' :: t => hexUnit? t
    | _ => none
  match low with
  | some u =>
    if 0xD800 ≤ unit && unit < 0xDC00 && 0xDC00 ≤ u && u < 0xE000 then
      (.char (Char.ofNat (0x10000 + (unit - 0xD800) * 0x400 + (u - 0xDC00))), rest.drop 6)
    else (.ofUnit unit, rest)
  | none => (.ofUnit unit, rest)

/-- The signs that at most `fuel` characters of escaped text stand for. -/
def unescape? : (fuel : Nat) → Text → Option (List Sign)
  | _, [] => some []
  | 0, _ => none
  | fuel + 1, '\\' :: 'u' :: t => do
    let unit ← hexUnit? t
    let (c, rest) := joinUnits unit (t.drop 4)
    return c :: (← unescape? fuel rest)
  | fuel + 1, '\\' :: c :: t => do return .char (← escapeLetter? c) :: (← unescape? fuel t)
  | fuel + 1, c :: t => if c.toNat < 0x20 then none else (unescape? fuel t).map (.char c :: ·)

/-- The text at the start of the input, its opening quote already read. -/
def readText (t : Text) : Except ReadFault (List Sign × Text) :=
  match rawText? t with
  | none => .error .malformed
  | some (raw, rest) =>
    match unescape? raw.length raw with
    | none => .error .malformed
    | some s => .ok (s, rest)

/-- The ASCII digits at the start of a text, and the rest. -/
def spanDigits (t : Text) : Text × Text := (t.takeWhile Char.isDigit, t.dropWhile Char.isDigit)

/-- The digits after a point, when there are any. -/
def fractionPart (t : Text) : Text × Text :=
  match t with
  | '.' :: r =>
    let (ds, rest) := spanDigits r
    if ds.isEmpty then ([], t) else ('.' :: ds, rest)
  | _ => ([], t)

/-- The exponent at the start of a text, when there is one. -/
def exponentPart (t : Text) : Text × Text :=
  match t with
  | e :: r =>
    let (sign, body) := match r with
      | '+' :: b => (['+'], b)
      | '-' :: b => (['-'], b)
      | b => ([], b)
    let (ds, rest) := spanDigits body
    if (e = 'e' || e = 'E') && !ds.isEmpty then (e :: sign ++ ds, rest) else ([], t)
  | [] => ([], t)

/-- The whole part of a number: a zero, or digits that start with none. -/
def wholePart? (t : Text) : Option (Text × Text) :=
  match t with
  | '0' :: r => some (['0'], r)
  | _ =>
    let (ds, rest) := spanDigits t
    if ds.isEmpty then none else some (ds, rest)

/-- Reads a number, after a minus sign when `negative`. -/
def readNumber (negative : Bool) (t : Text) : Except ReadFault (Json Sign × Text) :=
  match wholePart? t with
  | none => .error .malformed
  | some (digits, rest) =>
    let (part, rest) := fractionPart rest
    let (exponent, rest) := exponentPart rest
    if part.isEmpty && exponent.isEmpty then
      if digitLimit < digits.length then .error (.tooLong digits.length)
      else
        let n := ofDigits (digits.map fun c => c.toNat - '0'.toNat)
        .ok (whole (if negative then -(n : Int) else n), rest)
    else match readReal? (digits ++ part ++ exponent) with
      | none => .error .malformed
      | some x => .ok (real (if negative then -x else x), rest)

/-- Reads a name or a number. -/
def readScalar (t : Text) : Except ReadFault (Json Sign × Text) :=
  let name := fun (s : String) => s.toList.isPrefixOf t
  if name "null" then .ok (null, t.drop 4)
  else if name "true" then .ok (bool true, t.drop 4)
  else if name "false" then .ok (bool false, t.drop 5)
  else if name "NaN" then .ok (real (0.0 / 0.0), t.drop 3)
  else if name "Infinity" then .ok (real (1.0 / 0.0), t.drop 8)
  else if name "-Infinity" then .ok (real (-1.0 / 0.0), t.drop 9)
  else match t with
    | '-' :: r => readNumber true r
    | _ => readNumber false t

/-- Whether another item follows, after the comma or closing bracket behind an item. -/
def readSeparator (close : Char) (t : Text) : Except ReadFault (Bool × Text) :=
  match skipBlanks t with
  | c :: r =>
    if c = ',' then .ok (true, skipBlanks r)
    else if c = close then .ok (false, r)
    else .error .malformed
  | [] => .error .malformed

/-- The key and the colon at the start of a text, and the text from the value on. -/
def readKey (t : Text) : Except ReadFault (List Sign × Text) :=
  match t with
  | '"' :: r => do
    let (key, rest) ← readText r
    match skipBlanks rest with
    | ':' :: v => return (key, skipBlanks v)
    | _ => .error .malformed
  | _ => .error .malformed

mutual

/-- Reads a value that nests at most `depth` deep. -/
def readValue : (fuel depth : Nat) → Text → Except ReadFault (Json Sign × Text)
  | 0, _, _ => .error .malformed
  | fuel + 1, depth, t =>
    match t with
    | [] => .error .malformed
    | '"' :: r => do
      let (s, rest) ← readText r
      return (text s, rest)
    | '[' :: r =>
      if depth = 0 then .error .tooDeep
      else match skipBlanks r with
        | ']' :: rest => .ok (list [], rest)
        | r => do
          let (items, rest) ← readItems fuel (depth - 1) r
          return (list items, rest)
    | '\x7b' :: r =>
      if depth = 0 then .error .tooDeep
      else match skipBlanks r with
        | '\x7d' :: rest => .ok (object [], rest)
        | r => do
          let (pairs, rest) ← readPairs fuel (depth - 1) r
          return (object (fieldsOf pairs), rest)
    | _ => readScalar t

/-- Reads the items of a list, at least one, and its closing bracket. -/
def readItems : (fuel depth : Nat) → Text → Except ReadFault (List (Json Sign) × Text)
  | 0, _, _ => .error .malformed
  | fuel + 1, depth, t => do
    let (v, rest) ← readValue fuel depth t
    let (more, rest) ← readSeparator ']' rest
    if more then
      let (vs, rest) ← readItems fuel depth rest
      return (v :: vs, rest)
    else return ([v], rest)

/-- Reads the fields of an object, at least one, and its closing brace. -/
def readPairs : (fuel depth : Nat) → Text →
    Except ReadFault (List (List Sign × Json Sign) × Text)
  | 0, _, _ => .error .malformed
  | fuel + 1, depth, t => do
    let (key, rest) ← readKey t
    let (v, rest) ← readValue fuel depth rest
    let (more, rest) ← readSeparator '\x7d' rest
    if more then
      let (pairs, rest) ← readPairs fuel depth rest
      return ((key, v) :: pairs, rest)
    else return ([(key, v)], rest)

end

/-- Reads a document whose values nest at most `depth` deep. -/
def read (depth : Nat) (t : Text) : Except ReadFault (Json Sign) := do
  let (v, rest) ← readValue (2 * t.length + 2) depth (skipBlanks t)
  if (skipBlanks rest).isEmpty then return v else .error .malformed

end ExerciseSheet.Json

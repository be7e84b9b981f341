import ExerciseSheet.Json.Value

/-!
# Writing JSON

A value is written on one line in ASCII, with a blank after each comma and colon. Characters beyond
ASCII are written as their UTF-16 units, and the numbers that JSON has no form for by their names.
-/

namespace ExerciseSheet.Json

/-- A code point in four hexadecimal digits, or in two such units when it needs them. -/
def unitsText (n : Nat) : Text :=
  if n < 0x10000 then '\\' :: 'u' :: hexText 4 n
  else
    '\\' :: 'u' :: hexText 4 (0xD800 + (n - 0x10000) / 0x400)
      ++ '\\' :: 'u' :: hexText 4 (0xDC00 + (n - 0x10000) % 0x400)

/-- A character inside a written text. -/
def writeChar (c : Char) : Text :=
  if c = '"' || c = '\\' then ['\\', c]
  else if c = '\n' then ['\\', 'n']
  else if c = '\r' then ['\\', 'r']
  else if c = '\t' then ['\\', 't']
  else if c.toNat = 8 then ['\\', 'b']
  else if c.toNat = 12 then ['\\', 'f']
  else if 0x20 ≤ c.toNat && c.toNat < 0x7F then [c]
  else unitsText c.toNat

/-- A text in double quotes. -/
def writeText (t : Text) : Text := '"' :: t.flatMap writeChar ++ ['"']

/-- A number with a point or an exponent. -/
def writeReal (x : Float) : Text :=
  if x.isNaN then "NaN".toList
  else if x.isInf then (if x < 0 then "-Infinity" else "Infinity").toList
  else realText x

mutual

/-- A value on one line. -/
def write : Json → Text
  | null => "null".toList
  | bool b => (if b then "true" else "false").toList
  | whole n => wholeText n
  | real x => writeReal x
  | text t => writeText t
  | list items => '[' :: writeItems items ++ [']']
  | object fields => '\x7b' :: writeFields fields ++ ['\x7d']

/-- The items of a list with commas between. -/
def writeItems : List Json → Text
  | [] => []
  | [v] => write v
  | v :: w :: vs => write v ++ ", ".toList ++ writeItems (w :: vs)

/-- The fields of an object with commas between. -/
def writeFields : List (Text × Json) → Text
  | [] => []
  | [(k, v)] => writeText k ++ ": ".toList ++ write v
  | (k, v) :: f :: fs =>
    writeText k ++ ": ".toList ++ write v ++ ", ".toList ++ writeFields (f :: fs)

end

end ExerciseSheet.Json

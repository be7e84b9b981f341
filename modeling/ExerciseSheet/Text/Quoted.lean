import ExerciseSheet.Text.Basic
import ExerciseSheet.Text.Printable

/-!
# Quoted texts

A message shows a text in single quotes, or in double quotes when the text holds a single quote and
no double one. The backslash, the quote in use and the line controls are escaped by a backslash, and
every other character that is not printable by its code point in two, four or eight hexadecimal
digits.
-/

namespace ExerciseSheet

/-- `n` in at least `width` lower-case hexadecimal digits. -/
def hexText (width n : Nat) : Text := Text.padLeft '0' width (Nat.toDigits 16 n)

/-- The quotes that a text is shown in. -/
def Text.quoteMark (t : Text) : Char :=
  if t.contains '\'' && !t.contains '"' then '"' else '\''

/-- How a character appears between quotes. -/
def escapeIn (quote c : Char) : Text :=
  if c = quote || c = '\\' then ['\\', c]
  else if c = '\n' then ['\\', 'n']
  else if c = '\r' then ['\\', 'r']
  else if c = '\t' then ['\\', 't']
  else if isPrintable c then [c]
  else if c.toNat < 0x100 then '\\' :: 'x' :: hexText 2 c.toNat
  else if c.toNat < 0x10000 then '\\' :: 'u' :: hexText 4 c.toNat
  else '\\' :: 'U' :: hexText 8 c.toNat

/-- The text as a message shows it. -/
def Text.quoted (t : Text) : Text :=
  t.quoteMark :: t.flatMap (escapeIn t.quoteMark) ++ [t.quoteMark]

end ExerciseSheet

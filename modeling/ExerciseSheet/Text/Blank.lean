import ExerciseSheet.Text.Basic

/-!
# Blank characters

The blanks are the characters that separate words: the ASCII ones, the information separators, the
next-line mark and the spaces of every width, but neither the zero-width space nor the byte-order
mark. A text is trimmed of blanks at both ends.
-/

namespace ExerciseSheet

/-- Whether a character is white space. -/
def isBlank (c : Char) : Bool :=
  let n := c.toNat
  (0x09 ≤ n && n ≤ 0x0D) || (0x1C ≤ n && n ≤ 0x20) || n == 0x85 || n == 0xA0 || n == 0x1680
    || (0x2000 ≤ n && n ≤ 0x200A) || n == 0x2028 || n == 0x2029 || n == 0x202F || n == 0x205F
    || n == 0x3000

namespace Text

/-- The text without its blanks at the start. -/
def trimLeft (t : Text) : Text := t.dropWhile isBlank

/-- The text without its blanks at the end. -/
def trimRight (t : Text) : Text := (t.reverse.dropWhile isBlank).reverse

/-- The text without its blanks at both ends. -/
def trim (t : Text) : Text := t.trimLeft.trimRight

/-- Whether the text holds nothing but blanks. -/
def isAllBlank (t : Text) : Bool := t.all isBlank

/-- Whether two neighbouring characters of the text are blanks. -/
def hasBlankRun : Text → Bool
  | c :: d :: t => (isBlank c && isBlank d) || hasBlankRun (d :: t)
  | _ => false

end Text

end ExerciseSheet

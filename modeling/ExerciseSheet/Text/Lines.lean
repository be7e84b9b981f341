import ExerciseSheet.Text.Basic

/-!
# Lines

A compiler log breaks at every line or paragraph mark. A text read from a file has its carriage
returns, alone or before a line feed, turned into line feeds, and breaks at those only.
-/

namespace ExerciseSheet

/-- Whether a character ends a line. -/
def isLineEnd (c : Char) : Bool :=
  let n := c.toNat
  (0x0A ≤ n && n ≤ 0x0D) || (0x1C ≤ n && n ≤ 0x1E) || n == 0x85 || n == 0x2028 || n == 0x2029

namespace Text

/-- The lines of a text of which `begun`, given from its end, has been read of the first one. -/
def linesAfter (begun : Text) : Text → List Text
  | [] => if begun.isEmpty then [] else [begun.reverse]
  | '\r' :: '\n' :: t => begun.reverse :: linesAfter [] t
  | c :: t => if isLineEnd c then begun.reverse :: linesAfter [] t else linesAfter (c :: begun) t

/-- The lines of a text without their ends; an end at the very end opens no further line. -/
def lines (t : Text) : List Text := linesAfter [] t

/-- The text with every way of ending a line turned into a line feed. -/
def unifyNewlines : Text → Text
  | [] => []
  | '\r' :: '\n' :: t => '\n' :: unifyNewlines t
  | c :: t => (if c = '\r' then '\n' else c) :: unifyNewlines t

end Text

end ExerciseSheet

/-!
# Text

A text is the list of its characters, so offsets, lengths and carets all count characters. Offsets
given by a host may be negative or lie past the end: a negative one counts from the end, and what
lies outside is brought back to the nearer end. Half of a surrogate pair is no character, so what
has one on its own is no text.
-/

namespace ExerciseSheet

/-- A text, as its list of characters. -/
abbrev Text := List Char

namespace Text

/-- The characters from offset `a` up to offset `b`. -/
def slice (t : Text) (a b : Nat) : Text := (t.take b).drop a

/-- The offset in `t` that a signed offset stands for. -/
def place (t : Text) (i : Int) : Nat :=
  if i < 0 then (i + t.length).toNat else min i.toNat t.length

/-- The characters between two signed offsets, none when the second lies before the first. -/
def between (t : Text) (a b : Int) : Text := t.slice (t.place a) (t.place b)

/-- The text before a signed offset. -/
def upTo (t : Text) (i : Int) : Text := t.take (t.place i)

/-- The text from a signed offset on. -/
def since (t : Text) (i : Int) : Text := t.drop (t.place i)

/-- `t` with the stretch between two offsets replaced. -/
def splice (t : Text) (a b : Int) (new : Text) : Text := t.upTo a ++ new ++ t.since b

/-- The text before and the text after the first occurrence of `pat`. -/
def cutAt? (pat : Text) : Text → Option (Text × Text)
  | [] => if pat.isEmpty then some ([], []) else none
  | c :: t =>
    if pat.isPrefixOf (c :: t) then some ([], (c :: t).drop pat.length)
    else (cutAt? pat t).map fun (head, tail) => (c :: head, tail)

/-- The offset of the first occurrence of `pat`. -/
def find? (pat t : Text) : Option Nat := (cutAt? pat t).map fun (head, _) => head.length

/-- The offset of the first occurrence of `pat` at or after `start`. -/
def findFrom? (pat t : Text) (start : Nat) : Option Nat :=
  if t.length < start then none else (find? pat (t.drop start)).map (start + ·)

/-- Whether `pat` occurs in `t`. -/
def has (pat t : Text) : Bool := (find? pat t).isSome

/-- How often `pat` occurs in the text after its next `skip` characters, occurrences read from the
left and not overlapping. -/
def countFrom (pat : Text) : Nat → Text → Nat
  | _, [] => 0
  | skip + 1, _ :: t => countFrom pat skip t
  | 0, c :: t =>
    if pat.isPrefixOf (c :: t) then 1 + countFrom pat (pat.length - 1) t else countFrom pat 0 t

/-- How often the non-empty text `pat` occurs in `t`. -/
def count (pat t : Text) : Nat := countFrom pat 0 t

/-- `t` with the first occurrence of `pat`, if any, replaced. -/
def replaceFirst (pat new t : Text) : Text :=
  match cutAt? pat t with
  | some (head, tail) => head ++ new ++ tail
  | none => t

/-- The pieces of `t` between the occurrences of the character `sep`, at least one. -/
def splitOn (sep : Char) : Text → List Text
  | [] => [[]]
  | c :: t =>
    match splitOn sep t with
    | [] => [[c]]
    | piece :: pieces => if c = sep then [] :: piece :: pieces else (c :: piece) :: pieces

/-- The texts with `sep` between neighbours. -/
def join (sep : Text) : List Text → Text
  | [] => []
  | [t] => t
  | t :: ts => t ++ sep ++ join sep ts

/-- Lines with a line feed between neighbours. -/
def ofLines (ls : List String) : Text := join ['\n'] (ls.map String.toList)

/-- `t` widened to `width` characters with `c` on the right. -/
def padRight (c : Char) (width : Nat) (t : Text) : Text := t ++ List.replicate (width - t.length) c

/-- `t` widened to `width` characters with `c` on the left. -/
def padLeft (c : Char) (width : Nat) (t : Text) : Text := List.replicate (width - t.length) c ++ t

end Text

end ExerciseSheet

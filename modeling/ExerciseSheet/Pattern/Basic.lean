import ExerciseSheet.Text.Blank
import ExerciseSheet.Text.CaseFold
import ExerciseSheet.Text.Digit
import ExerciseSheet.Text.Word

/-!
# Patterns

A pattern describes stretches of text. From a spot in a text it matches in some number of ways,
which come in order of preference: the first branch of a choice before the second, and more
repetitions before fewer unless the repetition is sparing. A repetition that has read nothing since
it last began is not begun again. A search goes from left to right and takes the first way at the
first spot that has one; the next search starts where the match ended, and there it may not be empty
again if it was.
-/

namespace ExerciseSheet

/-- A set of characters by its kind. -/
inductive CharKind where
  | digit
  | word
  | blank
  deriving DecidableEq, Repr

/-- Whether a character is of a kind. -/
def CharKind.holds : CharKind → Char → Bool
  | digit, c => isDecimalDigit c
  | word, c => isWordChar c
  | blank, c => isBlank c

/-- A part of a set of characters. -/
inductive ClassItem where
  | one (c : Char)
  | range (first last : Char)
  | kind (k : CharKind)
  | notKind (k : CharKind)
  deriving DecidableEq, Repr

/-- Whether a part holds a character; with `fold`, differences in case do not count. -/
def ClassItem.holds (fold : Bool) (c : Char) : ClassItem → Bool
  | one d => if fold then alikeButCase c d else c == d
  | range first last =>
    if fold then (caseVariants c).any fun v => first ≤ v && v ≤ last else first ≤ c && c ≤ last
  | kind k => k.holds (if fold then smallLetter c else c)
  | notKind k => !k.holds (if fold then smallLetter c else c)

/-- A condition on a spot that reads nothing. -/
inductive Anchor where
  | textStart
  | lineStart
  /-- At the end, or before a line feed at the end. -/
  | textEnd
  | lineEnd
  | veryEnd
  | wordEdge
  /-- Off every word edge, in a text that is not empty. -/
  | notWordEdge
  deriving DecidableEq, Repr

/-- A pattern. -/
inductive Pattern where
  /-- Matches without reading. -/
  | empty
  /-- One character inside or outside a set. -/
  | oneOf (fold negated : Bool) (items : List ClassItem)
  /-- One character, any but a line feed unless `lines`. -/
  | any (lines : Bool)
  | seq (first second : Pattern)
  | alt (first second : Pattern)
  /-- The body, what it reads being kept under a number. -/
  | group (number : Nat) (body : Pattern)
  /-- The body at least `least` times and at most `most`; `eager` prefers more. -/
  | again (least : Nat) (most : Option Nat) (eager : Bool) (body : Pattern)
  /-- Only the first way of the body. -/
  | only (body : Pattern)
  | anchor (a : Anchor)
  /-- Whether the body matches, or does not, from here on; nothing is read. -/
  | ahead (wanted : Bool) (body : Pattern)
  /-- What a group read last. -/
  | same (fold : Bool) (number : Nat)
  deriving Repr

/-- A spot in a text, with what groups have read on the way to it, the latest first. -/
structure Spot where
  offset : Nat
  before : Option Char
  rest : Text
  groups : List (Nat × Text)
  deriving DecidableEq, Repr

namespace Spot

/-- The start of a text. -/
def start (t : Text) : Spot := ⟨0, none, t, []⟩

/-- The spot after reading `c`, which stands before `rest`. -/
def after (s : Spot) (c : Char) (rest : Text) : Spot := ⟨s.offset + 1, some c, rest, s.groups⟩

/-- The spot with what a group has read since the spot `begun`. -/
def keep (s : Spot) (number : Nat) (begun : Spot) : Spot :=
  { s with groups := (number, begun.rest.take (s.offset - begun.offset)) :: s.groups }

/-- Whether exactly one of the characters around the spot is a word character. -/
def atWordEdge (s : Spot) : Bool :=
  s.before.any isWordChar != s.rest.head?.any isWordChar

/-- Whether a condition holds at the spot. -/
def meets (s : Spot) : Anchor → Bool
  | .textStart => s.before.isNone
  | .lineStart => s.before.isNone || s.before == some '\n'
  | .textEnd => s.rest.isEmpty || s.rest == ['\n']
  | .lineEnd => s.rest.isEmpty || s.rest.head? == some '\n'
  | .veryEnd => s.rest.isEmpty
  | .wordEdge => s.atWordEdge
  | .notWordEdge => !s.atWordEdge && !(s.before.isNone && s.rest.isEmpty)

/-- The spot after one character that passes a test. -/
def readIf (s : Spot) (test : Char → Bool) : List Spot :=
  match s.rest with
  | c :: rest => if test c then [s.after c rest] else []
  | [] => []

/-- The spot after the characters of a given text. -/
def readText (fold : Bool) (s : Spot) : Text → List Spot
  | [] => [s]
  | d :: ds =>
    match s.rest with
    | c :: rest =>
      if ClassItem.holds fold c (.one d) then readText fold (s.after c rest) ds else []
    | [] => []

end Spot

/-- The ways to match a body again and again, at most `fuel` times, `count` times having been done
and the last unforced one having begun at `last`. -/
def waysAgain (body : Spot → List Spot) (least : Nat) (most : Option Nat) (eager : Bool) :
    (fuel count : Nat) → (last : Option Nat) → Spot → List Spot
  | 0, _, _, _ => []
  | fuel + 1, count, last, s =>
    if count < least then
      (body s).flatMap (waysAgain body least most eager fuel (count + 1) last)
    else
      let more :=
        if most.all (count < ·) && last != some s.offset then
          (body s).flatMap (waysAgain body least most eager fuel (count + 1) (some s.offset))
        else []
      if eager then more ++ [s] else s :: more

namespace Pattern

/-- The spots that a pattern leads to, in order of preference. -/
def ways : Pattern → Spot → List Spot
  | empty, s => [s]
  | oneOf fold negated items, s => s.readIf fun c => items.any (·.holds fold c) != negated
  | any lines, s => s.readIf fun c => lines || c != '\n'
  | seq first second, s => (first.ways s).flatMap second.ways
  | alt first second, s => first.ways s ++ second.ways s
  | group number body, s => (body.ways s).map (·.keep number s)
  | again least most eager body, s =>
    waysAgain body.ways least most eager (least + s.rest.length + 2) 0 none s
  | only body, s => (body.ways s).take 1
  | anchor a, s => if s.meets a then [s] else []
  | ahead wanted body, s =>
    match body.ways s with
    | [] => if wanted then [] else [s]
    | e :: _ => if wanted then [{ s with groups := e.groups }] else []
  | same fold number, s =>
    match s.groups.lookup number with
    | some t => s.readText fold t
    | none => []

/-- One character. -/
def char (fold : Bool) (c : Char) : Pattern := oneOf fold false [.one c]

/-- The characters of a text in turn, and then `tail`. -/
def literal (fold : Bool) (t : Text) (tail : Pattern) : Pattern :=
  t.foldr (fun c p => seq (char fold c) p) tail

end Pattern

end ExerciseSheet

import ExerciseSheet.Fault
import ExerciseSheet.Pattern.Reading

/-!
# Splitting a sheet into exercises

A sheet is cut at its markers, such as an exercise title with a number, a colon and a title in
braces. Each segment goes from its marker up to the next one or to the end, so the segments follow
one another without a gap, and only what stands before the first marker belongs to none. A title
ends at the first closing brace.
-/

namespace ExerciseSheet

/-- What segments start at, with the groups that give their number and title, if any. -/
structure Marker where
  pattern : Pattern
  number : Option Nat
  title : Option Nat
  deriving Repr

namespace Marker

/-- Any number of blanks. -/
def blanks : Pattern := .again 0 none true (.oneOf true false [.kind .blank])

/-- At least one decimal digit. -/
def digits : Pattern := .again 1 none true (.oneOf true false [.kind .digit])

/-- Any number of characters other than a closing brace. -/
def titleText : Pattern := .again 0 none true (.oneOf true true [.one '\x7d'])

/-- A number, a colon, a title and a closing brace. -/
def numberAndTitle : Pattern :=
  .seq (.group 1 digits) <| .seq blanks <| .seq (.char true ':') <|
    .seq (.group 2 titleText) (.char true '\x7d')

/-- A command with a number and a title in braces; a word may stand before the number. -/
def build (command word : Text) : Marker where
  pattern := .literal true command <| .seq (.char true '\x7b') <| .seq blanks <|
    if word.isEmpty then numberAndTitle else .literal true word (.seq blanks numberAndTitle)
  number := some 1
  title := some 2

/-- The title of an exercise. -/
def exercise : Marker := build "\\exercisetitle".toList "Exercise".toList

/-- The marker of a pattern's text. -/
def read (options : Pattern.Options) (t : Text) : Except Fault Marker :=
  match Pattern.read? options t with
  | some (p, names) => .ok ⟨p, names.lookup "number".toList, names.lookup "title".toList⟩
  | none => .error .badPattern

/-- The matches in a document that read something. -/
def places (m : Marker) (document : Text) : List Match :=
  (m.pattern.allMatches document).filter fun p => p.start < p.stop

end Marker

/-- One exercise cut out of a sheet. -/
structure Segment where
  /-- The position among the segments, from one. -/
  ordinal : Nat
  text : Text
  start : Nat
  /-- The number that the marker gives. -/
  number : Option Int
  title : Text
  deriving DecidableEq, Repr

namespace Segment

/-- Where the segment ends. -/
def stop (s : Segment) : Nat := s.start + s.text.length

/-- The number that names the segment, its own or its position. -/
def labelNumber (s : Segment) : Int := s.number.getD s.ordinal

/-- The text that names the segment. -/
def label (s : Segment) : Text := wholeText s.labelNumber

/-- What a group of a match read. -/
def groupText? (p : Match) (group : Option Nat) : Option Text :=
  group.bind fun g => p.groups.lookup g

/-- The number in a match, if it gives one. -/
def numberOf (m : Marker) (p : Match) : Except Fault (Option Int) :=
  match groupText? p m.number with
  | none => .ok none
  | some t =>
    match readWhole t with
    | .ok n => .ok (some n)
    | .error f => .error (.ofNumber t f)

/-- The segment from a match up to `stop`. -/
def ofMatch (m : Marker) (document : Text) (ordinal : Nat) (p : Match) (stop : Nat) :
    Except Fault Segment := do
  let number ← numberOf m p
  return ⟨ordinal, document.slice p.start stop, p.start, number,
    ((groupText? p m.title).getD []).trim⟩

/-- The segments from the matches on, the first of them at position `ordinal`. -/
def ofMatches (m : Marker) (document : Text) :
    (ordinal : Nat) → List Match → Except Fault (List Segment)
  | _, [] => .ok []
  | ordinal, p :: ps => do
    let stop := match ps with
      | q :: _ => q.start
      | [] => document.length
    let s ← ofMatch m document ordinal p stop
    return s :: (← ofMatches m document (ordinal + 1) ps)

/-- The segments of a document. -/
def split (m : Marker) (document : Text) : Except Fault (List Segment) :=
  ofMatches m document 1 (m.places document)

/-- The segments that carry one of the numbers, all of them when no numbers are given. Numbers and
labels are compared as texts, so every number has to be written. -/
def select (numbers : Option (List Int)) (ss : List Segment) : Except Fault (List Segment) :=
  match numbers with
  | none => .ok ss
  | some ns => do
    let wanted ← ns.mapM writeWhole
    return ss.filter fun s => wanted.contains s.label

/-- The texts of segments one after another. -/
def joined (ss : List Segment) : Text := ss.flatMap (·.text)

end Segment

end ExerciseSheet

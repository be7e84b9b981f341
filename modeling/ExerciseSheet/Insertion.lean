import ExerciseSheet.Catalog.Basic
import ExerciseSheet.MathMode.Scan
import ExerciseSheet.Text.Blank

/-!
# Inserting a snippet

A committed snippet replaces the text from the trigger up to the caret. A snippet for math only is
wrapped outside math: as display math when nothing but blanks stands on the line around it, as
inline math otherwise. Where the caret lands is chosen by the first rule that applies to the entry,
and the end of the inserted text when that rule finds nothing.
-/

namespace ExerciseSheet

/-- How a snippet is wrapped. -/
inductive WrapStyle where
  | none
  | inline
  | block
  deriving DecidableEq, Repr

namespace WrapStyle

/-- The name of a style. -/
def name : WrapStyle → Text
  | none => "none".toList
  | inline => "inline".toList
  | block => "block".toList

/-- The style of a name. -/
def ofName (t : Text) : Except Fault WrapStyle :=
  match [none, inline, block].find? (·.name == t) with
  | some s => .ok s
  | Option.none => .error (.unknownWrap t)

/-- The text before the snippet. -/
def opening : WrapStyle → Text
  | none => []
  | inline => ['$']
  | block => "\\[\n    ".toList

/-- The text after the snippet. -/
def closing : WrapStyle → Text
  | none => []
  | inline => ['$']
  | block => "\n\\]".toList

/-- The snippet in its wrapping. -/
def wrap (s : WrapStyle) (snippet : Text) : Text := s.opening ++ snippet ++ s.closing

end WrapStyle

/-- The part of the line before an offset. -/
def lineBefore (document : Text) (offset : Int) : Text :=
  ((document.upTo offset).reverse.takeWhile (· != '\n')).reverse

/-- The part of the line from an offset on. -/
def lineAfter (document : Text) (offset : Int) : Text :=
  (document.since offset).takeWhile (· != '\n')

/-- Whether nothing but blanks stands on the line before the trigger and from the caret on. -/
def isLineBlankAround (document : Text) (trigger caret : Int) : Bool :=
  (lineBefore document trigger).isAllBlank && (lineAfter document caret).isAllBlank

/-- How an entry is wrapped, given whether the trigger lies in math. -/
def wrapFor (e : Entry) (inMath : Bool) (document : Text) (trigger caret : Int) : WrapStyle :=
  if !e.requiresMath || inMath then .none
  else if isLineBlankAround document trigger caret then .block
  else .inline

/-- What chooses the caret's place. -/
inductive CursorRule where
  /-- A template's first placeholder word. -/
  | placeholder
  /-- Between the first empty braces. -/
  | emptyBraces
  /-- Where a range after a subscript starts. -/
  | subscriptRange
  /-- The end of the text. -/
  | textEnd
  deriving DecidableEq, Repr

/-- The words in a template that are there to be replaced. -/
def templateWords : List Text :=
  ["Algorithm Name".toList, "Input specification".toList, "Output specification".toList]

/-- Empty braces. -/
def emptyBraces : Text := ['\x7b', '\x7d']

/-- The start of a subscript. -/
def subscriptOpen : Text := ['_', '\x7b']

/-- The caret's place after the first empty brace, the start of the text when there is none. -/
def insideBraces (t : Text) : Nat :=
  match Text.find? emptyBraces t with
  | some i => i + 1
  | none => 0

/-- The caret's place after the first equals sign, else after the first subscript's brace, else
after the first character. -/
def afterRangeStart (t : Text) : Nat :=
  match Text.find? ['='] t, Text.find? subscriptOpen t with
  | some i, _ => i + 1
  | none, some i => i + 2
  | none, none => 1

/-- The caret's place in the final text of an entry, and the rule that chose it. -/
def cursorOffset (e : Entry) (final : Text) : CursorRule × Nat :=
  if e.isTemplate then
    match (templateWords.filterMap fun w => Text.find? w final).min? with
    | some i => (.placeholder, i)
    | none => (.textEnd, final.length)
  else if Text.has emptyBraces e.id then (.emptyBraces, insideBraces final)
  else if Text.has subscriptOpen e.id then (.subscriptRange, afterRangeStart final)
  else (.textEnd, final.length)

/-- A replacement of a stretch of a document, with the caret's place after it. -/
structure InsertionPlan where
  start : Int
  stop : Int
  text : Text
  cursor : Int
  wrap : WrapStyle
  deriving DecidableEq, Repr

namespace InsertionPlan

/-- The document after the replacement. -/
def apply (p : InsertionPlan) (document : Text) : Text := document.splice p.start p.stop p.text

/-- The plan that replaces the text from the trigger up to the caret by an entry, given whether the
trigger lies in math. A caret before the trigger counts as at it. -/
def given (inMath : Bool) (e : Entry) (document : Text) (trigger caret : Int) : InsertionPlan :=
  let caret := max caret trigger
  let style := wrapFor e inMath document trigger caret
  let final := style.wrap e.id
  ⟨trigger, caret, final, trigger + (cursorOffset e final).2, style⟩

/-- The plan for an entry, math mode being found by a scan from the start. -/
def of (e : Entry) (document : Text) (trigger caret : Int) : InsertionPlan :=
  given (isInMath document trigger) e document trigger caret

end InsertionPlan

end ExerciseSheet

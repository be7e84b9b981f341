import ExerciseSheet.Ranking

/-!
# A palette session

While the palette is open it holds the offset of its trigger, the query typed since, the entries
that match and the highlighted row. The highlight moves within the rows.
-/

namespace ExerciseSheet

/-- Keys that type no character. -/
inductive Key where
  | up
  | down
  | enter
  | tab
  | escape
  | backspace
  deriving DecidableEq, Repr

/-- The name of a key. -/
def Key.name : Key → Text
  | up => "up".toList
  | down => "down".toList
  | enter => "enter".toList
  | tab => "tab".toList
  | escape => "escape".toList
  | backspace => "backspace".toList

/-- Every key. -/
def Key.all : List Key := [.up, .down, .enter, .tab, .escape, .backspace]

/-- What a host reports as pressed: a key, or a text. -/
inductive Press where
  | key (k : Key)
  | text (t : Text)
  deriving DecidableEq, Repr

namespace Press

/-- The text that a press is compared by, a key's name for a key. -/
def spelling : Press → Text
  | key k => k.name
  | text t => t

/-- Whether a press acts as a key, as the key itself or by its name. -/
def actsAs (p : Press) (k : Key) : Bool := p.spelling == k.name

/-- Whether a press commits the highlighted row. -/
def commits (p : Press) : Bool := p.actsAs .enter || p.actsAs .tab

end Press

/-- Why a session ended. -/
inductive CloseReason where
  | committed
  | cancelled
  | dismissed
  | triggerRemoved
  | caretBeforeTrigger
  | newline
  | blankRun
  deriving DecidableEq, Repr

/-- An open palette. -/
structure Session where
  /-- The offset of the trigger in the document. -/
  trigger : Nat
  query : Text
  /-- The matches, best first. -/
  results : List Ranked
  /-- The highlighted row. -/
  index : Nat
  deriving DecidableEq, Repr

namespace Session

/-- The highlighted match. -/
def selected? (s : Session) : Option Ranked := s.results[s.index]?

/-- Moves the highlight by some rows, as far as there are rows. -/
def move (s : Session) (step : Int) : Session :=
  { s with index := (max 0 (min (s.index + step) ((s.results.length : Int) - 1))).toNat }

end Session

end ExerciseSheet

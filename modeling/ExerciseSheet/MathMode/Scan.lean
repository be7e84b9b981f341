import ExerciseSheet.Text.Basic

/-!
# Math mode

A dollar sign opens or closes inline math unless a backslash stands directly before it. A backslash
with an opening bracket opens display math and ends inline math, and one with a closing bracket
closes display math. What is open at the end of a text stays open. A scan of a text up to an offset
says what is open there and where a later scan may go on: at the offset, or one character before it
when a lone backslash stands there that may still belong to a bracket.
-/

namespace ExerciseSheet

/-- What is open after a scan, and where a later scan goes on. -/
structure ScanState where
  position : Nat
  inInline : Bool
  inBlock : Bool
  deriving DecidableEq, Repr

namespace ScanState

/-- The state at the start of every text. -/
def start : ScanState := ⟨0, false, false⟩

/-- Whether any math is open. -/
def inMath (s : ScanState) : Bool := s.inInline || s.inBlock

end ScanState

/-- Scans the text that stands at the state's position, `prev` being the character before it. -/
def scanFrom (prev : Option Char) (s : ScanState) : Text → ScanState
  | [] => s
  | ['\\'] => s
  | '\\' :: '[' :: t => scanFrom (some '[') ⟨s.position + 2, false, true⟩ t
  | '\\' :: ']' :: t => scanFrom (some ']') ⟨s.position + 2, s.inInline, false⟩ t
  | c :: t =>
    let flips := c == '$' && prev != some '\\'
    scanFrom (some c) ⟨s.position + 1, if flips then !s.inInline else s.inInline, s.inBlock⟩ t

/-- Scans a document from a state's position up to an offset, which is brought back into the
document. A state that lies at or past the offset keeps what it has open. -/
def scan (document : Text) (stop : Int) (s : ScanState) : ScanState :=
  let stop := min stop.toNat document.length
  if stop ≤ s.position then ⟨stop, s.inInline, s.inBlock⟩
  else
    let prev := if s.position = 0 then none else document[s.position - 1]?
    scanFrom prev s (document.slice s.position stop)

/-- Whether an offset of a document lies in math, by a scan from the start. -/
def isInMath (document : Text) (offset : Int) : Bool := (scan document offset .start).inMath

end ExerciseSheet

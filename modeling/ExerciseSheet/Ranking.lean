import ExerciseSheet.Catalog.Basic
import ExerciseSheet.Text.Lowercase

/-!
# Ranking entries for a query

A query is compared in lower case and without blanks at its ends. It scores 100 on a label that
contains it, 80 on one with a keyword that does, and otherwise, when the label has its characters in
order, 50 less two for each character skipped between them. An entry has the best score of its label
and of each keyword taken as a label, and the palette lists the matching entries from the best score
down, equal ones in catalog order.
-/

namespace ExerciseSheet

/-- Whether a query matches, and how well. -/
structure Score where
  isMatch : Bool
  points : Nat
  deriving DecidableEq, Repr

/-- The characters of `text` skipped between those that spell `needle`, each taken as early as
possible, or nothing when they do not all occur in order. Characters before the first one taken are
not counted; `begun` says that it has been. -/
def gapsAfter? (begun : Bool) : (needle text : Text) → Option Nat
  | [], _ => some 0
  | _ :: _, [] => none
  | n :: ns, c :: cs =>
    if n = c then gapsAfter? true ns cs
    else (gapsAfter? begun (n :: ns) cs).map fun g => if begun then g + 1 else g

/-- The characters skipped when `needle` is spelled from `text`. -/
def gaps? (needle text : Text) : Option Nat := gapsAfter? false needle text

/-- What a query looks for. -/
def needleOf (query : Text) : Text := query.lower.trim

namespace Score

/-- The score of a needle on a label in lower case and its keywords. -/
def ofNeedle (needle label : Text) (keywords : List Text) : Score :=
  if needle.isEmpty then ⟨true, 0⟩
  else if Text.has needle label then ⟨true, 100⟩
  else if keywords.any fun k => Text.has needle k.lower then ⟨true, 80⟩
  else match gaps? needle label with
    | none => ⟨false, 0⟩
    | some g => ⟨true, 50 - 2 * g⟩

/-- The score of a query on a label and its keywords. -/
def of (query label : Text) (keywords : List Text) : Score :=
  ofNeedle (needleOf query) label.lower keywords

end Score

/-- An entry with its score for a query. -/
structure Ranked where
  entry : Entry
  score : Nat
  isMatch : Bool
  deriving DecidableEq, Repr

namespace Ranked

/-- The best score that a query reaches on keywords taken as labels. -/
def bestKeyword (query : Text) (keywords : List Text) : Nat :=
  keywords.foldl (fun best k => max best (Score.of query k []).points) 0

/-- An entry scored for a query. A keyword makes the entry a match when its score is not zero. -/
def ofEntry (query : Text) (e : Entry) : Ranked :=
  let own := Score.of query e.label e.keywords
  let best := bestKeyword query e.keywords
  ⟨e, max own.points best, own.isMatch || 0 < best⟩

/-- Places an entry before those in the list that score no more. -/
def insert (r : Ranked) : List Ranked → List Ranked
  | [] => [r]
  | s :: rs => if s.score ≤ r.score then r :: s :: rs else s :: insert r rs

/-- The list from the best score down, equal ones in their order. -/
def sort (rs : List Ranked) : List Ranked := rs.foldr insert []

end Ranked

/-- The entries that match a query, from the best score down; all of them for a blank one. -/
def rank (query : Text) (entries : List Entry) : List Ranked :=
  if query.trim.isEmpty then entries.map fun e => ⟨e, 0, true⟩
  else Ranked.sort ((entries.map (Ranked.ofEntry query)).filter (·.isMatch))

end ExerciseSheet

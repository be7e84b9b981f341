import ExerciseSheet.Compiler.Log
import Mathlib.Data.List.Basic

/-!
# The place of the first error

The report of a log is its first error, and with it the first place among the seven lines below
(`firstError?_of_nextPlace`, `firstError?_of_no_place`). The search for the place passes over other
errors, so a place that is reported may belong to a later one. It is the reported error's own in
exactly those logs in which no error stands before it (`place_own_iff`).
-/

namespace ExerciseSheet

namespace CompilerLog

/-- The first error in the lines of a log, with the lines above it and below it. -/
structure FirstError (lines above : List Text) (line : Text) (below : List Text) : Prop where
  cut : lines = above ++ line :: below
  isError_above : ∀ l ∈ above, isError l = false
  isError_line : isError line = true

/-- The first place among the lines that are searched below an error, with the lines before it. -/
structure NextPlace (below between : List Text) (place : Text) : Prop where
  searched : between ++ [place] <+: below.take lookAhead
  isPlace_between : ∀ l ∈ between, isPlace l = false
  isPlace_place : isPlace place = true

/-- What a line says of its error. -/
def saying (line : Text) : Text := Text.trim (line.drop 1)

/-- The marker of the line that gives a place. -/
def markerOf (place : Text) : Text := place.takeWhile (· != ' ')

/-- The report of an error with the marker of a place. -/
def placed (error marker : Text) : Text := error ++ " (".toList ++ marker ++ [')']

/-- A marker that is reported with the first error comes from a line below it, with no other error
in between. -/
def PlaceOwn (log : Text) : Prop :=
  ∀ above line below, FirstError log.lines above line below → ∀ marker,
    firstError? log = some (placed (saying line) marker) →
      ∃ between place rest, below = between ++ place :: rest ∧ isPlace place = true
        ∧ marker = markerOf place ∧ ∀ l ∈ between, isError l = false

variable {log line place : Text} {lines above below between : List Text}

theorem firstErrorIn?_append (h : ∀ l ∈ above, isError l = false) (lines : List Text) :
    firstErrorIn? (above ++ lines) = firstErrorIn? lines := by
  induction above with
  | nil => rfl
  | cons l above ih =>
    rw [List.forall_mem_cons] at h
    rw [List.cons_append, firstErrorIn?, h.1, if_neg Bool.false_ne_true, ih h.2]

theorem firstErrorIn?_eq_none_iff : ∀ {lines : List Text},
    firstErrorIn? lines = none ↔ ∀ l ∈ lines, isError l = false
  | [] => by simp [firstErrorIn?]
  | l :: lines => by
    rw [firstErrorIn?, List.forall_mem_cons]
    split_ifs with hl
    · simp [hl]
    · rw [firstErrorIn?_eq_none_iff]
      simp [hl]

theorem FirstError.firstError? (h : FirstError log.lines above line below) :
    firstError? log = some (errorOf line below) := by
  rw [CompilerLog.firstError?, h.cut, firstErrorIn?_append h.isError_above, firstErrorIn?,
    if_pos h.isError_line]

theorem NextPlace.find? (h : NextPlace below between place) :
    (below.take lookAhead).find? isPlace = some place := by
  obtain ⟨rest, hrest⟩ := h.searched
  rw [← hrest, List.append_assoc, List.find?_append, List.find?_eq_none.2]
  · simp [h.isPlace_place]
  · simpa using h.isPlace_between

theorem exists_nextPlace (h : (below.take lookAhead).find? isPlace = some place) :
    ∃ between, NextPlace below between place := by
  obtain ⟨hplace, between, rest, hcut, hbetween⟩ := List.find?_eq_some_iff_append.1 h
  refine ⟨between, ⟨⟨rest, ?_⟩, by simpa using hbetween, hplace⟩⟩
  rw [hcut, List.append_assoc, List.singleton_append]

theorem firstError?_of_nextPlace (h : FirstError log.lines above line below)
    (hnext : NextPlace below between place) :
    firstError? log = some (placed (saying line) (markerOf place)) := by
  rw [h.firstError?, errorOf, hnext.find?]
  rfl

theorem firstError?_of_no_place (h : FirstError log.lines above line below)
    (hno : ∀ l ∈ below.take lookAhead, isPlace l = false) :
    firstError? log = some (saying line) := by
  rw [h.firstError?, errorOf, List.find?_eq_none.2 (by simpa using hno)]
  rfl

theorem placed_injective (error : Text) : Function.Injective (placed error) := by
  intro marker marker' h
  exact List.append_cancel_left (List.append_cancel_right h)

theorem placed_ne_self (error marker : Text) : placed error marker ≠ error := by
  intro h
  have hlength := congrArg List.length h
  simp only [placed, List.length_append, List.length_singleton] at hlength
  omega

/-- Of two places with no place before the first, the first does not lie further below. -/
theorem NextPlace.between_prefix {between' rest : List Text} {place' : Text}
    (h : NextPlace below between place) (hcut : below = between' ++ place' :: rest)
    (hplace' : isPlace place' = true) : between <+: between' := by
  have hbetween : between <+: below :=
    ((List.prefix_append _ _).trans h.searched).trans (List.take_prefix _ _)
  have hbetween' : between' ++ [place'] <+: below := ⟨rest, by rw [hcut]; simp⟩
  rcases Nat.lt_or_ge between'.length between.length with hlt | hle
  · -- the line of the other place would be passed over
    have hmem := List.prefix_of_prefix_length_le hbetween' hbetween
      (by rw [List.length_append]; exact hlt)
    have hnot := h.isPlace_between place' (hmem.subset (by simp))
    rw [hplace'] at hnot
    cases hnot
  · exact List.prefix_of_prefix_length_le hbetween ((List.prefix_append _ _).trans hbetween') hle

theorem PlaceOwn.isError_between (hown : PlaceOwn log)
    (h : FirstError log.lines above line below) (hnext : NextPlace below between place) :
    ∀ l ∈ between, isError l = false := by
  obtain ⟨between', place', rest, hcut, hplace', -, hno⟩ :=
    hown above line below h (markerOf place) (firstError?_of_nextPlace h hnext)
  exact fun l hl => hno l ((hnext.between_prefix hcut hplace').subset hl)

/-- The marker of a report is the reported error's own exactly when no other error stands before the
first place below. What is reported is the first error, with that place whosesoever it is. -/
theorem place_own_iff (log : Text) :
    (PlaceOwn log ↔ ∀ above line below between place, FirstError log.lines above line below →
      NextPlace below between place → ∀ l ∈ between, isError l = false)
    ∧ (firstError? log = none ↔ ∀ l ∈ log.lines, isError l = false)
    ∧ ∀ above line below, FirstError log.lines above line below →
      (∀ between place, NextPlace below between place →
        firstError? log = some (placed (saying line) (markerOf place)))
      ∧ ((∀ l ∈ below.take lookAhead, isPlace l = false) →
        firstError? log = some (saying line)) := by
  refine ⟨⟨fun hown above line below between place => hown.isError_between, ?_⟩,
    firstErrorIn?_eq_none_iff, fun above line below h =>
      ⟨fun between place => firstError?_of_nextPlace h, firstError?_of_no_place h⟩⟩
  intro hno above line below h marker hreport
  rcases hfind : (below.take lookAhead).find? isPlace with _ | place
  · have hsaying := firstError?_of_no_place h (by simpa using List.find?_eq_none.1 hfind)
    rw [hsaying, Option.some.injEq] at hreport
    exact absurd hreport.symm (placed_ne_self _ _)
  · obtain ⟨between, hnext⟩ := exists_nextPlace hfind
    rw [firstError?_of_nextPlace h hnext, Option.some.injEq] at hreport
    obtain ⟨rest, hrest⟩ := hnext.searched.trans (List.take_prefix _ _)
    refine ⟨between, place, rest, ?_, hnext.isPlace_place, (placed_injective _ hreport).symm,
      hno above line below between place h hnext⟩
    rw [← hrest, List.append_assoc, List.singleton_append]

/-- An error without a place is reported with the place of the error after it. -/
theorem not_placeOwn_second_error : ¬ PlaceOwn "! A\n! B\nl.5 x".toList := by
  intro hown
  have hfirst : FirstError (Text.lines "! A\n! B\nl.5 x".toList) [] "! A".toList
      ["! B".toList, "l.5 x".toList] :=
    ⟨by decide +kernel, by simp, by decide +kernel⟩
  have hnext : NextPlace ["! B".toList, "l.5 x".toList] ["! B".toList] "l.5 x".toList :=
    ⟨⟨[], rfl⟩, by decide +kernel, by decide +kernel⟩
  have hno := hown.isError_between hfirst hnext "! B".toList List.mem_cons_self
  revert hno
  decide +kernel

end CompilerLog

end ExerciseSheet

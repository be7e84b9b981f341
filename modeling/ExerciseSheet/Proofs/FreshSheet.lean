import ExerciseSheet.Proofs.Decimal
import ExerciseSheet.Proofs.Marking
import ExerciseSheet.Proofs.Trimming
import ExerciseSheet.Starter

/-!
# The exercise on a fresh sheet

A starter spells one marker and its body spells none (`spells_body`). A marker's title ends at the
first closing brace, and that is the body's first character (`exists_body_eq_cons`) unless the title
holds one. So a fresh sheet is one exercise with the number and the title it was given, even when
the title spells a marker itself (`split_renderNamed`).
-/

namespace ExerciseSheet

variable {mode : SheetMode} {n : Nat} {number title rest : Text}

namespace Marker

/-- The command of an exercise's title. -/
def exerciseCommand : Text :=
  ['\\', 'e', 'x', 'e', 'r', 'c', 'i', 's', 'e', 't', 'i', 't', 'l', 'e']

/-- The word before an exercise's number. -/
def exerciseWord : Text := ['E', 'x', 'e', 'r', 'c', 'i', 's', 'e']

theorem exercise_eq_build : exercise = build exerciseCommand exerciseWord := by
  rw [exercise, String.toList_ofList, String.toList_ofList]
  rfl

end Marker

namespace Starter

open Marker

/-- What follows the title on a fresh sheet names no exercise. -/
theorem spells_body (mode : SheetMode) : spells exerciseCommand (body mode) = false := by
  have hbreak : exerciseCommand.all (fun x => !alikeButCase '\n' x) = true := rfl
  simp only [List.all_eq_true, Bool.not_eq_true'] at hbreak
  cases mode
  all_goals
    simp only [body, reviewBody, solutionBody]
    refine spells_ofLines (List.cons_ne_nil _ _) hbreak ?_
    -- a line at a time, each as the list of its characters: its octets are slow to decode
    simp only [List.forall_mem_cons]
    repeat' apply And.intro
    all_goals first
    | exact spells_toList rfl rfl
    | exact spells_append_toList rfl rfl rfl
    | exact List.forall_mem_nil _

/-- The brace that closes the title comes first in the body. -/
theorem exists_body_eq_cons (mode : SheetMode) : ∃ rest, body mode = '\x7d' :: rest := by
  cases mode
  all_goals
    simp only [body, reviewBody, solutionBody, Text.ofLines, List.map_cons]
    rw [Text.join, String.toList_ofList]
    · exact ⟨_, rfl⟩
    · exact List.cons_ne_nil _ _

/-- The document with an exercise's marker in its second line. -/
def withMarker (number title rest : Text) : Text :=
  '\n' :: (exerciseCommand ++ '\x7b' :: (exerciseWord ++ ([' '] ++ (number ++ ':' ::
    (' ' :: title ++ '\x7d' :: rest)))))

theorem render_eq_withMarker (h : body mode = '\x7d' :: rest) :
    render mode number title = withMarker number title rest := by
  have hopening : "\n\\exercisetitle\x7bExercise ".toList
      = '\n' :: (exerciseCommand ++ '\x7b' :: (exerciseWord ++ [' '])) := String.toList_ofList
  have hcolon : ": ".toList = [':', ' '] := String.toList_ofList
  change "\n\\exercisetitle\x7bExercise ".toList ++ number ++ ": ".toList ++ title ++ body mode = _
  rw [hopening, hcolon, h, withMarker]
  simp only [List.cons_append, List.append_assoc, List.nil_append]

/-- A fresh sheet's marker, as it is written. -/
def marking (hne : number ≠ []) (hnumber : ∀ c ∈ number, c.isDigit = true)
    (htitle : '\x7d' ∉ title) : Marking exerciseCommand exerciseWord where
  spelled := exerciseCommand
  lead := []
  label := exerciseWord
  gap := [' ']
  number := number
  tail := []
  title := ' ' :: title
  spelled_alike := alikeTexts_self _
  lead_blank := by simp
  label_alike := alikeTexts_self _
  gap_blank := List.forall_mem_singleton.2 rfl
  gap_of_no_word := fun h => absurd h (List.cons_ne_nil _ _)
  number_ne_nil := hne
  number_digits := fun c hc => isDecimalDigit_of_isDigit (hnumber c hc)
  tail_blank := by simp
  brace_not_mem_title := List.not_mem_cons_of_ne_of_not_mem (by decide) htitle

/-- The marker in the second line is read with the number and the title written in it. -/
theorem prefers_withMarker (rest : Text) (hne : number ≠ [])
    (hnumber : ∀ c ∈ number, c.isDigit = true) (htitle : '\x7d' ∉ title) :
    ∃ stop, 1 < stop ∧ (build exerciseCommand exerciseWord).pattern.Prefers
      ⟨1, some '\n', (withMarker number title rest).tail, []⟩
      ⟨stop, some '\x7d', rest, [(2, ' ' :: title), (1, number)]⟩ := by
  have hword : ∀ c ∈ exerciseWord.head?, isBlank c = false := by
    rintro _ ⟨⟩
    rfl
  refine ⟨_, ?_, prefers_build (marking hne hnumber htitle) hword ?_⟩
  · have := (marking hne hnumber htitle).length_text
    simp only
    omega
  · rw [Marking.text_append]
    rfl

/-- The marker in the second line is the only match, if its command is not spelled behind it. -/
theorem places_withMarker (hne : number ≠ []) (hnumber : ∀ c ∈ number, c.isDigit = true)
    (htitle : '\x7d' ∉ title) (hrest : spells exerciseCommand rest = false) :
    ∃ stop, exercise.places (withMarker number title rest)
      = [⟨1, stop, [(2, ' ' :: title), (1, number)]⟩] := by
  obtain ⟨stop, hstop, hmarker⟩ := prefers_withMarker rest hne hnumber htitle
  refine ⟨stop, ?_⟩
  have hfound : exercise.pattern.allMatches (withMarker number title rest)
      = [⟨1, stop, [(2, ' ' :: title), (1, number)]⟩] := by
    rw [exercise_eq_build, Pattern.allMatches,
      Pattern.matchesFrom_of_no_way (ways_build_eq_nil rfl) rfl]
    refine (Pattern.matchesFrom_of_prefers hmarker hstop).trans (congrArg _ ?_)
    exact matchesFrom_build_eq_nil hrest
  rw [places, hfound]
  exact List.filter_cons_of_pos (decide_eq_true hstop)

theorem split_withMarker (hn : (naturalText n).length ≤ digitLimit) (htitle : '\x7d' ∉ title)
    (hrest : spells exerciseCommand rest = false) :
    Segment.split exercise (withMarker (naturalText n) title rest)
      = .ok [⟨1, (withMarker (naturalText n) title rest).drop 1, 1, some n, title.trim⟩] := by
  obtain ⟨stop, hplaces⟩ :=
    places_withMarker (naturalText_ne_nil n) (isDigit_naturalText n) htitle hrest
  have hnumber : Segment.numberOf exercise ⟨1, stop, [(2, ' ' :: title), (1, naturalText n)]⟩
      = .ok (some n) := by
    have hgroup : Segment.groupText? ⟨1, stop, [(2, ' ' :: title), (1, naturalText n)]⟩
        exercise.number = some (naturalText n) := rfl
    have hread := readWhole_wholeText (n := n) hn
    rw [wholeText_natCast] at hread
    simp only [Segment.numberOf, hgroup, hread]
  have hspace : ∀ c ∈ [' '], isBlank c = true := List.forall_mem_singleton.2 (by decide)
  have htrim : ((Segment.groupText? ⟨1, stop, [(2, ' ' :: title), (1, naturalText n)]⟩
      exercise.title).getD []).trim = title.trim := trim_blank_append hspace title
  rw [Segment.split, hplaces, Segment.ofMatches, Segment.ofMatch, hnumber, htrim]
  simp only [bind, Except.bind, pure, Except.pure, Segment.ofMatches, Text.slice, List.take_length]

theorem modeOf?_name (mode : SheetMode) : modeOf? mode.name = some mode := by
  cases mode <;> decide +kernel

/-- The values for a starter's number and its title. -/
def given (n : Nat) (title : Text) : List (Text × Json) :=
  [("exercise_number".toList, .whole n), ("title".toList, .text title)]

theorem lookup_given (n : Nat) (title : Text) :
    (given n title).lookup "exercise_number".toList = some (.whole n)
      ∧ (given n title).lookup "title".toList = some (.text title)
      ∧ (given n title).lookup "mode".toList = none
      ∧ (given n title).lookup "self".toList = none := by
  simp [given, List.lookup_cons]

theorem renderNamed_given (mode : SheetMode) (n : Nat) (title : Text) :
    renderNamed mode.name (given n title) = .ok (render mode (wholeText n) title) := by
  obtain ⟨hnumber, htitle, hmode, hself⟩ := lookup_given n title
  unfold renderNamed ofValues
  simp only [hnumber, htitle, hmode, hself, modeOf?_name]
  rfl

/-- A fresh sheet is one exercise with the number and the title that it was given, whatever the
title spells before its closing brace. -/
theorem split_renderNamed (mode : SheetMode) {n : Nat} (hn : n < 10 ^ 4300) {title : Text}
    (htitle : '\x7d' ∉ title) :
    ∃ document, renderNamed mode.name (given n title) = .ok document
      ∧ Segment.split exercise document
          = .ok [⟨1, document.drop 1, 1, some n, title.trim⟩] := by
  obtain ⟨rest, hbody⟩ := exists_body_eq_cons mode
  have hrest : spells exerciseCommand rest = false := by
    have h := spells_body mode
    rw [hbody, spells, Bool.or_eq_false_iff] at h
    exact h.2
  have hshort : (naturalText n).length ≤ 4300 :=
    (length_naturalText_le_iff n 4300 (by decide)).2 hn
  refine ⟨_, ?_, split_withMarker hshort htitle hrest⟩
  rw [renderNamed_given, wholeText_natCast, render_eq_withMarker hbody]

/-- A title that itself spells a marker, up to where that one would close. -/
theorem split_renderNamed_marker_in_title :
    7 < 10 ^ 4300 ∧ '\x7d' ∉ "\n\\exercisetitle\x7bExercise 2: x".toList
      ∧ ∃ document,
        renderNamed SheetMode.solution.name
            (given 7 "\n\\exercisetitle\x7bExercise 2: x".toList) = .ok document
        ∧ Segment.split exercise document = .ok [⟨1, document.drop 1, 1, some 7,
            Text.trim "\n\\exercisetitle\x7bExercise 2: x".toList⟩] := by
  have hn : 7 < 10 ^ 4300 :=
    (length_naturalText_le_iff 7 4300 (by decide)).1 (by decide)
  have htitle : '\x7d' ∉ "\n\\exercisetitle\x7bExercise 2: x".toList := by decide +kernel
  exact ⟨hn, htitle, split_renderNamed .solution hn htitle⟩

end Starter

end ExerciseSheet

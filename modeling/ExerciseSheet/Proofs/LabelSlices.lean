import ExerciseSheet.Proofs.Hits
import ExerciseSheet.Proofs.LowerInPlace
import ExerciseSheet.Proofs.Needle

/-!
# Finding a label by a part of it

A part of a label that is typed as a query finds the label as long as its capital sigmas read alike
in the query and in the label. A sigma that ends the query but not the word in the label is final in
the one and plain in the other, and then the label is not found. A query finds every label that it
is a part of exactly when no surroundings change what its sigmas read (`slice_finds_label`).
-/

namespace ExerciseSheet

variable {query : Text}

namespace Score

theorem of_eq_hundred_iff (h : query.isAllBlank = false) (label : Text) (keywords : List Text) :
    Score.of query label keywords = ⟨true, 100⟩ ↔ needleOf query <:+: label.lower := by
  have hne : needleOf query ≠ [] := by
    rw [Ne, needleOf_eq_nil_iff, h]
    exact Bool.false_ne_true
  constructor
  · intro hscore
    have hpoints : 100 ≤ (ofNeedle (needleOf query) label.lower keywords).points :=
      Nat.le_of_eq (congrArg Score.points hscore).symm
    exact (hundred_le_points_iff hne).1 hpoints
  · exact ofNeedle_of_label hne

/-- A part whose sigmas read alike stands in the lower-cased label as it is typed. -/
theorem needleOf_infix_lower {before after : Text} (halike : ReadsAlike before query after) :
    needleOf query <:+: (before ++ query ++ after).lower := by
  rw [lower_append_append, readsAlike_iff.1 halike]
  exact (trim_infix_self query.lower).trans (List.infix_append _ _ _)

theorem readsAlike_of_found_behind_letter (h : needleOf query <:+: Text.lower ('a' :: query)) :
    ReadsAlike ['a'] query [] := by
  have hlower : Text.lower ('a' :: query) = 'a' :: Text.lowerBetween ['a'] query [] := by
    have := lower_append_append ['a'] query []
    rwa [List.append_nil, Text.lowerAfter, List.append_nil] at this
  have hcount := h.sublist.count_le 'σ'
  rw [needleOf, count_trim (by decide), hlower, List.count_cons_of_ne (by decide)] at hcount
  exact readsAlike_iff.2 (eq_of_sigmaLe (lowerBetween_letter_sigmaLe query) (.inl hcount))

theorem readsAlike_of_found_before_letter (h : needleOf query <:+: Text.lower (query ++ ['a'])) :
    ReadsAlike [] query ['a'] := by
  have hlower : Text.lower (query ++ ['a']) = Text.lowerBetween [] query ['a'] ++ ['a'] :=
    lower_append_append [] query ['a']
  have hcount := h.sublist.count_le 'ς'
  rw [needleOf, count_trim (by decide), hlower, List.count_append,
    show List.count 'ς' ['a'] = 0 by decide, Nat.add_zero] at hcount
  exact readsAlike_iff.2 (eq_of_sigmaLe (lower_sigmaLe_lowerBetween query) (.inr hcount)).symm

/-- A part of a label finds it, whatever the keywords, when its capital sigmas read alike in the
query and in the label. It finds every label that it is a part of exactly when they read alike in
all surroundings. -/
theorem slice_finds_label (h : query.isAllBlank = false) :
    (∀ before after keywords, ReadsAlike before query after →
        Score.of query (before ++ query ++ after) keywords = ⟨true, 100⟩)
      ∧ ∀ keywords,
        (∀ before after, Score.of query (before ++ query ++ after) keywords = ⟨true, 100⟩)
          ↔ ∀ before after, ReadsAlike before query after := by
  have hfound : ∀ before after keywords, ReadsAlike before query after →
      Score.of query (before ++ query ++ after) keywords = ⟨true, 100⟩ :=
    fun before after keywords halike => (of_eq_hundred_iff h _ _).2 (needleOf_infix_lower halike)
  refine ⟨hfound, fun keywords => ⟨fun hall => ?_, fun halike before after =>
    hfound before after keywords (halike before after)⟩⟩
  have hbefore := (of_eq_hundred_iff h _ _).1 (hall ['a'] [])
  have hafter := (of_eq_hundred_iff h _ _).1 (hall [] ['a'])
  rw [List.append_nil] at hbefore
  exact readsAlike_everywhere (readsAlike_of_found_behind_letter hbefore)
    (readsAlike_of_found_before_letter hafter)

/-- A sigma at the end of the query that stays within its word is plain in both. -/
theorem slice_finds_label_of_second_sigma :
    Text.isAllBlank ['Σ', 'Η'] = false ∧ ReadsAlike ['Β', 'Α'] ['Σ', 'Η'] []
      ∧ Score.of ['Σ', 'Η'] ['Β', 'Α', 'Σ', 'Η'] [] = ⟨true, 100⟩ := by
  have halike : ReadsAlike ['Β', 'Α'] ['Σ', 'Η'] [] := readsAlike_iff.2 (by decide +kernel)
  exact ⟨by decide, halike, (slice_finds_label (by decide)).1 ['Β', 'Α'] [] [] halike⟩

/-- A label is not found by its first letters up to a capital sigma. -/
theorem slice_misses_label_at_sigma :
    Text.slice ['Β', 'Α', 'Σ', 'Η'] 0 3 = ['Β', 'Α', 'Σ']
      ∧ Text.isAllBlank ['Β', 'Α', 'Σ'] = false
      ∧ Score.of ['Β', 'Α', 'Σ'] ['Β', 'Α', 'Σ', 'Η'] [] = ⟨false, 0⟩ := by
  decide +kernel

end Score

end ExerciseSheet

import ExerciseSheet.Proofs.FreshSheet

/-!
# Starters that nobody has touched

Trimming keeps the visible characters of a text (`count_trim`). So a text around a starter that is
trimmed to the same starter has no visible character of its own; and it is not trimmed to another
mode's starter, because each starter has a character that no other has (`ownChar_mem_default_iff`).
What is taken for untouched is therefore a starter with nothing but blanks around it
(`isUntouched_around_iff`).
-/

namespace ExerciseSheet

variable {c : Char} {s : String} {t : Text} {before after : Text}

theorem mem_join_iff {sep : Text} (hsep : c ∉ sep) : ∀ {ts : List Text},
    c ∈ Text.join sep ts ↔ ∃ t ∈ ts, c ∈ t
  | [] => by simp [Text.join]
  | [t] => by simp [Text.join]
  | t :: u :: ts => by
    have ih : c ∈ Text.join sep (u :: ts) ↔ ∃ v ∈ u :: ts, c ∈ v := mem_join_iff hsep
    simp only [Text.join, List.mem_append, ih, hsep, or_false, List.mem_cons, exists_eq_or_imp]

theorem mem_ofLines_iff (hc : c ≠ '\n') {ls : List String} :
    c ∈ Text.ofLines ls ↔ ∃ l ∈ ls, c ∈ l.toList := by
  rw [Text.ofLines, mem_join_iff (by simpa using hc)]
  simp

theorem not_mem_toList (hs : s = String.ofList t) (h : t.contains c = false) : c ∉ s.toList := by
  rw [hs, String.toList_ofList]
  simpa using h

theorem not_mem_append_toList {r : String} {u : Text} (hs : s = String.ofList t)
    (hr : r = String.ofList u) (h : (t ++ u).contains c = false) : c ∉ (s ++ r).toList := by
  rw [hs, hr, String.toList_append, String.toList_ofList, String.toList_ofList]
  simpa using h

namespace Starter

variable {mode : SheetMode}

/-- A character that only the mode's own starter has. -/
def ownChar : SheetMode → Char
  | .review => '7'
  | .solution => '['

theorem isBlank_ownChar (mode : SheetMode) : isBlank (ownChar mode) = false := by
  cases mode <;> rfl

theorem ownChar_mem_body (mode : SheetMode) : ownChar mode ∈ body mode := by
  cases mode
  · exact (mem_ofLines_iff (by decide)).2 ⟨"\\score\x7b7\x7d\x7b10\x7d", by simp, by decide⟩
  · exact (mem_ofLines_iff (by decide)).2 ⟨"\\[", by simp, by decide⟩

theorem ownChar_not_mem_body {other : SheetMode} (h : mode ≠ other) :
    ownChar mode ∉ body other := by
  rcases mode with _ | _ <;> rcases other with _ | _ <;> try exact absurd rfl h
  all_goals
    simp only [body, reviewBody, solutionBody, ownChar]
    rw [mem_ofLines_iff (by decide)]
    simp only [not_exists, not_and]
    -- a line at a time, each as the list of its characters: its octets are slow to decode
    simp only [List.forall_mem_cons]
    repeat' apply And.intro
    all_goals first
    | exact not_mem_toList rfl (by decide +kernel)
    | exact not_mem_append_toList rfl rfl (by decide +kernel)
    | exact List.forall_mem_nil _

/-- A character that is a starter's own is in no other starter. -/
theorem ownChar_mem_default_iff {other : SheetMode} :
    ownChar mode ∈ default other ↔ mode = other := by
  have htitle : ownChar mode ∉ "\n\\exercisetitle\x7bExercise ".toList ++ defaultNumber
      ++ ": ".toList ++ defaultTitle := by
    simp only [List.mem_append, not_or]
    cases mode
    all_goals exact ⟨⟨⟨not_mem_toList rfl (by decide), by decide⟩,
      not_mem_toList rfl (by decide)⟩, not_mem_toList rfl (by decide)⟩
  change ownChar mode ∈ _ ++ body other ↔ _
  rw [List.mem_append, or_iff_right htitle]
  constructor
  · exact fun hmem => not_not.1 fun hne => ownChar_not_mem_body hne hmem
  · rintro rfl
    exact ownChar_mem_body mode

theorem renderNamed_name (mode : SheetMode) : renderNamed mode.name [] = .ok (default mode) := by
  unfold renderNamed
  rw [modeOf?_name]
  rfl

theorem isUntouched_iff : isUntouched t = true ↔ ∃ mode, (default mode).trim = t.trim := by
  rw [isUntouched, List.any_eq_true]
  constructor
  · rintro ⟨mode, -, h⟩
    exact ⟨mode, beq_iff_eq.1 h⟩
  · rintro ⟨mode, h⟩
    exact ⟨mode, by cases mode <;> decide, beq_iff_eq.2 h⟩

/-- What is around a starter in a text that is trimmed to a starter. -/
theorem all_isBlank_around {other : SheetMode}
    (h : (default other).trim = Text.trim (before ++ default mode ++ after)) :
    before.isAllBlank = true ∧ after.isAllBlank = true := by
  have hcount : ∀ c, isBlank c = false → List.count c (default other)
      = List.count c before + List.count c (default mode) + List.count c after := by
    intro c hc
    have := congrArg (List.count c) h
    rwa [count_trim hc, count_trim hc, List.count_append, List.count_append] at this
  have hmode : mode = other := by
    rw [← ownChar_mem_default_iff, ← List.count_pos_iff, hcount _ (isBlank_ownChar mode)]
    have := List.count_pos_iff.2 (ownChar_mem_default_iff.2 (rfl : mode = mode))
    omega
  subst hmode
  have hno : ∀ c, isBlank c = false → c ∉ before ∧ c ∉ after := by
    intro c hc
    have := hcount c hc
    rw [← List.count_eq_zero, ← List.count_eq_zero]
    omega
  simp only [Text.isAllBlank, List.all_eq_true]
  constructor
  · exact fun c hc => Bool.of_not_eq_false fun hvisible => (hno c hvisible).1 hc
  · exact fun c hc => Bool.of_not_eq_false fun hvisible => (hno c hvisible).2 hc

/-- A text around a starter of the usual values is taken for untouched exactly when nothing but
blanks is around it. -/
theorem isUntouched_around_iff (mode : SheetMode) :
    ∃ starter, renderNamed mode.name [] = .ok starter
      ∧ ∀ before after, isUntouched (before ++ starter ++ after) = true
        ↔ before.isAllBlank = true ∧ after.isAllBlank = true := by
  refine ⟨_, renderNamed_name mode, fun before after => ?_⟩
  rw [isUntouched_iff]
  constructor
  · rintro ⟨other, h⟩
    exact all_isBlank_around h
  · simp only [Text.isAllBlank, List.all_eq_true]
    rintro ⟨hbefore, hafter⟩
    exact ⟨mode, by rw [trim_append_blank hafter, trim_blank_append hbefore]⟩

end Starter
end ExerciseSheet

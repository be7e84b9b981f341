import ExerciseSheet.Proofs.Landing
import ExerciseSheet.Proofs.Seam

/-!
# The caret's target

None of the texts that the caret's place is found by begins in a wrapping or reaches into one
(`Interior`), so a search finds them in the wrapped snippet where it finds them in the snippet,
moved on by the opening (`find?_wrap`). The rule that chooses the caret's place is therefore the
same whatever the wrapping, and so is the character that it points at (`cursorOffset_wrap`): a
placeholder of a template, the first of all that occur (`cursorOffset_eq_placeholder_iff`), the
inside of the first empty braces, the start of a range, or the end of what is inserted.
-/

namespace ExerciseSheet

variable {pat t : Text} {e : Entry} {i : Nat}

namespace WrapStyle

/-- The characters that wrappings are made of. -/
def marks : Text := ['$', '\\', '[', '\n', ' ', ']']

variable {c : Char} {s : WrapStyle}

theorem wrap_none (t : Text) : none.wrap t = t := List.append_nil t

theorem mem_marks_of_mem_opening (h : c ∈ s.opening) : c ∈ marks := by
  cases s with
  | none => cases h
  | inline =>
    rw [opening_inline] at h
    exact (by decide : ['$'] ⊆ marks) h
  | block =>
    rw [opening_block] at h
    exact (by decide : ['\\', '[', '\n', ' ', ' ', ' ', ' '] ⊆ marks) h

theorem mem_marks_of_mem_closing (h : c ∈ s.closing) : c ∈ marks := by
  cases s with
  | none => cases h
  | inline =>
    rw [closing_inline] at h
    exact (by decide : ['$'] ⊆ marks) h
  | block =>
    rw [closing_block] at h
    exact (by decide : ['\n', '\\', ']'] ⊆ marks) h

end WrapStyle

/-- The text begins with no character of a wrapping and holds none with which a closing begins. -/
structure Interior (pat : Text) : Prop where
  head : ∃ c pat', pat = c :: pat' ∧ c ∉ WrapStyle.marks
  no_dollar : '$' ∉ pat
  no_newline : '\n' ∉ pat

namespace Interior

variable (h : Interior pat)
include h

theorem ne_nil : pat ≠ [] := by
  obtain ⟨c, pat', rfl, -⟩ := h.head
  exact List.cons_ne_nil c pat'

theorem passes {u : Text} (hu : ∀ c ∈ u, c ∈ WrapStyle.marks) : Passes pat u := by
  obtain ⟨c, pat', rfl, hc⟩ := h.head
  exact passes_of_head_not_mem fun hmem => hc (hu c hmem)

theorem apart_closing {s : WrapStyle} (hs : s ≠ .none) : Apart pat s.closing where
  barred := by
    cases s with
    | none => exact absurd rfl hs
    | inline => exact ⟨'$', rfl, fun hmem => h.no_dollar (List.mem_of_mem_tail hmem)⟩
    | block =>
      rw [WrapStyle.closing_block]
      exact ⟨'\n', rfl, fun hmem => h.no_newline (List.mem_of_mem_tail hmem)⟩
  passes := h.passes fun _ => WrapStyle.mem_marks_of_mem_closing

theorem find?_wrap (s : WrapStyle) (t : Text) :
    Text.find? pat (s.wrap t) = (Text.find? pat t).map (s.lead + ·) := by
  by_cases hs : s = .none
  · rw [hs, WrapStyle.wrap_none]
    simp [WrapStyle.lead]
  · rw [← WrapStyle.length_opening]
    exact find?_between h.ne_nil (h.passes fun _ => WrapStyle.mem_marks_of_mem_opening)
      (h.apart_closing hs) t

end Interior

theorem interior_of_mem_templateWords : ∀ w ∈ templateWords, Interior w := by
  have hword : ∀ c pat', c ∉ WrapStyle.marks → '$' ∉ c :: pat' → '\n' ∉ c :: pat' →
      Interior (c :: pat') :=
    fun c pat' hc hdollar hnewline => ⟨⟨c, pat', rfl, hc⟩, hdollar, hnewline⟩
  intro w hw
  simp only [templateWords, List.mem_cons, List.not_mem_nil, or_false] at hw
  rcases hw with rfl | rfl | rfl
  all_goals exact hword _ _ (by decide) (by decide) (by decide)

theorem interior_emptyBraces : Interior emptyBraces :=
  ⟨⟨_, _, rfl, by decide⟩, by decide, by decide⟩

theorem interior_subscriptOpen : Interior subscriptOpen :=
  ⟨⟨_, _, rfl, by decide⟩, by decide, by decide⟩

theorem interior_equals : Interior ['='] := ⟨⟨_, _, rfl, by decide⟩, by decide, by decide⟩

section Rules

variable (s : WrapStyle)

theorem insideBraces_wrap (h : emptyBraces <:+: t) :
    insideBraces (s.wrap t) = s.lead + insideBraces t := by
  unfold insideBraces
  rw [interior_emptyBraces.find?_wrap]
  rcases hfind : Text.find? emptyBraces t with _ | i
  · exact absurd h (find?_eq_none_iff.1 hfind)
  · rfl

theorem afterRangeStart_wrap (h : subscriptOpen <:+: t) :
    afterRangeStart (s.wrap t) = s.lead + afterRangeStart t := by
  unfold afterRangeStart
  rw [interior_equals.find?_wrap, interior_subscriptOpen.find?_wrap]
  rcases Text.find? ['='] t with _ | i
  · rcases hfind : Text.find? subscriptOpen t with _ | i
    · exact absurd h (find?_eq_none_iff.1 hfind)
    · rfl
  · rfl

theorem min?_map_add (k : Nat) (l : List Nat) : (l.map (k + ·)).min? = l.min?.map (k + ·) := by
  rcases h : l.min? with _ | i
  · rw [List.min?_eq_none_iff.1 h]
    rfl
  · obtain ⟨hmem, hle⟩ := List.min?_eq_some_iff.1 h
    refine List.min?_eq_some_iff.2 ⟨List.mem_map_of_mem hmem, fun b hb => ?_⟩
    obtain ⟨j, hj, rfl⟩ := List.mem_map.1 hb
    exact Nat.add_le_add_left (hle j hj) k

theorem firstPlaceholder_wrap (t : Text) :
    (templateWords.filterMap fun w => Text.find? w (s.wrap t)).min?
      = (templateWords.filterMap fun w => Text.find? w t).min?.map (s.lead + ·) := by
  rw [← min?_map_add, List.map_filterMap]
  exact congrArg List.min? (List.filterMap_congr fun w hw =>
    (interior_of_mem_templateWords w hw).find?_wrap s t)

/-- A wrapping moves the caret's place on by its opening, unless that is the end of the text. -/
theorem cursorOffset_wrap (e : Entry) : cursorOffset e (s.wrap e.id)
    = if (cursorOffset e e.id).1 = .textEnd then (.textEnd, (s.wrap e.id).length)
      else ((cursorOffset e e.id).1, s.lead + (cursorOffset e e.id).2) := by
  unfold cursorOffset
  -- the bare snippet chooses the rule on both sides
  by_cases htemplate : e.isTemplate = true
  · simp only [if_pos htemplate, firstPlaceholder_wrap]
    rcases (templateWords.filterMap fun w => Text.find? w e.id).min? with _ | i <;> rfl
  simp only [if_neg htemplate]
  by_cases hbraces : Text.has emptyBraces e.id = true
  · simp only [if_pos hbraces, insideBraces_wrap s (has_iff.1 hbraces)]
    rfl
  simp only [if_neg hbraces]
  by_cases hsub : Text.has subscriptOpen e.id = true
  · simp only [if_pos hsub, afterRangeStart_wrap s (has_iff.1 hsub)]
    rfl
  · simp only [if_neg hsub]
    rfl

end Rules

section Placeholder

/-- The first of the words that occur begins where the least of the offsets of their first
occurrences is. -/
theorem min?_find?_eq_some_iff {words : List Text} :
    (words.filterMap fun w => Text.find? w t).min? = some i
      ↔ IsLeast {j | ∃ w ∈ words, w <+: t.drop j} i := by
  simp only [List.min?_eq_some_iff, List.mem_filterMap]
  constructor
  · rintro ⟨⟨w, hw, hfind⟩, hle⟩
    refine ⟨⟨w, hw, (find?_eq_some_iff.1 hfind).1⟩, ?_⟩
    rintro j ⟨v, hv, hj⟩
    obtain ⟨k, hk, hfind⟩ := exists_find?_le hj
    exact Nat.le_trans (hle k ⟨v, hv, hfind⟩) hk
  · rintro ⟨⟨w, hw, hi⟩, hle⟩
    refine ⟨⟨w, hw, ?_⟩, ?_⟩
    · obtain ⟨k, hk, hfind⟩ := exists_find?_le hi
      rwa [Nat.le_antisymm (hle ⟨w, hw, (find?_eq_some_iff.1 hfind).1⟩) hk]
    · rintro b ⟨v, hv, hfind⟩
      exact hle ⟨v, hv, (find?_eq_some_iff.1 hfind).1⟩

theorem cursorOffset_eq_placeholder_iff (h : e.isTemplate = true) :
    cursorOffset e t = (.placeholder, i)
      ↔ IsLeast {j | ∃ w ∈ templateWords, w <+: t.drop j} i := by
  rw [← min?_find?_eq_some_iff, cursorOffset, if_pos h]
  rcases (templateWords.filterMap fun w => Text.find? w t).min? with _ | k <;> simp

theorem cursorOffset_eq_textEnd_iff (h : e.isTemplate = true) :
    cursorOffset e t = (.textEnd, t.length) ↔ ∀ w ∈ templateWords, ¬ w <:+: t := by
  have hnone : (templateWords.filterMap fun w => Text.find? w t).min? = none
      ↔ ∀ w ∈ templateWords, ¬ w <:+: t := by
    simp only [List.min?_eq_none_iff, List.filterMap_eq_nil_iff, find?_eq_none_iff]
  rw [← hnone, cursorOffset, if_pos h]
  rcases (templateWords.filterMap fun w => Text.find? w t).min? with _ | k <;> simp

end Placeholder

namespace InsertionPlan

theorem given_cursor_bounds (inMath : Bool) (e : Entry) (document : Text) (trigger caret : Int) :
    (given inMath e document trigger caret).start ≤ (given inMath e document trigger caret).cursor
      ∧ (given inMath e document trigger caret).cursor
        ≤ (given inMath e document trigger caret).start
          + (given inMath e document trigger caret).text.length := by
  have hle := cursorOffset_le e (given inMath e document trigger caret).wrap
  rw [← given_text] at hle
  have hcursor : (given inMath e document trigger caret).cursor
      = trigger + (cursorOffset e (given inMath e document trigger caret).text).2 := rfl
  rw [given_start, hcursor]
  omega

theorem length_apply_given (inMath : Bool) (e : Entry) {document : Text} {trigger : Nat}
    (h : trigger ≤ document.length) (caret : Nat) :
    ((given inMath e document trigger caret).apply document).length
      = trigger + (given inMath e document trigger caret).text.length
        + (document.length - max caret trigger) := by
  rw [apply_given, given_text, List.length_append, List.length_append, List.length_take_of_le h,
    List.length_drop]

end InsertionPlan

/-- The caret's place in a wrapped snippet is that in the snippet, moved on by the opening, or the
end of what is inserted where it is the end of the snippet. A template has it at the first
placeholder, or at its end when it has none. So whatever the document, the offsets and the answer
about math, a plan has its caret in what it inserts, and in the document that it leaves. -/
theorem caret_target (e : Entry) :
    (∀ s : WrapStyle, cursorOffset e (s.wrap e.id)
        = if (cursorOffset e e.id).1 = .textEnd then (.textEnd, (s.wrap e.id).length)
          else ((cursorOffset e e.id).1, s.lead + (cursorOffset e e.id).2))
      ∧ (e.isTemplate = true →
        (∀ i, cursorOffset e e.id = (.placeholder, i)
            ↔ IsLeast {j | ∃ w ∈ templateWords, w <+: e.id.drop j} i)
          ∧ (cursorOffset e e.id = (.textEnd, e.id.length)
            ↔ ∀ w ∈ templateWords, ¬ w <:+: e.id))
      ∧ (∀ (inMath : Bool) (document : Text) (trigger caret : Int),
        let plan := InsertionPlan.given inMath e document trigger caret
        plan.start ≤ plan.cursor ∧ plan.cursor ≤ plan.start + plan.text.length)
      ∧ ∀ (inMath : Bool) (document : Text) (trigger caret : Nat),
        trigger ≤ caret → caret ≤ document.length →
          let plan := InsertionPlan.given inMath e document trigger caret
          0 ≤ plan.cursor ∧ plan.cursor ≤ (plan.apply document).length := by
  refine ⟨fun s => cursorOffset_wrap s e,
    fun h => ⟨fun i => cursorOffset_eq_placeholder_iff h, cursorOffset_eq_textEnd_iff h⟩,
    fun inMath document trigger caret => InsertionPlan.given_cursor_bounds inMath e document
      trigger caret, fun inMath document trigger caret htc hc => ?_⟩
  intro plan
  obtain ⟨hstart, hend⟩ : (trigger : Int) ≤ plan.cursor
      ∧ plan.cursor ≤ trigger + plan.text.length :=
    InsertionPlan.given_cursor_bounds inMath e document trigger caret
  have hlength : (plan.apply document).length
      = trigger + plan.text.length + (document.length - max caret trigger) :=
    InsertionPlan.length_apply_given inMath e (by omega) caret
  omega

/-- A template with a later placeholder in front. -/
def outline : Entry :=
  ⟨"of Input specification: Algorithm Name".toList, ['O', 'u', 't'], [], defaultSymbol, [], true,
    true⟩

theorem caret_target_of_later_word_first :
    outline.isTemplate = true
      ∧ IsLeast {j | ∃ w ∈ templateWords, w <+: outline.id.drop j} 3
      ∧ cursorOffset outline (WrapStyle.block.wrap outline.id) = (.placeholder, 10)
      ∧ 2 ≤ 4 ∧ 4 ≤ ['a', ' ', '/', 'o', 'b'].length
      ∧ let plan := InsertionPlan.given false outline ['a', ' ', '/', 'o', 'b'] (2 : Nat) (4 : Nat)
        plan.cursor ≤ (plan.apply ['a', ' ', '/', 'o', 'b']).length := by
  have hbare : cursorOffset outline outline.id = (.placeholder, 3) := by decide
  obtain ⟨hwrap, htemplate, -, hvalid⟩ := caret_target outline
  refine ⟨rfl, ((htemplate rfl).1 3).1 hbare, ?_, by decide, by decide,
    (hvalid false ['a', ' ', '/', 'o', 'b'] 2 4 (by decide) (by decide)).2⟩
  rw [hwrap, hbare]
  rfl

end ExerciseSheet

import ExerciseSheet.Proofs.Landing
import Mathlib.Data.List.TakeWhile

/-!
# Display math on a line of its own

A snippet for math only is wrapped as display math outside math exactly when nothing but blanks
stands on the line before the trigger and on the line from the caret on (`isLineBlankAround_iff`).
The insertion keeps what stands there, so the display math has its lines for itself; inline math
brings no line feed of its own (`display_math_alone`).
-/

namespace ExerciseSheet

namespace Text

/-- Nothing but blanks stands on the line before an offset. -/
def BlankBefore (t : Text) (n : Nat) : Prop :=
  ∀ u : Text, u <:+ t.take n → '\n' ∉ u → u.isAllBlank = true

/-- Nothing but blanks stands on the line from an offset on. -/
def BlankFrom (t : Text) (n : Nat) : Prop :=
  ∀ u : Text, u <+: t.drop n → '\n' ∉ u → u.isAllBlank = true

end Text

section Line

variable {t u : Text}

theorem isAllBlank_of_infix (h : u <:+: t) (ht : t.isAllBlank = true) : u.isAllBlank = true := by
  rw [Text.isAllBlank, List.all_eq_true] at ht ⊢
  exact fun c hc => ht c (h.subset hc)

theorem isAllBlank_reverse (t : Text) : Text.isAllBlank t.reverse = t.isAllBlank := List.all_reverse

/-- The line at the start of a text is blank when every start of the text without a line feed is. -/
theorem isAllBlank_takeWhile_iff : Text.isAllBlank (t.takeWhile (· != '\n')) = true
    ↔ ∀ u : Text, u <+: t → '\n' ∉ u → u.isAllBlank = true := by
  constructor
  · rintro h u ⟨rest, rfl⟩ hnewline
    have hline : ∀ c ∈ u, (c != '\n') = true := fun c hc => by
      rw [bne_iff_ne]
      exact fun heq => hnewline (heq ▸ hc)
    rw [List.takeWhile_append_of_pos hline] at h
    exact isAllBlank_of_infix (List.prefix_append u _).isInfix h
  · intro h
    refine h _ (List.takeWhile_prefix _) fun hmem => ?_
    simpa using List.mem_takeWhile_imp hmem

theorem lineBefore_isAllBlank_iff (document : Text) (trigger : Nat) :
    (lineBefore document trigger).isAllBlank = true ↔ document.BlankBefore trigger := by
  rw [lineBefore, upTo_natCast, isAllBlank_reverse, isAllBlank_takeWhile_iff]
  constructor
  · intro h u hu hnewline
    rw [← isAllBlank_reverse]
    exact h u.reverse (List.reverse_prefix.2 hu) (by simpa using hnewline)
  · intro h u hu hnewline
    rw [← isAllBlank_reverse]
    refine h u.reverse ?_ (by simpa using hnewline)
    rwa [← List.reverse_prefix, List.reverse_reverse]

theorem lineAfter_isAllBlank_iff (document : Text) (caret : Nat) :
    (lineAfter document caret).isAllBlank = true ↔ document.BlankFrom caret := by
  rw [lineAfter, since_natCast, isAllBlank_takeWhile_iff]
  rfl

theorem isLineBlankAround_iff (document : Text) (trigger caret : Nat) :
    isLineBlankAround document trigger caret = true
      ↔ document.BlankBefore trigger ∧ document.BlankFrom caret := by
  rw [isLineBlankAround, Bool.and_eq_true, lineBefore_isAllBlank_iff, lineAfter_isAllBlank_iff]

end Line

namespace InsertionPlan

variable {e : Entry} {document : Text} {trigger caret : Nat} {inMath : Bool}

section Wrap

variable (he : e.requiresMath = true) (hmath : isInMath document trigger = false)
  (htc : trigger ≤ caret)
include he hmath htc

theorem wrap_of : (InsertionPlan.of e document trigger caret).wrap
    = if isLineBlankAround document trigger caret then .block else .inline := by
  have hcaret : max (caret : Int) trigger = caret := by omega
  rw [InsertionPlan.of, given_wrap, hmath, hcaret, wrapFor_of_not_inMath he]

theorem wrap_eq_block_iff : (InsertionPlan.of e document trigger caret).wrap = .block
    ↔ document.BlankBefore trigger ∧ document.BlankFrom caret := by
  rw [wrap_of he hmath htc, ← isLineBlankAround_iff]
  cases isLineBlankAround document trigger caret <;> simp

theorem wrap_eq_inline_iff : (InsertionPlan.of e document trigger caret).wrap = .inline
    ↔ ¬ (document.BlankBefore trigger ∧ document.BlankFrom caret) := by
  rw [wrap_of he hmath htc, ← isLineBlankAround_iff]
  cases isLineBlankAround document trigger caret <;> simp

end Wrap

section Surroundings

variable (htc : trigger ≤ caret) (hc : caret ≤ document.length)
include htc

theorem apply_given_append : (given inMath e document trigger caret).apply document
    = document.take trigger ++ (given inMath e document trigger caret).text
      ++ document.drop caret := by
  rw [apply_given, given_text, Nat.max_eq_left htc]

include hc

theorem take_apply_given :
    ((given inMath e document trigger caret).apply document).take trigger
      = document.take trigger := by
  have hlen : (document.take trigger).length = trigger := List.length_take_of_le (by omega)
  rw [apply_given_append htc, List.append_assoc, List.take_left' hlen]

theorem drop_apply_given : ((given inMath e document trigger caret).apply document).drop
      (trigger + (given inMath e document trigger caret).text.length)
    = document.drop caret := by
  rw [apply_given_append htc, List.drop_left']
  rw [List.length_append, List.length_take_of_le (by omega)]

theorem blankBefore_apply_given :
    ((given inMath e document trigger caret).apply document).BlankBefore trigger
      ↔ document.BlankBefore trigger := by
  rw [Text.BlankBefore, take_apply_given htc hc, Text.BlankBefore]

theorem blankFrom_apply_given : ((given inMath e document trigger caret).apply document).BlankFrom
      (trigger + (given inMath e document trigger caret).text.length)
    ↔ document.BlankFrom caret := by
  rw [Text.BlankFrom, drop_apply_given htc hc, Text.BlankFrom]

theorem slice_apply_given : ((given inMath e document trigger caret).apply document).slice trigger
      (trigger + (given inMath e document trigger caret).text.length)
    = (given inMath e document trigger caret).text := by
  have htrigger : (document.take trigger).length = trigger := List.length_take_of_le (by omega)
  rw [slice_eq_take_drop, apply_given_append htc, List.append_assoc, List.drop_left' htrigger,
    Nat.add_sub_cancel_left, List.take_left]

end Surroundings

theorem text_of_block (h : (given inMath e document trigger caret).wrap = .block) :
    ['\\', '['] <+: (given inMath e document trigger caret).text
      ∧ ['\\', ']'] <:+ (given inMath e document trigger caret).text := by
  rw [given_text, h, WrapStyle.wrap, WrapStyle.opening_block, WrapStyle.closing_block]
  have hclosing : ['\\', ']'] <:+ ['\n', '\\', ']'] := List.suffix_cons '\n' ['\\', ']']
  exact ⟨⟨_, rfl⟩, hclosing.trans (List.suffix_append _ _)⟩

/-- Inline math brings no line feed. -/
theorem count_newline_apply_given (htc : trigger ≤ caret)
    (h : (given inMath e document trigger caret).wrap = .inline) :
    List.count '\n' ((given inMath e document trigger caret).apply document)
      = List.count '\n' (document.take trigger ++ e.id ++ document.drop caret) := by
  have hwrapped : List.count '\n' (WrapStyle.inline.wrap e.id) = List.count '\n' e.id := by
    rw [WrapStyle.wrap, WrapStyle.opening_inline, WrapStyle.closing_inline]
    simp
  rw [apply_given_append htc, given_text, h]
  simp only [List.count_append, hwrapped]

/-- Outside math a snippet for math only becomes display math exactly where the line before the
trigger and the line from the caret on are blank, and inline math anywhere else. Then nothing but
blanks stands on the line before the opening of the display math and on the line behind its closing,
and inline math leaves as many line feeds as the bare snippet would. -/
theorem display_math_alone (e : Entry) (document : Text) (trigger caret : Nat)
    (he : e.requiresMath = true) (htc : trigger ≤ caret) (hc : caret ≤ document.length)
    (hmath : isInMath document trigger = false) :
    let plan := InsertionPlan.of e document trigger caret
    (plan.wrap = .block ↔ document.BlankBefore trigger ∧ document.BlankFrom caret)
      ∧ (plan.wrap = .inline ↔ ¬ (document.BlankBefore trigger ∧ document.BlankFrom caret))
      ∧ (plan.wrap = .block → ['\\', '['] <+: plan.text ∧ ['\\', ']'] <:+ plan.text
        ∧ (plan.apply document).slice trigger (trigger + plan.text.length) = plan.text
        ∧ (plan.apply document).BlankBefore trigger
        ∧ (plan.apply document).BlankFrom (trigger + plan.text.length))
      ∧ (plan.wrap = .inline → List.count '\n' (plan.apply document)
        = List.count '\n' (document.take trigger ++ e.id ++ document.drop caret)) := by
  intro plan
  have hblock := wrap_eq_block_iff he hmath htc
  refine ⟨hblock, wrap_eq_inline_iff he hmath htc, fun h => ?_, count_newline_apply_given htc⟩
  obtain ⟨hopening, hclosing⟩ := text_of_block h
  obtain ⟨hbefore, hfrom⟩ := hblock.1 h
  exact ⟨hopening, hclosing, slice_apply_given htc hc, (blankBefore_apply_given htc hc).2 hbefore,
    (blankFrom_apply_given htc hc).2 hfrom⟩

theorem display_math_alone_between_lines :
    infinity.requiresMath = true ∧ 3 ≤ 5 ∧ 5 ≤ ['a', '\n', ' ', '/', 'i', '\t', '\n', 'b'].length
      ∧ isInMath ['a', '\n', ' ', '/', 'i', '\t', '\n', 'b'] 3 = false
      ∧ let plan := InsertionPlan.of infinity ['a', '\n', ' ', '/', 'i', '\t', '\n', 'b'] 3 5
        plan.wrap = .block
          ∧ (plan.apply ['a', '\n', ' ', '/', 'i', '\t', '\n', 'b']).BlankBefore 3
          ∧ (plan.apply ['a', '\n', ' ', '/', 'i', '\t', '\n', 'b']).BlankFrom
            (3 + plan.text.length) := by
  have hmath : isInMath ['a', '\n', ' ', '/', 'i', '\t', '\n', 'b'] 3 = false := by decide
  have hblock : (InsertionPlan.of infinity ['a', '\n', ' ', '/', 'i', '\t', '\n', 'b'] 3 5).wrap
      = .block := by decide
  obtain ⟨-, -, hlayout, -⟩ := display_math_alone infinity
    ['a', '\n', ' ', '/', 'i', '\t', '\n', 'b'] 3 5 rfl (by decide) (by decide) hmath
  obtain ⟨-, -, -, hbefore, hfrom⟩ := hlayout hblock
  exact ⟨rfl, by decide, by decide, hmath, hblock, hbefore, hfrom⟩

end InsertionPlan

end ExerciseSheet

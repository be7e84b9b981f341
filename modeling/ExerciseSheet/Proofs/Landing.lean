import ExerciseSheet.Proofs.MathReading
import ExerciseSheet.Proofs.Replacement

/-!
# Where an inserted snippet lands

A wrapped snippet starts where reading the text before the trigger and then the opening of the
wrapping ends (`isInMath_at_snippet`). Display math opens there whatever stands before it, inline
math unless a backslash does, and a line on which a backslash stands before the trigger is not
blank: a snippet for math only lands outside math exactly when it is inserted outside math behind a
backslash (`lands_in_math_iff`).
-/

namespace ExerciseSheet

namespace WrapStyle

/-- How far into the wrapped text the snippet starts. -/
def lead : WrapStyle → Nat
  | none => 0
  | inline => 1
  | block => 7

theorem opening_inline : inline.opening = ['$'] := rfl

theorem opening_block : block.opening = ['\\', '[', '\n', ' ', ' ', ' ', ' '] := by
  change "\\[\n    ".toList = _
  simp

theorem closing_inline : inline.closing = ['$'] := rfl

theorem closing_block : block.closing = ['\n', '\\', ']'] := by
  change "\n\\]".toList = _
  simp

theorem length_opening (s : WrapStyle) : s.opening.length = s.lead := by
  cases s <;> rfl

end WrapStyle

theorem not_isBlank_backslash : isBlank '\\' = false := by decide

/-- Nothing is blank about a line with a backslash directly before the trigger. -/
theorem not_isLineBlankAround {document : Text} {trigger : Nat} {caret : Int}
    (h : (document.take trigger).getLast? = some '\\') :
    isLineBlankAround document trigger caret = false := by
  obtain ⟨head, hhead⟩ := List.getLast?_eq_some_iff.1 h
  have hmem : '\\' ∈ lineBefore document trigger := by
    rw [lineBefore, upTo_natCast, hhead, List.reverse_append]
    simp
  have : (lineBefore document trigger).isAllBlank = false := by
    rw [Text.isAllBlank, List.all_eq_false]
    exact ⟨'\\', hmem, by simp [not_isBlank_backslash]⟩
  rw [isLineBlankAround, this, Bool.false_and]

theorem wrapFor_of_inMath {e : Entry} {document : Text} {trigger caret : Int} :
    wrapFor e true document trigger caret = .none := by
  rw [wrapFor, Bool.or_true, if_pos rfl]

theorem wrapFor_of_not_inMath {e : Entry} {document : Text} {trigger caret : Int}
    (he : e.requiresMath = true) :
    wrapFor e false document trigger caret
      = if isLineBlankAround document trigger caret then .block else .inline := by
  rw [wrapFor, he, if_neg (by decide)]

namespace Mode

theorem inMath_readAll_opening (m : Mode) (s : WrapStyle) :
    (m.readAll s.opening).inMath = match s with
      | .none => m.inMath
      | .inline => if m.last = some '\\' then m.inMath else !m.inInline || m.inBlock
      | .block => true := by
  cases s with
  | none => rfl
  | inline =>
    rw [WrapStyle.opening_inline, readAll_cons, read_dollar]
    simp only [readAll, List.foldl_nil, inMath]
    split_ifs <;> rfl
  | block => simp [WrapStyle.opening_block, readAll, read, inMath]

end Mode

namespace InsertionPlan

variable {e : Entry} {document : Text} {trigger caret : Nat} {inMath : Bool}

theorem isInMath_at_snippet (ht : trigger ≤ document.length) :
    isInMath ((given inMath e document trigger caret).apply document)
        (trigger + (given inMath e document trigger caret).wrap.lead : Nat)
      = ((Mode.after (document.take trigger)).readAll
          (given inMath e document trigger caret).wrap.opening).inMath := by
  rw [isInMath_eq, apply_given, Int.toNat_natCast, ← Mode.after_append,
    ← WrapStyle.length_opening, WrapStyle.wrap]
  generalize (given inMath e document trigger caret).wrap = s
  have hlen : trigger + s.opening.length = (document.take trigger ++ s.opening).length := by
    rw [List.length_append, List.length_take_of_le ht]
  simp only [hlen, ← List.append_assoc]
  rw [List.append_assoc, List.append_assoc, List.take_left' rfl]

/-- A snippet for math only, inserted anywhere in a document, lands in math exactly when the trigger
lies in math or no backslash stands directly before it. -/
theorem lands_in_math_iff (e : Entry) (document : Text) (trigger caret : Nat)
    (he : e.requiresMath = true) (ht : trigger ≤ document.length) :
    let plan := InsertionPlan.of e document trigger caret
    plan.text = plan.wrap.opening ++ e.id ++ plan.wrap.closing
      ∧ plan.wrap.opening.length = plan.wrap.lead
      ∧ (isInMath (plan.apply document) (trigger + plan.wrap.lead : Nat) = true
        ↔ isInMath document trigger = true ∨ (document.take trigger).getLast? ≠ some '\\') := by
  refine ⟨rfl, WrapStyle.length_opening _, ?_⟩
  have hm : isInMath document trigger = (Mode.after (document.take trigger)).inMath := by
    rw [isInMath_eq, Int.toNat_natCast]
  rw [InsertionPlan.of, isInMath_at_snippet ht, Mode.inMath_readAll_opening, Mode.last_after,
    given_wrap, ← hm]
  cases hin : isInMath document trigger with
  | true => simp [wrapFor_of_inMath]
  | false =>
    rw [wrapFor_of_not_inMath he]
    by_cases hb : (document.take trigger).getLast? = some '\\'
    · simp [not_isLineBlankAround hb, hb]
    · rw [hin, Mode.inMath, eq_comm, Bool.or_eq_false_iff] at hm
      split_ifs <;> simp [hb, hm.1]

theorem lands_in_math_mid_line :
    infinity.requiresMath = true ∧ 2 ≤ ['a', ' ', '/', 'i'].length
      ∧ isInMath ((InsertionPlan.of infinity ['a', ' ', '/', 'i'] 2 4).apply ['a', ' ', '/', 'i'])
        (2 + (InsertionPlan.of infinity ['a', ' ', '/', 'i'] 2 4).wrap.lead : Nat) = true :=
  ⟨rfl, by decide, (lands_in_math_iff infinity ['a', ' ', '/', 'i'] 2 4 rfl (by decide)).2.2.2
    (.inr (by decide))⟩

/-- Behind a backslash the dollar sign of the wrapping is escaped: the snippet lies in no math. -/
theorem lands_outside_math_behind_backslash :
    infinity.requiresMath = true
      ∧ (InsertionPlan.of infinity ['a', '\\', '/', 'i'] 2 4).wrap.lead = 1
      ∧ isInMath
        ((InsertionPlan.of infinity ['a', '\\', '/', 'i'] 2 4).apply ['a', '\\', '/', 'i'])
        (2 + 1 : Nat) = false := by
  decide

end InsertionPlan

end ExerciseSheet

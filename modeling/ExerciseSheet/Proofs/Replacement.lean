import ExerciseSheet.Insertion
import ExerciseSheet.Proofs.Occurrence
import ExerciseSheet.Proofs.TextCut

/-!
# Carrying out a plan

A plan replaces the text from the trigger up to the caret by the wrapped snippet (`apply_given`).
Whichever rule chooses it, the new caret lies in what is inserted (`given_cursor`): a rule looks for
a text that is found in the wrapped snippet as soon as it is in the snippet (`infix_wrap`), and what
is found lies in the text.
-/

namespace ExerciseSheet

theorem infix_wrap {t snippet : Text} (s : WrapStyle) (h : t <:+: snippet) :
    t <:+: s.wrap snippet :=
  h.trans ⟨s.opening, s.closing, rfl⟩

theorem insideBraces_le (t : Text) : insideBraces t ≤ t.length := by
  unfold insideBraces
  split
  · next i hi =>
    have hle := find?_add_length_le hi
    simp only [emptyBraces, List.length_cons, List.length_nil] at hle
    omega
  · exact Nat.zero_le _

theorem afterRangeStart_le {t : Text} (h : subscriptOpen <:+: t) :
    afterRangeStart t ≤ t.length := by
  unfold afterRangeStart
  split
  · next i _ hi => exact find?_add_length_le hi
  · next i _ hi => exact find?_add_length_le hi
  · next hnone => exact absurd h (find?_eq_none_iff.1 hnone)

theorem placeholder_le {t : Text} {i : Nat}
    (h : (templateWords.filterMap fun w => Text.find? w t).min? = some i) : i ≤ t.length := by
  obtain ⟨w, -, hw⟩ := List.mem_filterMap.1 (List.min?_mem h)
  exact Nat.le_trans (Nat.le_add_right _ _) (find?_add_length_le hw)

theorem cursorOffset_le (e : Entry) (s : WrapStyle) :
    (cursorOffset e (s.wrap e.id)).2 ≤ (s.wrap e.id).length := by
  unfold cursorOffset
  split_ifs with htemplate hbraces hsub
  · split
    · next i hi => exact placeholder_le hi
    · exact Nat.le_refl _
  · exact insideBraces_le _
  · exact afterRangeStart_le (infix_wrap s (has_iff.1 hsub))
  · exact Nat.le_refl _

namespace InsertionPlan

theorem given_wrap (inMath : Bool) (e : Entry) (document : Text) (trigger caret : Int) :
    (given inMath e document trigger caret).wrap
      = wrapFor e inMath document trigger (max caret trigger) := rfl

theorem given_text (inMath : Bool) (e : Entry) (document : Text) (trigger caret : Int) :
    (given inMath e document trigger caret).text
      = (given inMath e document trigger caret).wrap.wrap e.id := rfl

theorem given_start (inMath : Bool) (e : Entry) (document : Text) (trigger caret : Int) :
    (given inMath e document trigger caret).start = trigger := rfl

theorem given_stop (inMath : Bool) (e : Entry) (document : Text) (trigger caret : Nat) :
    (given inMath e document trigger caret).stop = (max caret trigger : Nat) := by
  simp only [given]
  omega

theorem given_cursor (inMath : Bool) (e : Entry) (document : Text) (trigger caret : Nat) :
    ∃ k ≤ (given inMath e document trigger caret).text.length,
      (given inMath e document trigger caret).cursor = (trigger + k : Nat) :=
  ⟨_, cursorOffset_le e _, rfl⟩

theorem apply_given (inMath : Bool) (e : Entry) (document : Text) (trigger caret : Nat) :
    (given inMath e document trigger caret).apply document
      = document.take trigger
        ++ (given inMath e document trigger caret).wrap.wrap e.id
        ++ document.drop (max caret trigger) := by
  rw [apply, given_stop, given_start, given_text, splice_natCast]

end InsertionPlan

/-- A snippet for math only. -/
def infinity : Entry :=
  ⟨['\\', 'i', 'n', 'f', 't', 'y'], ['I', 'n', 'f'], [], defaultSymbol, [], false, true⟩

end ExerciseSheet

import ExerciseSheet.Proofs.Typing

/-!
# What a buffer reports

`replacements` says which stretches of the text an action replaces: one for each character that is
typed, and at most one for any other action. An action leaves the text with these replacements
made, and it reports the text after each of them, once and in order (`step_reports`).
-/

namespace ExerciseSheet

/-- A stretch of a text and what comes in its place. -/
structure Replacement where
  start : Nat
  stop : Nat
  new : Text
  deriving DecidableEq, Repr

namespace Replacement

/-- The text with the replacement made. -/
def apply (r : Replacement) (t : Text) : Text := t.splice r.start r.stop r.new

/-- The texts that replacements leave one after the other. -/
def texts : Text → List Replacement → List Text
  | _, [] => []
  | t, r :: rs => r.apply t :: texts (r.apply t) rs

/-- The characters of a text put in from an offset on, one by one. -/
def typing : Nat → Text → List Replacement
  | _, [] => []
  | n, c :: t => ⟨n, n, [c]⟩ :: typing (n + 1) t

theorem length_typing : ∀ (n : Nat) (t : Text), (typing n t).length = t.length
  | _, [] => rfl
  | n, _ :: t => congrArg (· + 1) (length_typing (n + 1) t)

end Replacement

/-- The text that a notice reports. -/
def Notice.change? : Notice → Option Text
  | .change t => some t
  | _ => none

/-- The texts reported to whoever listens for changes, in order. -/
def changes (notices : List Notice) : List Text := notices.filterMap Notice.change?

theorem changes_append (ns ms : List Notice) : changes (ns ++ ms) = changes ns ++ changes ms :=
  List.filterMap_append

/-- The replacement that a plan is. -/
def InsertionPlan.replacement (plan : InsertionPlan) : Replacement :=
  ⟨plan.start.toNat, plan.stop.toNat, plan.text⟩

namespace Palette

variable (p : Palette) (document : Text) (caret : Nat)

theorem changes_commitEntry (e : Entry) (t : Nat) :
    changes (p.commitEntry e t document caret).notices = [] := by
  unfold commitEntry
  cases e.requiresMath <;> rfl

theorem changes_press (k : Press) : changes (p.press k document caret).notices = [] := by
  obtain ⟨-, hp⟩ | ⟨s, -, ⟨-, hp⟩ | ⟨_, -, hp⟩ | ⟨-, hp⟩ | ⟨-, -, hp⟩ | ⟨-, hp⟩⟩ :=
    p.press_cases k document caret <;> rw [hp]
  · split_ifs <;> rfl
  · rfl
  · rfl
  · rcases hr : s.selected? with _ | r
    · rw [commit_of_none hr]
      rfl
    · rw [commit_of_selected hr]
      exact p.changes_commitEntry document caret _ _
  · rfl
  · rfl

theorem changes_select (i : Int) : changes (p.select i document caret).notices = [] := by
  obtain hp | ⟨s, r, -, -, -, hp⟩ := p.select_cases i document caret <;> rw [hp]
  · rfl
  · exact p.changes_commitEntry document caret _ _

end Palette

namespace Buffer

/-- What a press replaces that the palette lets through. -/
def passed? (b : Buffer) (k : Press) : Option Replacement :=
  if k.actsAs .backspace then
    if b.caret = 0 then none else some ⟨b.caret - 1, b.caret, []⟩
  else match k with
    | .text t => some ⟨b.caret, b.caret, t⟩
    | .key k => (keyText? k).map fun t => ⟨b.caret, b.caret, t⟩

/-- What an action replaces, in order. -/
def replacements (b : Buffer) : Action → List Replacement
  | .type t => Replacement.typing b.caret t
  | .press k =>
    let reply := b.palette.press k b.text b.caret
    match reply.plan with
    | some plan => [plan.replacement]
    | none => if reply.consumed then [] else (b.passed? k).toList
  | .select i => ((b.palette.select i b.text b.caret).plan.map (·.replacement)).toList
  | .setText t => [⟨0, b.text.length, t⟩]
  | .move _ => []
  | .dismiss => []

/-- An operation makes some replacements on a text and reports each of them. -/
def Reports (t : Text) (rs : List Replacement) (e : Edited) : Prop :=
  changes e.notices = Replacement.texts t rs ∧ e.buffer.text = rs.foldl (fun t r => r.apply t) t

variable {b : Buffer} {k : Press}

theorem reports_carryOut {notices : List Notice} (plan : InsertionPlan)
    (hnotices : changes notices = []) :
    Reports b.text [plan.replacement] (b.carryOut plan notices) := by
  refine ⟨?_, rfl⟩
  unfold carryOut
  rw [changes_append, hnotices]
  rfl

theorem reports_applyPress (b : Buffer) (k : Press) :
    Reports b.text (b.passed? k).toList (b.applyPress k) := by
  unfold applyPress passed?
  by_cases hback : k.actsAs .backspace = true
  · rw [if_pos hback, if_pos hback, deleteBack]
    rcases hcaret : b.caret with _ | n
    · exact ⟨rfl, rfl⟩
    · exact ⟨rfl, rfl⟩
  · rw [if_neg hback, if_neg hback]
    cases k with
    | text t => exact ⟨rfl, rfl⟩
    | key k => cases k <;> exact ⟨rfl, rfl⟩

theorem reports_press (b : Buffer) (k : Press) :
    Reports b.text (b.replacements (.press k)) (b.press k) := by
  have hnotices := b.palette.changes_press b.text b.caret k
  rw [replacements]
  rcases hplan : (b.palette.press k b.text b.caret).plan with _ | plan
  · cases hconsumed : (b.palette.press k b.text b.caret).consumed with
    | true =>
      rw [press_of_consumed rfl hplan hconsumed]
      exact ⟨hnotices, rfl⟩
    | false =>
      rw [press_of_passed rfl hplan hconsumed]
      exact reports_applyPress _ k
  · rw [press_of_plan rfl hplan]
    exact reports_carryOut plan hnotices

theorem reports_select (b : Buffer) (i : Int) :
    Reports b.text (b.replacements (.select i)) (b.select i) := by
  have hnotices := b.palette.changes_select b.text b.caret i
  rw [replacements]
  rcases hplan : (b.palette.select i b.text b.caret).plan with _ | plan
  · rw [select_of_none rfl hplan]
    exact ⟨hnotices, rfl⟩
  · rw [select_of_plan rfl hplan]
    exact reports_carryOut plan hnotices

theorem reports_type : ∀ (t : Text) (b : Buffer),
    Reports b.text (Replacement.typing b.caret t) (b.type t)
  | [], _ => ⟨rfl, rfl⟩
  | c :: t, b => by
    have hp := b.press_of_char c
    obtain ⟨hchanges, htext⟩ := reports_type t (b.press (.text [c])).buffer
    rw [hp] at hchanges htext
    constructor
    · rw [type, hp, changes_append, hchanges]
      rfl
    · rw [type, hp, htext]
      rfl

theorem step_reports (b : Buffer) (a : Action) :
    Reports b.text (b.replacements a) (b.step a) := by
  cases a with
  | type t => exact reports_type t b
  | press k => exact reports_press b k
  | move position => exact ⟨rfl, rfl⟩
  | select i => exact reports_select b i
  | setText t => exact ⟨rfl, rfl⟩
  | dismiss => exact ⟨rfl, rfl⟩

/-- Only typing replaces more than once, and then once for each character. -/
theorem length_replacements (b : Buffer) (a : Action) :
    (∀ t, a = .type t → (b.replacements a).length = t.length)
      ∧ ((∀ t, a ≠ .type t) → (b.replacements a).length ≤ 1) := by
  refine ⟨fun t ha => ?_, fun ha => ?_⟩
  · rw [ha]
    exact Replacement.length_typing b.caret t
  · cases a with
    | type t => exact absurd rfl (ha t)
    | press k =>
      unfold replacements
      simp only
      split
      · exact Nat.le_refl 1
      · split_ifs
        · exact Nat.zero_le 1
        · exact Option.length_toList_le
    | move position => exact Nat.zero_le 1
    | select i => exact Option.length_toList_le
    | setText t => exact Nat.le_refl 1
    | dismiss => exact Nat.zero_le 1

end Buffer

end ExerciseSheet

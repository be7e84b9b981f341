import ExerciseSheet.Proofs.QuietPeriod
import ExerciseSheet.Proofs.Reporting

/-!
# Compiling what is in the buffer

A scheduler that hears every change of a buffer holds no text but the buffer's (`Fresh`): the last
text that an action reports is the text it leaves, and of the texts heard only the last can be
pending. So what is submitted after a quiet period is the text of that moment
(`submits_current_text`).
-/

namespace ExerciseSheet

theorem Replacement.getLast?_texts (rs : List Replacement) (t : Text) :
    (texts t rs).getLast?.getD t = rs.foldl (fun t r => r.apply t) t := by
  induction rs generalizing t with
  | nil => rfl
  | cons r rs ih =>
    rw [texts, List.getLast?_cons, Option.getD_some, ih]
    rfl

namespace AutoCompiler

variable {τ : Type} [Add τ] {a : AutoCompiler τ} {ending : τ} {t : Text}

theorem hear_eq (a : AutoCompiler τ) (notices : List Notice) :
    a.hear notices = (changes notices).foldl notifyChange a := by
  unfold hear changes
  rw [List.foldl_filterMap]
  congr 1
  funext a n
  cases n <;> rfl

theorem eq_of_awaits_notifyChange {new : Text}
    (h : (a.notifyChange new).debouncer.Awaits ending t) : new = t := by
  unfold notifyChange at h
  split_ifs at h
  · exact (Debouncer.awaits_trigger.1 h).2
  · exact (Debouncer.not_awaits_cancel h).elim

/-- Of several texts heard only the last can be pending. -/
theorem getLast?_of_awaits_foldl {ts : List Text}
    (h : (ts.foldl notifyChange a).debouncer.Awaits ending t) :
    ts.getLast? = some t ∨ (ts = [] ∧ a.debouncer.Awaits ending t) := by
  rcases ts.eq_nil_or_concat' with rfl | ⟨ts, new, rfl⟩
  · exact .inr ⟨rfl, h⟩
  · rw [List.foldl_append] at h
    rw [List.getLast?_concat, eq_of_awaits_notifyChange h]
    exact .inl rfl

variable [LE τ] [DecidableLE τ] {e : Event τ}

/-- Only a change makes a text pending. -/
theorem awaits_of_awaits_step (he : ∀ t, e ≠ .change t)
    (h : (a.step e).compiler.debouncer.Awaits ending t) : a.debouncer.Awaits ending t := by
  cases e with
  | change t => exact absurd rfl (he t)
  | setMode name =>
    obtain ⟨-, hok⟩ | ⟨-, hok⟩ | ⟨-, -, hok⟩ := CompileMode.ofName_cases name <;>
      rw [step, hok] at h
    · exact h
    · exact (Debouncer.not_awaits_cancel h).elim
    · exact h
  | compileNow t => exact (Debouncer.not_awaits_cancel h).elim
  | advance time => exact (Debouncer.awaits_advance.1 h).1
  | expire place =>
    rw [step] at h
    obtain ⟨_, -, hexpire⟩ | ⟨-, hexpire⟩ := a.debouncer.expire_cases place <;> rw [hexpire] at h
    · exact (Debouncer.not_awaits_cancel h).elim
    · exact h
  | shutdown => exact (Debouncer.not_awaits_cancel h).elim

/-- Without a demand only what is pending is submitted. -/
theorem awaits_of_submitted {time : τ} (he : ∀ t, e ≠ .compileNow t)
    (h : (time, t) ∈ (a.step e).submitted) : ∃ ending, a.debouncer.Awaits ending t := by
  cases e with
  | change t => cases h
  | setMode name =>
    obtain ⟨-, hok⟩ | ⟨-, hok⟩ | ⟨-, -, hok⟩ := CompileMode.ofName_cases name <;>
      rw [step, hok] at h <;> cases h
  | compileNow t => exact absurd rfl (he t)
  | advance length => exact ⟨time, (Debouncer.advance_call_iff.1 (Option.mem_toList.1 h)).1⟩
  | expire place =>
    rw [step] at h
    obtain ⟨ending, hc, hexpire⟩ | ⟨-, hexpire⟩ := a.debouncer.expire_cases place <;>
      rw [hexpire] at h
    · obtain ⟨t', ht', heq⟩ := List.mem_map.1 h
      cases heq
      exact ⟨ending, place, hc, Option.mem_toList.1 ht'⟩
    · cases h
  | shutdown => cases h

end AutoCompiler

namespace LiveEditor

variable {τ : Type} [Add τ] [LE τ] [DecidableLE τ] {w : LiveEditor τ}

/-- Nothing but the text of the buffer is pending. -/
def Fresh (w : LiveEditor τ) : Prop :=
  ∀ ending t, w.compiler.debouncer.Awaits ending t → t = w.buffer.text

theorem Fresh.edit (h : w.Fresh) (a : Buffer.Action) : (w.step (.edit a)).2.2.Fresh := by
  intro ending t hawaits
  obtain ⟨hchanges, htext⟩ := w.buffer.step_reports a
  change t = (w.buffer.step a).buffer.text
  rw [htext, ← Replacement.getLast?_texts, ← hchanges]
  rw [step, AutoCompiler.hear_eq] at hawaits
  obtain hlast | ⟨hnil, hawaits⟩ := AutoCompiler.getLast?_of_awaits_foldl hawaits
  · rw [hlast]
    rfl
  · rw [hnil]
    exact h ending t hawaits

theorem Fresh.schedule (h : w.Fresh) {e : AutoCompiler.Event τ} (he : ∀ t, e ≠ .change t) :
    (w.step (.schedule e)).2.2.Fresh :=
  fun ending t hawaits => h ending t (AutoCompiler.awaits_of_awaits_step he hawaits)

/-- The editor after some events. -/
def after (w : LiveEditor τ) (es : List (Event τ)) : LiveEditor τ :=
  es.foldl (fun w e => (w.step e).2.2) w

theorem fresh_after : ∀ (es : List (Event τ)) {w : LiveEditor τ}, w.Fresh →
    (∀ t, .schedule (.change t) ∉ es) → (w.after es).Fresh
  | [], _, h, _ => h
  | e :: es, w, h, hes => by
    refine fresh_after es ?_ fun t ht => hes t (List.mem_cons_of_mem _ ht)
    cases e with
    | edit a => exact h.edit a
    | schedule e => exact h.schedule fun t ht => hes t (by rw [ht]; exact List.mem_cons_self)

/-- Whatever happens to a buffer and the scheduler that hears of its changes, an action on the
buffer reports the text after each replacement that it makes, one for each character that is typed
and at most one for any other action, and what is submitted without a demand is the text of the
buffer. -/
theorem submits_current_text (catalog : Catalog) (text trigger : Text) (now delay : τ)
    (minLength : Int) (mode : CompileMode) (es : List (Event τ))
    (hes : ∀ t, .schedule (.change t) ∉ es) :
    let w := after ⟨.new catalog text trigger, .new now delay minLength mode⟩ es
    (∀ a, let rs := w.buffer.replacements a
      changes (w.buffer.step a).notices = Replacement.texts w.buffer.text rs
      ∧ (w.buffer.step a).buffer.text = rs.foldl (fun t r => r.apply t) w.buffer.text
      ∧ (∀ t, a = .type t → rs.length = t.length) ∧ ((∀ t, a ≠ .type t) → rs.length ≤ 1))
    ∧ ∀ e time t, (∀ t, e ≠ .compileNow t) → (time, t) ∈ (w.step (.schedule e)).1 →
      t = w.buffer.text := by
  intro w
  have hfresh : w.Fresh := fresh_after es (fun _ _ ⟨_, h, _⟩ => nomatch h) hes
  constructor
  · intro a
    obtain ⟨hchanges, htext⟩ := w.buffer.step_reports a
    exact ⟨hchanges, htext, w.buffer.length_replacements a⟩
  · intro e time t he hsubmitted
    obtain ⟨ending, hawaits⟩ := AutoCompiler.awaits_of_submitted he hsubmitted
    exact hfresh ending t hawaits

theorem submits_text_after_backspace :
    let start : LiveEditor Nat :=
      ⟨.new ⟨[infinity], by decide, by decide⟩ [] ['/'], .new 0 2 0 .auto⟩
    let es := [.edit (.type ['a', 'b']), .schedule (.advance 1), .edit (.press (.key .backspace))]
    (∀ t, .schedule (.change t) ∉ es)
      ∧ (3, ['a']) ∈ ((start.after es).step (.schedule (.advance 2))).1
      ∧ ['a'] = (start.after es).buffer.text := by
  intro start es
  have hes : ∀ t, .schedule (.change t) ∉ es := by simp [es]
  have hsubmitted : (3, ['a']) ∈ ((start.after es).step (.schedule (.advance 2))).1 := by decide
  have hadvance : ∀ t, AutoCompiler.Event.advance 2 ≠ .compileNow t := fun _ h => nomatch h
  exact ⟨hes, hsubmitted,
    (submits_current_text _ [] ['/'] 0 2 0 .auto es hes).2 _ 3 ['a'] hadvance hsubmitted⟩

end LiveEditor

end ExerciseSheet

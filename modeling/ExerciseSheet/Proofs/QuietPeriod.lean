import ExerciseSheet.AutoCompile
import ExerciseSheet.Proofs.Countdown

/-!
# Compiling after a quiet period

`Quiet` says of the events so far that a change to a document began a quiet period, which nothing
has disturbed since and whose end the clock has not reached. A document is pending exactly then
(`Inv.awaits_iff`), so it is submitted on its own at the end of an undisturbed period and at no
other time (`submits_iff_quiet`).
-/

namespace ExerciseSheet

namespace Debouncer

variable {α τ : Type} {d : Debouncer α τ} {ending : τ} {args : α}

/-- A call with `args` is pending and will be made at `ending`. -/
def Awaits (d : Debouncer α τ) (ending : τ) (args : α) : Prop :=
  ∃ i, d.current = some (i, ending) ∧ d.started[i]? = some args

theorem not_awaits_cancel : ¬ d.cancel.2.Awaits ending args := fun ⟨_, h, _⟩ => nomatch h

theorem awaits_trigger [Add τ] {new : α} :
    (d.trigger new).Awaits ending args ↔ d.now + d.delay = ending ∧ new = args := by
  constructor
  · rintro ⟨i, hc, hi⟩
    cases hc
    exact ⟨rfl, Option.some.inj (List.getElem?_concat_length.symm.trans hi)⟩
  · rintro ⟨rfl, rfl⟩
    exact ⟨d.started.length, rfl, List.getElem?_concat_length⟩

variable [Add τ] [LE τ] [DecidableLE τ] {time : τ}

theorem advance_call_iff :
    (d.advance time).1 = some (ending, args) ↔ d.Awaits ending args ∧ ending ≤ d.now + time := by
  obtain ⟨i, e, hc, hdue, hadvance⟩ | ⟨hdue, hadvance⟩ := d.advance_cases time <;> rw [hadvance]
  · constructor
    · intro h
      obtain ⟨x, hx, heq⟩ := Option.map_eq_some_iff.1 h
      cases heq
      exact ⟨⟨i, hc, hx⟩, hdue⟩
    · rintro ⟨⟨j, hj, hargs⟩, -⟩
      cases hc.symm.trans hj
      rw [hargs]
      rfl
  · exact iff_of_false nofun fun ⟨⟨j, hj, _⟩, hle⟩ => hdue j ending hj hle

theorem awaits_advance :
    (d.advance time).2.Awaits ending args
      ↔ d.Awaits ending args ∧ ¬ ending ≤ d.now + time := by
  obtain ⟨i, e, hc, hdue, hadvance⟩ | ⟨hdue, hadvance⟩ := d.advance_cases time <;> rw [hadvance]
  · refine iff_of_false (fun ⟨_, h, _⟩ => nomatch h) ?_
    rintro ⟨⟨j, hj, -⟩, hlate⟩
    cases hc.symm.trans hj
    exact hlate hdue
  · exact ⟨fun ⟨j, hj, hargs⟩ => ⟨⟨j, hj, hargs⟩, hdue j ending hj⟩, And.left⟩

theorem advance_settings (d : Debouncer α τ) (time : τ) :
    (d.advance time).2.now = d.now + time ∧ (d.advance time).2.delay = d.delay := by
  obtain ⟨_, _, -, -, hadvance⟩ | ⟨-, hadvance⟩ := d.advance_cases time <;> rw [hadvance] <;>
    exact ⟨rfl, rfl⟩

end Debouncer

theorem CompileMode.ofName_cases (name : Text) :
    (name = auto.name ∧ ofName name = .ok auto) ∨ (name = manual.name ∧ ofName name = .ok manual)
      ∨ (name ≠ auto.name ∧ name ≠ manual.name
        ∧ ofName name = .error (.unknownCompileMode name)) := by
  by_cases hauto : name = auto.name
  · exact .inl ⟨hauto, hauto ▸ rfl⟩
  by_cases hmanual : name = manual.name
  · exact .inr (.inl ⟨hmanual, hmanual ▸ rfl⟩)
  refine .inr (.inr ⟨hauto, hmanual, ?_⟩)
  have hfind : all.find? (fun m => m.name == name) = none := by
    rw [List.find?_eq_none]
    intro m hm h
    cases m with
    | auto => exact hauto (beq_iff_eq.1 h).symm
    | manual => exact hmanual (beq_iff_eq.1 h).symm
  rw [ofName, hfind]

namespace AutoCompiler

variable {τ : Type}

/-- The mode that an event sets, if it sets one. -/
def Event.mode? : Event τ → Option CompileMode
  | .setMode name => (CompileMode.ofName name).toOption
  | _ => none

/-- How much time an event lets pass, if it does. -/
def Event.time? : Event τ → Option τ
  | .advance time => some time
  | _ => none

/-- Whether an event ends a quiet period that began before it. -/
def Event.Disturbs : Event τ → Prop
  | .change _ => True
  | .setMode name => name = CompileMode.manual.name
  | .compileNow _ => True
  | .shutdown => True
  | _ => False

/-- The mode after some events: the one that was set last. -/
def modeAfter (start : AutoCompiler τ) (past : List (Event τ)) : CompileMode :=
  (past.filterMap Event.mode?).getLast?.getD start.mode

/-- The time after some events. -/
def clockAfter [Add τ] (start : AutoCompiler τ) (past : List (Event τ)) : τ :=
  (past.filterMap Event.time?).foldl (· + ·) start.debouncer.now

/-- In automatic mode a change to `t`, which is long enough, began a quiet period that ends at
`ending`. Since then nothing has disturbed it, and the clock has not come to its end. -/
def Quiet [Add τ] [LE τ] (start : AutoCompiler τ) (ending : τ) (t : Text) :
    List (Event τ) → Prop :=
  Since
    (fun before e => e = .change t ∧ start.modeAfter before = .auto ∧ start.minLength < t.length
      ∧ start.clockAfter before + start.debouncer.delay = ending)
    fun before e => ¬ e.Disturbs
      ∧ ∀ time, e = .advance time → ¬ ending ≤ start.clockAfter before + time

variable {start a : AutoCompiler τ} {past : List (Event τ)} {e : Event τ} {ending : τ} {t : Text}

theorem modeAfter_append :
    start.modeAfter (past ++ [e]) = e.mode?.getD (start.modeAfter past) := by
  rw [modeAfter, List.filterMap_append]
  cases h : e.mode? <;> simp [h, modeAfter]

variable [Add τ]

theorem clockAfter_append :
    start.clockAfter (past ++ [e])
      = e.time?.elim (start.clockAfter past) (start.clockAfter past + ·) := by
  rw [clockAfter, List.filterMap_append, List.foldl_append]
  cases h : e.time? <;> simp [h, clockAfter]

variable [LE τ]

theorem quiet_append_change {new : Text} :
    start.Quiet ending t (past ++ [.change new]) ↔
      new = t ∧ start.modeAfter past = .auto ∧ start.minLength < new.length
        ∧ start.clockAfter past + start.debouncer.delay = ending := by
  constructor
  · intro h
    obtain ⟨hchange, harms⟩ | ⟨-, hkeeps, -⟩ := since_append_singleton.1 h
    · cases hchange
      exact ⟨rfl, harms⟩
    · exact (hkeeps trivial).elim
  · rintro ⟨rfl, harms⟩
    exact since_append_singleton.2 (.inl ⟨rfl, harms⟩)

theorem not_quiet_append (he : e.Disturbs) (hchange : ∀ t, e ≠ .change t) :
    ¬ start.Quiet ending t (past ++ [e]) := by
  intro h
  obtain ⟨rfl, -⟩ | ⟨-, hkeeps, -⟩ := since_append_singleton.1 h
  · exact hchange t rfl
  · exact hkeeps he

theorem quiet_append_advance {time : τ} :
    start.Quiet ending t (past ++ [.advance time])
      ↔ start.Quiet ending t past ∧ ¬ ending ≤ start.clockAfter past + time := by
  constructor
  · intro h
    obtain ⟨hchange, -⟩ | ⟨hquiet, -, htime⟩ := since_append_singleton.1 h
    · cases hchange
    · exact ⟨hquiet, htime time rfl⟩
  · rintro ⟨hquiet, htime⟩
    refine since_append_singleton.2 (.inr ⟨hquiet, id, fun _ h => ?_⟩)
    cases h
    exact htime

theorem quiet_append_setMode {name : Text} (hname : name ≠ CompileMode.manual.name) :
    start.Quiet ending t (past ++ [.setMode name]) ↔ start.Quiet ending t past := by
  constructor
  · intro h
    obtain ⟨hchange, -⟩ | ⟨hquiet, -⟩ := since_append_singleton.1 h
    · cases hchange
    · exact hquiet
  · exact fun hquiet => since_append_singleton.2 (.inr ⟨hquiet, hname, fun _ => nofun⟩)

/-- What holds of a scheduler after some events. -/
structure Inv (start a : AutoCompiler τ) (past : List (Event τ)) : Prop where
  minLength_eq : a.minLength = start.minLength
  delay_eq : a.debouncer.delay = start.debouncer.delay
  mode_eq : a.mode = start.modeAfter past
  now_eq : a.debouncer.now = start.clockAfter past
  awaits_iff : ∀ ending t, a.debouncer.Awaits ending t ↔ start.Quiet ending t past
  auto_of_pending : a.isPending = true → a.mode = .auto

theorem new_inv (now delay : τ) (minLength : Int) (mode : CompileMode) :
    Inv (new now delay minLength mode) (new now delay minLength mode) [] where
  minLength_eq := rfl
  delay_eq := rfl
  mode_eq := rfl
  now_eq := rfl
  awaits_iff _ _ := iff_of_false (fun ⟨_, h, _⟩ => nomatch h) not_since_nil
  auto_of_pending h := nomatch h

theorem Inv.cancel {mode : CompileMode} (h : Inv start a past) (hmode : e.mode?.getD a.mode = mode)
    (htime : e.time? = none) (hquiet : ∀ ending t, ¬ start.Quiet ending t (past ++ [e])) :
    Inv start { a.cancel with mode } (past ++ [e]) where
  minLength_eq := h.minLength_eq
  delay_eq := h.delay_eq
  mode_eq := by rw [modeAfter_append, ← h.mode_eq, hmode]
  now_eq := by
    rw [clockAfter_append, htime]
    exact h.now_eq
  awaits_iff ending t := iff_of_false Debouncer.not_awaits_cancel (hquiet ending t)
  auto_of_pending hpending := nomatch hpending

theorem Inv.notifyChange (h : Inv start a past) (t : Text) :
    Inv start (a.notifyChange t) (past ++ [.change t]) := by
  unfold AutoCompiler.notifyChange
  split_ifs with hstart
  · refine ⟨h.minLength_eq, h.delay_eq, ?_, ?_, fun ending t' => ?_, fun _ => hstart.1⟩
    · rw [modeAfter_append]
      exact h.mode_eq
    · rw [clockAfter_append]
      exact h.now_eq
    · rw [Debouncer.awaits_trigger, quiet_append_change, h.now_eq, h.delay_eq, ← h.mode_eq,
        ← h.minLength_eq]
      exact ⟨fun ⟨hend, ht⟩ => ⟨ht, hstart.1, hstart.2, hend⟩, fun ⟨ht, _, _, hend⟩ => ⟨hend, ht⟩⟩
  · refine h.cancel rfl rfl fun ending t' hquiet => hstart ?_
    obtain ⟨rfl, hauto, hlong, -⟩ := quiet_append_change.1 hquiet
    exact ⟨h.mode_eq.trans hauto, h.minLength_eq ▸ hlong⟩

variable [DecidableLE τ]

theorem Inv.setMode (h : Inv start a past) (name : Text) :
    Inv start (a.step (.setMode name)).compiler (past ++ [.setMode name]) := by
  obtain ⟨rfl, hok⟩ | ⟨rfl, hok⟩ | ⟨-, hname, herror⟩ := CompileMode.ofName_cases name
  · have hname : CompileMode.auto.name ≠ CompileMode.manual.name := by decide
    rw [step, hok]
    refine ⟨h.minLength_eq, h.delay_eq, ?_, ?_, fun ending t => ?_, fun _ => rfl⟩
    · rw [modeAfter_append, Event.mode?, hok]
      rfl
    · rw [clockAfter_append]
      exact h.now_eq
    · rw [quiet_append_setMode hname]
      exact h.awaits_iff ending t
  · rw [step, hok]
    exact h.cancel (by rw [Event.mode?, hok]; rfl) rfl
      fun ending t => not_quiet_append rfl fun _ => nofun
  · rw [step, herror]
    refine ⟨h.minLength_eq, h.delay_eq, ?_, ?_, fun ending t => ?_, h.auto_of_pending⟩
    · rw [modeAfter_append, Event.mode?, herror]
      exact h.mode_eq
    · rw [clockAfter_append]
      exact h.now_eq
    · rw [quiet_append_setMode hname]
      exact h.awaits_iff ending t

theorem Inv.advance (h : Inv start a past) (time : τ) :
    Inv start (a.step (.advance time)).compiler (past ++ [.advance time]) := by
  obtain ⟨hnow, hdelay⟩ := a.debouncer.advance_settings time
  refine ⟨h.minLength_eq, hdelay.trans h.delay_eq, ?_, ?_, fun ending t => ?_, fun hpending => ?_⟩
  · rw [modeAfter_append]
    exact h.mode_eq
  · rw [clockAfter_append, ← h.now_eq]
    exact hnow
  · rw [quiet_append_advance, ← h.awaits_iff, ← h.now_eq]
    exact Debouncer.awaits_advance
  · refine h.auto_of_pending ?_
    have hpending : (a.debouncer.advance time).2.isPending = true := hpending
    obtain ⟨_, _, -, -, hadvance⟩ | ⟨-, hadvance⟩ := a.debouncer.advance_cases time <;>
      rw [hadvance] at hpending
    · cases hpending
    · exact hpending

/-- Every event but a countdown noticed late keeps the invariant. -/
theorem Inv.step (h : Inv start a past) (he : ∀ place, e ≠ .expire place) :
    Inv start (a.step e).compiler (past ++ [e]) := by
  cases e with
  | change t => exact h.notifyChange t
  | setMode name => exact h.setMode name
  | compileNow t => exact h.cancel rfl rfl fun _ _ => not_quiet_append trivial fun _ => nofun
  | advance time => exact h.advance time
  | expire place => exact absurd rfl (he place)
  | shutdown => exact h.cancel rfl rfl fun _ _ => not_quiet_append trivial fun _ => nofun

/-- The scheduler after some events. -/
def after (a : AutoCompiler τ) (es : List (Event τ)) : AutoCompiler τ :=
  es.foldl (fun a e => (a.step e).compiler) a

theorem inv_after (now delay : τ) (minLength : Int) (mode : CompileMode) (es : List (Event τ))
    (hes : ∀ place, .expire place ∉ es) :
    Inv (new now delay minLength mode) ((new now delay minLength mode).after es) es := by
  induction es using List.reverseRecOn with
  | nil => exact new_inv now delay minLength mode
  | append_singleton es e ih =>
    have he : ∀ place, e ≠ .expire place := fun place h =>
      hes place (List.mem_append_right _ (List.mem_singleton.2 h.symm))
    rw [after, List.foldl_append]
    exact (ih fun place h => hes place (List.mem_append_left _ h)).step he

/-- Time that passes submits a document, and then one, exactly if its quiet period ends by then and
nothing has disturbed it. A demand submits at once and leaves nothing pending, an unknown mode is
refused and changes nothing, nothing else submits, and only in automatic mode is anything pending.
-/
theorem submits_iff_quiet (now delay : τ) (minLength : Int) (mode : CompileMode)
    (es : List (Event τ)) (hes : ∀ place, .expire place ∉ es) :
    let start := new now delay minLength mode
    let a := start.after es
    (∀ time, (a.step (.advance time)).submitted.length ≤ 1
      ∧ ∀ ending t, (ending, t) ∈ (a.step (.advance time)).submitted
        ↔ start.Quiet ending t es ∧ ending ≤ start.clockAfter es + time)
    ∧ (∀ t, (a.step (.compileNow t)).submitted = [(start.clockAfter es, t)]
      ∧ (a.step (.compileNow t)).compiler.isPending = false)
    ∧ (∀ name, name ≠ CompileMode.auto.name → name ≠ CompileMode.manual.name →
      ∃ f, a.step (.setMode name) = ⟨[], some f, a⟩ ∧ f.kind? = some .configuration)
    ∧ (∀ t name, (a.step (.change t)).submitted = [] ∧ (a.step (.setMode name)).submitted = [])
    ∧ (a.isPending = true → a.mode = .auto) := by
  intro start a
  have h : Inv start a es := inv_after now delay minLength mode es hes
  refine ⟨fun time => ⟨?_, fun ending t => ?_⟩, fun t => ⟨?_, rfl⟩, fun name hauto hmanual => ?_,
    fun t name => ⟨rfl, ?_⟩, h.auto_of_pending⟩
  · exact Option.length_toList_le
  · rw [← h.awaits_iff, ← h.now_eq, ← Debouncer.advance_call_iff]
    exact Option.mem_toList
  · rw [← h.now_eq]
    rfl
  · obtain ⟨hname, -⟩ | ⟨hname, -⟩ | ⟨-, -, herror⟩ := CompileMode.ofName_cases name
    · exact absurd hname hauto
    · exact absurd hname hmanual
    · exact ⟨_, by rw [step, herror], rfl⟩
  · obtain ⟨-, hok⟩ | ⟨-, hok⟩ | ⟨-, -, hok⟩ := CompileMode.ofName_cases name <;> rw [step, hok]

theorem quiet_of_mode_set_again :
    (∀ place : Nat, .expire place ∉ [Event.change ['a', 'b'], .advance 1, .setMode "auto".toList])
      ∧ Quiet (new 0 2 1 .auto) 2 ['a', 'b']
        [.change ['a', 'b'], .advance 1, .setMode "auto".toList] := by
  have hes : ∀ place : Nat,
      .expire place ∉ [Event.change ['a', 'b'], .advance 1, .setMode "auto".toList] := by simp
  have hsubmitted := (submits_iff_quiet 0 2 1 .auto _ hes).1 1
  exact ⟨hes, ((hsubmitted.2 2 ['a', 'b']).1 (by decide)).1⟩

end AutoCompiler

end ExerciseSheet

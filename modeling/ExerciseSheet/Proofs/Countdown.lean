import ExerciseSheet.Job.Debounce
import ExerciseSheet.Proofs.History
import Mathlib.Data.List.Induction

/-!
# Which countdown calls

The log of a run has every event with the call it made. Whatever happens, only the countdown that
the latest trigger started can be pending, and it is pending exactly while that trigger has been
neither called nor cancelled (`Inv`, kept by every step). So a countdown that ends late, after a
newer trigger or a cancel, makes no call, and no trigger leads to two (`expiry_calls_iff_latest`).
-/

namespace ExerciseSheet

namespace Debouncer

variable {α τ : Type}

/-- The arguments of an event that is a trigger. -/
def Event.args? : Event α τ → Option α
  | .trigger args => some args
  | _ => none

/-- Whether an event drops the call that was pending before it. -/
def Event.Drops : Event α τ → Prop
  | .trigger _ => True
  | .cancel => True
  | _ => False

/-- The arguments of the triggers of a log, the oldest first. -/
def triggered (past : List (Event α τ × Option α)) : List α := past.filterMap (·.1.args?)

/-- The trigger at a place among all of a log is its latest, and no cancel has happened since. -/
def Latest (place : Nat) (args : α) : List (Event α τ × Option α) → Prop :=
  Since (fun before s => s.1 = .trigger args ∧ (triggered before).length = place)
    fun _ s => ¬ s.1.Drops

/-- The latest trigger of a log has been neither cancelled nor called. -/
def Awaited : List (Event α τ × Option α) → Prop :=
  Since (fun _ s => ∃ args, s.1 = .trigger args) fun _ s => ¬ s.1.Drops ∧ s.2 = none

theorem expire_cases (d : Debouncer α τ) (place : Nat) :
    (∃ ending, d.current = some (place, ending)
      ∧ d.expire place = (d.started[place]?, d.cancel.2))
    ∨ ((∀ ending, d.current ≠ some (place, ending)) ∧ d.expire place = (none, d)) := by
  unfold expire
  rcases d.current with _ | ⟨i, ending⟩
  · exact .inr ⟨fun _ => nofun, rfl⟩
  · by_cases h : i = place
    · subst h
      exact .inl ⟨ending, rfl, if_pos rfl⟩
    · refine .inr ⟨fun _ heq => h ?_, if_neg h⟩
      cases heq
      rfl

variable {d : Debouncer α τ} {past : List (Event α τ × Option α)}

theorem triggered_append_singleton (s : Event α τ × Option α) :
    triggered (past ++ [s]) = triggered past ++ s.1.args?.toList := by
  rw [triggered, List.filterMap_append]
  cases h : s.1.args? <;> simp [triggered, h]

theorem getElem?_triggered_of_latest {place : Nat} {args : α} (h : Latest place args past) :
    (triggered past)[place]? = some args := by
  obtain ⟨before, ⟨e, call⟩, since, rfl, ⟨rfl, rfl⟩, -⟩ := h
  rw [triggered, List.filterMap_append, ← triggered, List.getElem?_append_right (Nat.le_refl _),
    Nat.sub_self]
  rfl

/-- What holds of a debouncer after the events of a log. -/
structure Inv (d : Debouncer α τ) (past : List (Event α τ × Option α)) : Prop where
  started_eq : d.started = triggered past
  current_last : ∀ i ending, d.current = some (i, ending) → i + 1 = d.started.length
  latest_of_current : ∀ i ending, d.current = some (i, ending) →
    ∃ args, d.started[i]? = some args ∧ Latest i args past
  pending_iff : d.isPending = true ↔ Awaited past
  not_current_of_called : ∀ i args, (.expire i, some args) ∈ past →
    i < d.started.length ∧ ∀ ending, d.current ≠ some (i, ending)

theorem new_inv (now delay : τ) : (new now delay : Debouncer α τ).Inv [] where
  started_eq := rfl
  current_last _ _ h := nomatch h
  latest_of_current _ _ h := nomatch h
  pending_iff := iff_of_false Bool.false_ne_true not_since_nil
  not_current_of_called _ _ h := nomatch h

theorem Inv.cancel (h : d.Inv past) : d.cancel.2.Inv (past ++ [(.cancel, none)]) where
  started_eq := by
    rw [triggered_append_singleton, ← h.started_eq]
    exact (List.append_nil _).symm
  current_last _ _ hc := nomatch hc
  latest_of_current _ _ hc := nomatch hc
  pending_iff := by
    refine iff_of_false Bool.false_ne_true fun hawaited => ?_
    obtain ⟨args, hargs⟩ | ⟨-, hkeeps⟩ := since_append_singleton.1 hawaited
    · cases hargs
    · exact hkeeps.1 trivial
  not_current_of_called i args hmem := by
    rcases List.mem_append.1 hmem with hmem | hmem
    · exact ⟨(h.not_current_of_called i args hmem).1, fun _ => nofun⟩
    · cases List.mem_singleton.1 hmem

variable [Add τ]

theorem Inv.trigger (h : d.Inv past) (args : α) :
    (d.trigger args).Inv (past ++ [(.trigger args, none)]) where
  started_eq := by
    rw [triggered_append_singleton, ← h.started_eq]
    rfl
  current_last i ending hc := by
    cases hc
    show d.started.length + 1 = (d.started ++ [args]).length
    rw [List.length_append, List.length_singleton]
  latest_of_current i ending hc := by
    cases hc
    exact ⟨args, List.getElem?_concat_length,
      since_append_singleton.2 (.inl ⟨rfl, congrArg _ h.started_eq.symm⟩)⟩
  pending_iff := iff_of_true rfl (since_append_singleton.2 (.inl ⟨args, rfl⟩))
  not_current_of_called i args' hmem := by
    rcases List.mem_append.1 hmem with hmem | hmem
    · have hlt := (h.not_current_of_called i args' hmem).1
      refine ⟨?_, fun ending hc => ?_⟩
      · exact Nat.lt_of_lt_of_le hlt (List.length_append ▸ Nat.le_add_right _ _)
      · cases hc
        exact Nat.lt_irrefl _ hlt
    · cases List.mem_singleton.1 hmem

variable [LE τ] [DecidableLE τ]

/-- The debouncer after some events. -/
def after (d : Debouncer α τ) (es : List (Event α τ)) : Debouncer α τ :=
  es.foldl (fun d e => (d.step e).2) d

/-- The events of a run, each with the call it makes. -/
def log (d : Debouncer α τ) (es : List (Event α τ)) : List (Event α τ × Option α) :=
  es.zip ((d.run es).map (·.1))

variable {e : Event α τ}

theorem after_append_singleton (d : Debouncer α τ) (es : List (Event α τ)) (e : Event α τ) :
    d.after (es ++ [e]) = ((d.after es).step e).2 := by
  rw [after, List.foldl_append]
  rfl

theorem log_append_singleton (d : Debouncer α τ) (es : List (Event α τ)) (e : Event α τ) :
    d.log (es ++ [e]) = d.log es ++ [(e, ((d.after es).step e).1)] := by
  induction es generalizing d with
  | nil => rfl
  | cons f es ih => exact congrArg _ (ih (d.step f).2)

theorem advance_cases (d : Debouncer α τ) (time : τ) :
    (∃ i ending, d.current = some (i, ending) ∧ ending ≤ d.now + time
      ∧ d.advance time
        = (d.started[i]?.map (ending, ·), { d.cancel.2 with now := d.now + time }))
    ∨ ((∀ i ending, d.current = some (i, ending) → ¬ ending ≤ d.now + time)
      ∧ d.advance time = (none, { d with now := d.now + time })) := by
  unfold advance
  rcases hc : d.current with _ | ⟨i, ending⟩
  · exact .inr ⟨fun _ _ => nofun, rfl⟩
  · by_cases h : ending ≤ d.now + time
    · refine .inl ⟨i, ending, rfl, h, ?_⟩
      simp only [if_pos h, expire, hc]
      rfl
    · refine .inr ⟨fun _ _ heq => ?_, by simp only [if_neg h]⟩
      cases heq
      exact h

/-- An event that is no trigger and no cancel leaves the pending call alone or makes it. -/
theorem step_cases_of_not_drops
    (hlast : ∀ i ending, d.current = some (i, ending) → i + 1 = d.started.length)
    (he : ¬ e.Drops) :
    (∃ i ending args, d.current = some (i, ending) ∧ d.started[i]? = some args
      ∧ (d.step e).1 = some args ∧ (d.step e).2.current = none
      ∧ (d.step e).2.started = d.started ∧ ∀ place, e = .expire place → place = i)
    ∨ ((d.step e).1 = none ∧ (d.step e).2.current = d.current
      ∧ (d.step e).2.started = d.started
      ∧ ∀ place, e = .expire place → ∀ ending, d.current ≠ some (place, ending)) := by
  have hplace : ∀ i ending, d.current = some (i, ending) →
      ∃ args, d.started[i]? = some args := by
    intro i ending hc
    have := hlast i ending hc
    exact ⟨_, List.getElem?_eq_getElem (by omega)⟩
  cases e with
  | trigger args => exact (he trivial).elim
  | cancel => exact (he trivial).elim
  | expire place =>
    rw [step]
    obtain ⟨ending, hc, hexpire⟩ | ⟨hc, hexpire⟩ := d.expire_cases place <;> rw [hexpire]
    · obtain ⟨args, hargs⟩ := hplace place ending hc
      exact .inl ⟨place, ending, args, hc, hargs, hargs, rfl, rfl, fun _ h => by cases h; rfl⟩
    · exact .inr ⟨rfl, rfl, rfl, fun _ h => by cases h; exact hc⟩
  | advance time =>
    rw [step]
    obtain ⟨i, ending, hc, -, hadvance⟩ | ⟨-, hadvance⟩ := d.advance_cases time <;> rw [hadvance]
    · obtain ⟨args, hargs⟩ := hplace i ending hc
      exact .inl ⟨i, ending, args, hc, hargs, by rw [hargs]; rfl, rfl, rfl, fun _ => nofun⟩
    · exact .inr ⟨rfl, rfl, rfl, fun _ => nofun⟩

theorem Inv.step (h : d.Inv past) (e : Event α τ) :
    (d.step e).2.Inv (past ++ [(e, (d.step e).1)]) := by
  by_cases he : e.Drops
  · cases e with
    | trigger args => exact h.trigger args
    | cancel => exact h.cancel
    | expire place => exact he.elim
    | advance time => exact he.elim
  · have hargs : e.args? = none := by
      cases e <;> first | rfl | exact (he trivial).elim
    have hstarted : (d.step e).2.started = triggered (past ++ [(e, (d.step e).1)]) ↔
        (d.step e).2.started = d.started := by
      rw [triggered_append_singleton, ← h.started_eq, hargs]
      simp
    have hnew : ∀ args, ¬ e = .trigger args := fun args h => he (h ▸ trivial)
    obtain ⟨i, ending, args, hc, hi, hcall, hcurrent, hs, hplace⟩
      | ⟨hcall, hcurrent, hs, hplace⟩ := step_cases_of_not_drops h.current_last he
    · -- the pending call is made
      refine ⟨hstarted.2 hs, ?_, ?_, ?_, ?_⟩
      · rw [hcurrent]
        exact fun _ _ => nofun
      · rw [hcurrent]
        exact fun _ _ => nofun
      · rw [isPending, hcurrent]
        refine iff_of_false Bool.false_ne_true fun hawaited => ?_
        obtain ⟨args', hargs'⟩ | ⟨-, hkeeps⟩ := since_append_singleton.1 hawaited
        · exact hnew args' hargs'
        · exact Option.some_ne_none args (hcall.symm.trans hkeeps.2)
      · intro place args' hmem
        rw [hcurrent, hs]
        refine ⟨?_, fun _ => nofun⟩
        rcases List.mem_append.1 hmem with hmem | hmem
        · exact (h.not_current_of_called place args' hmem).1
        · obtain rfl := hplace place (congrArg Prod.fst (List.mem_singleton.1 hmem)).symm
          exact (List.getElem?_eq_some_iff.1 hi).1
    · -- nothing is called, and what is pending stays so
      refine ⟨hstarted.2 hs, ?_, ?_, ?_, ?_⟩
      · rw [hcurrent, hs]
        exact h.current_last
      · rw [hcurrent, hs]
        intro i ending hc
        obtain ⟨args, hi, hlatest⟩ := h.latest_of_current i ending hc
        exact ⟨args, hi, since_append_singleton.2 (.inr ⟨hlatest, he⟩)⟩
      · rw [isPending, hcurrent, ← isPending, h.pending_iff]
        constructor
        · exact fun hawaited => since_append_singleton.2 (.inr ⟨hawaited, he, hcall⟩)
        · intro hawaited
          obtain ⟨args', hargs'⟩ | ⟨hawaited, -⟩ := since_append_singleton.1 hawaited
          · exact (hnew args' hargs').elim
          · exact hawaited
      · intro place args' hmem
        rw [hcurrent, hs]
        rcases List.mem_append.1 hmem with hmem | hmem
        · exact h.not_current_of_called place args' hmem
        · have := congrArg Prod.snd (List.mem_singleton.1 hmem)
          exact absurd (this.trans hcall) (Option.some_ne_none args')

theorem inv_after (now delay : τ) (es : List (Event α τ)) :
    ((new now delay).after es).Inv ((new now delay).log es) := by
  induction es using List.reverseRecOn with
  | nil => exact new_inv now delay
  | append_singleton es e ih =>
    rw [after_append_singleton, log_append_singleton]
    exact ih.step e

/-- As long as no time passes, the countdown of the latest trigger stays pending until it ends. -/
theorem current_of_latest {place : Nat} {args : α} (now delay : τ) (es : List (Event α τ))
    (hes : ∀ time, .advance time ∉ es) (hplace : .expire place ∉ es)
    (h : Latest place args ((new now delay).log es)) :
    ∃ ending, ((new now delay).after es).current = some (place, ending) := by
  induction es using List.reverseRecOn with
  | nil => exact (not_since_nil h).elim
  | append_singleton es e ih =>
    have hinv := inv_after now delay es
    rw [log_append_singleton] at h
    rw [after_append_singleton]
    obtain ⟨rfl, hcount⟩ | ⟨hlatest, he⟩ := since_append_singleton.1 h
    · -- the last event started the countdown
      rw [← hcount, ← hinv.started_eq]
      exact ⟨_, rfl⟩
    · obtain ⟨ending, hc⟩ := ih (fun time hmem => hes time (List.mem_append_left _ hmem))
        (fun hmem => hplace (List.mem_append_left _ hmem)) hlatest
      refine ⟨ending, ?_⟩
      cases e with
      | trigger args' => exact (he trivial).elim
      | cancel => exact (he trivial).elim
      | advance time => exact absurd (List.mem_append_right _ (List.mem_singleton.2 rfl)) (hes time)
      | expire other =>
        rw [step]
        obtain ⟨_, hother, -⟩ | ⟨-, hexpire⟩ := ((new now delay).after es).expire_cases other
        · rw [hc] at hother
          cases hother
          exact absurd (List.mem_append_right _ (List.mem_singleton.2 rfl)) hplace
        · rw [hexpire]
          exact hc

/-- A countdown that ends calls exactly if its trigger is the latest and has not been cancelled.
Every call is made by such an end, with the arguments of its own trigger and for the first time. A
call is pending, as a cancel then says, exactly while the latest trigger is neither called nor
cancelled. -/
theorem expiry_calls_iff_latest (now delay : τ) (es : List (Event α τ))
    (hes : ∀ time, .advance time ∉ es) :
    let d := (new now delay).after es
    let past := (new now delay).log es
    (∀ place args, .expire place ∉ es →
      ((d.step (.expire place)).1 = some args ↔ Latest place args past))
    ∧ (∀ e args, (∀ time, e ≠ .advance time) → (d.step e).1 = some args →
      ∃ place, e = .expire place ∧ (triggered past)[place]? = some args
        ∧ ∀ args', (.expire place, some args') ∉ past)
    ∧ (d.isPending = true ↔ Awaited past)
    ∧ (d.cancel.1 = true ↔ Awaited past) := by
  intro d past
  have hinv : d.Inv past := inv_after now delay es
  refine ⟨fun place args hplace => ?_, fun e args he hcall => ?_, hinv.pending_iff,
    hinv.pending_iff⟩
  · obtain ⟨ending, hc, hexpire⟩ | ⟨hc, hexpire⟩ := d.expire_cases place <;> rw [step, hexpire]
    · obtain ⟨args', hargs', hlatest⟩ := hinv.latest_of_current place ending hc
      constructor
      · intro hargs
        obtain rfl := Option.some.inj (hargs'.symm.trans hargs)
        exact hlatest
      · intro hlatest
        rw [hinv.started_eq]
        exact getElem?_triggered_of_latest hlatest
    · refine iff_of_false nofun fun hlatest => ?_
      obtain ⟨ending, hc'⟩ := current_of_latest now delay es hes hplace hlatest
      exact hc ending hc'
  · cases e with
    | trigger _ => cases hcall
    | cancel => cases hcall
    | advance time => exact absurd rfl (he time)
    | expire place =>
      refine ⟨place, rfl, ?_⟩
      rw [step] at hcall
      obtain ⟨ending, hc, hexpire⟩ | ⟨-, hexpire⟩ := d.expire_cases place <;> rw [hexpire] at hcall
      · rw [← hinv.started_eq]
        exact ⟨hcall, fun args' hmem => (hinv.not_current_of_called place args' hmem).2 ending hc⟩
      · cases hcall

theorem latest_of_late_expiry :
    (∀ time : Nat, .advance time ∉ [Event.trigger 'a', .cancel, .trigger 'b', .expire 0])
      ∧ Latest 1 'b' ((new 0 5).log [Event.trigger 'a', .cancel, .trigger 'b', .expire 0]) := by
  have hes : ∀ time : Nat, .advance time ∉ [Event.trigger 'a', .cancel, .trigger 'b', .expire 0] :=
    by simp
  refine ⟨hes, ?_⟩
  exact ((expiry_calls_iff_latest 0 5 _ hes).1 1 'b' (by simp)).1 rfl

end Debouncer

end ExerciseSheet

import ExerciseSheet.Buffer
import ExerciseSheet.Proofs.OpenSession
import ExerciseSheet.Proofs.Replacement

/-!
# What an editing run keeps

In every state of a run the caret lies in the text, and a session that is open has read the text
between its trigger and the caret and lists the matches for it (`Inv`). A palette reads its query
again after every change (`refresh_inv`), so a step keeps the invariant as soon as the caret stays
in the text and the palette keeps to its catalog; the steps that change neither text nor caret leave
the session's trigger and query alone, and a commit closes the session.
-/

namespace ExerciseSheet

namespace Buffer

/-- What holds of a buffer whatever its user does. -/
structure Inv (b : Buffer) (catalog : Catalog) (c : Char) : Prop where
  caret_le : b.caret ≤ b.text.length
  lists : b.palette.Lists catalog [c]
  reads : ∀ s, b.palette.session = some s → s.Reads c b.text b.caret

variable {b : Buffer} {catalog : Catalog} {c : Char}

theorem new_inv (catalog : Catalog) (text : Text) (c : Char) :
    (new catalog text [c]).Inv catalog c :=
  ⟨Nat.le_refl _, Palette.new_lists _ _ _, fun _ h => by cases h⟩

theorem refresh_inv (hcaret : b.caret ≤ b.text.length) (h : b.palette.Lists catalog [c]) :
    b.refresh.Inv catalog c :=
  ⟨hcaret, h.textChanged _ _, fun _ hs => Palette.textChanged_reads h.trigger_eq hs⟩

theorem Inv.closed {p : Palette} (h : b.Inv catalog c) (hp : p.Lists catalog [c])
    (hs : p.session = none) : Inv { b with palette := p } catalog c :=
  ⟨h.caret_le, hp, fun _ h' => by rw [hs] at h'; cases h'⟩

section Typing

theorem insert_caret_le (hcaret : b.caret ≤ b.text.length) (t : Text) :
    b.caret + t.length ≤ (b.text.splice b.caret b.caret t).length := by
  rw [length_splice hcaret]
  omega

theorem deleteBack_caret_le {n : Nat} (hcaret : n + 1 ≤ b.text.length) :
    n ≤ (b.text.splice n (n + 1 : Nat) []).length := by
  rw [length_splice (by omega)]
  omega

theorem insert_inv (hcaret : b.caret ≤ b.text.length) (h : b.palette.Lists catalog [c])
    (t : Text) : (b.insert t).buffer.Inv catalog c :=
  refresh_inv (insert_caret_le hcaret t) (h.notifyEdit _)

theorem deleteBack_inv (hcaret : b.caret ≤ b.text.length) (h : b.palette.Lists catalog [c]) :
    b.deleteBack.buffer.Inv catalog c := by
  unfold deleteBack
  split
  · exact refresh_inv hcaret h
  · next n hn =>
    have hn' : n + 1 ≤ b.text.length := by omega
    exact refresh_inv (deleteBack_caret_le hn') (h.notifyEdit _)

/-- A text that is typed, or deletes by its spelling, has the query read again. -/
theorem applyPress_text_inv (hcaret : b.caret ≤ b.text.length) (h : b.palette.Lists catalog [c])
    (t : Text) : (b.applyPress (.text t)).buffer.Inv catalog c := by
  unfold applyPress
  split_ifs
  · exact deleteBack_inv hcaret h
  · exact insert_inv hcaret h t

theorem Inv.applyPress (h : b.Inv catalog c) (k : Press) :
    (b.applyPress k).buffer.Inv catalog c := by
  cases k with
  | text t => exact applyPress_text_inv h.caret_le h.lists t
  | key k =>
    unfold Buffer.applyPress
    split_ifs
    · exact deleteBack_inv h.caret_le h.lists
    · simp only
      split
      · exact insert_inv h.caret_le h.lists _
      · exact h

end Typing

section Pressing

variable {k : Press} {i : Int} {reply : Reply} {plan : InsertionPlan} {s : Session} {r : Ranked}

theorem press_of_plan (hp : b.palette.press k b.text b.caret = reply)
    (h : reply.plan = some plan) :
    b.press k = { b with palette := reply.palette }.carryOut plan reply.notices := by
  unfold press
  simp only [hp, h]

theorem press_of_consumed (hp : b.palette.press k b.text b.caret = reply)
    (h : reply.plan = none) (hc : reply.consumed = true) :
    b.press k = ⟨none, reply.notices, { b with palette := reply.palette }⟩ := by
  unfold press
  simp only [hp, h, hc, if_true]

theorem press_of_passed (hp : b.palette.press k b.text b.caret = reply)
    (h : reply.plan = none) (hc : reply.consumed = false) :
    b.press k = { b with palette := reply.palette }.applyPress k := by
  unfold press
  simp only [hp, h, hc, Bool.false_eq_true, if_false]

theorem select_of_plan (hp : b.palette.select i b.text b.caret = reply)
    (h : reply.plan = some plan) :
    b.select i = { b with palette := reply.palette }.carryOut plan reply.notices := by
  unfold select
  simp only [hp, h]

theorem select_of_none (hp : b.palette.select i b.text b.caret = reply)
    (h : reply.plan = none) :
    b.select i = ⟨none, reply.notices, { b with palette := reply.palette }⟩ := by
  unfold select
  simp only [hp, h]

theorem carryOut_given_text (b : Buffer) (inMath : Bool) (e : Entry) (document : Text)
    (t caret : Nat) (notices : List Notice) :
    (b.carryOut (.given inMath e document t caret) notices).buffer.text
      = (InsertionPlan.given inMath e document t caret).apply b.text := by
  simp only [carryOut, replace, InsertionPlan.apply, InsertionPlan.given_start,
    InsertionPlan.given_stop, Int.toNat_natCast]

theorem carryOut_given_caret_le {t : Nat} (ht : t ≤ b.text.length) (inMath : Bool) (e : Entry)
    (notices : List Notice) :
    (b.carryOut (.given inMath e b.text t b.caret) notices).buffer.caret
      ≤ (b.carryOut (.given inMath e b.text t b.caret) notices).buffer.text.length := by
  obtain ⟨k, hk, hcursor⟩ := InsertionPlan.given_cursor inMath e b.text t b.caret
  rw [carryOut_given_text, InsertionPlan.apply, InsertionPlan.given_start,
    InsertionPlan.given_stop, length_splice ht]
  change (InsertionPlan.given inMath e b.text t b.caret).cursor.toNat ≤ _
  rw [hcursor]
  omega

theorem carryOut_given_inv {p : Palette} {t : Nat} (ht : t ≤ b.text.length)
    (hp : p.Lists catalog [c]) (hs : p.session = none) (inMath : Bool) (e : Entry)
    (notices : List Notice) :
    ({ b with palette := p }.carryOut (.given inMath e b.text t b.caret) notices).buffer.Inv
      catalog c :=
  ⟨carryOut_given_caret_le ht inMath e notices, hp.notifyEdit _,
    fun _ h => by cases hs.symm.trans h⟩

/-- A buffer commits an entry by carrying out its plan. -/
def CommitsTo (b : Buffer) (e : Entry) (t : Nat) (after : Edited) : Prop :=
  let reply := b.palette.commitEntry e t b.text b.caret
  ∃ inMath, after = { b with palette := reply.palette }.carryOut
    (.given inMath e b.text t b.caret) reply.notices

theorem press_commitsTo (hs : b.palette.session = some s) (hk : k.commits = true)
    (hr : s.selected? = some r) : b.CommitsTo r.entry s.trigger (b.press k) := by
  have hp : b.palette.press k b.text b.caret
      = b.palette.commitEntry r.entry s.trigger b.text b.caret := by
    rw [Palette.press_of_commits hs hk, Palette.commit_of_selected hr]
  obtain ⟨inMath, hplan⟩ := b.palette.commitEntry_plan r.entry s.trigger b.text b.caret
  exact ⟨inMath, press_of_plan hp hplan⟩

theorem select_commitsTo (hs : b.palette.session = some s) (h0 : 0 ≤ i)
    (hr : s.results[i.toNat]? = some r) : b.CommitsTo r.entry s.trigger (b.select i) := by
  obtain ⟨inMath, hplan⟩ := b.palette.commitEntry_plan r.entry s.trigger b.text b.caret
  exact ⟨inMath, select_of_plan (Palette.select_of_row hs h0 hr) hplan⟩

theorem Inv.commitsTo {e : Entry} {after : Edited} (h : b.Inv catalog c)
    (hs : b.palette.session = some s) (hafter : b.CommitsTo e s.trigger after) :
    after.buffer.Inv catalog c := by
  obtain ⟨inMath, rfl⟩ := hafter
  exact carryOut_given_inv (h.reads s hs).trigger_le_length (h.lists.commitEntry _ _ _ _) rfl _ _ _

theorem Inv.press (h : b.Inv catalog c) (k : Press) : (b.press k).buffer.Inv catalog c := by
  obtain ⟨hs, hp⟩ | ⟨s, hs, ⟨-, hp⟩ | ⟨step, -, hp⟩ | ⟨hk, hp⟩ | ⟨-, -, hp⟩ | ⟨-, hp⟩⟩ :=
    b.palette.press_cases k b.text b.caret
  · split_ifs at hp with hk
    · -- the new session reads its query once the trigger is typed
      rw [h.lists.trigger_eq] at hk
      obtain rfl := Press.eq_text_of_spelling hk
      rw [press_of_passed hp rfl rfl]
      refine applyPress_text_inv ?_ ?_ _
      · exact h.caret_le
      · exact h.lists.openAt _
    · rw [press_of_passed hp rfl rfl]
      exact h.applyPress k
  · rw [press_of_consumed hp rfl rfl]
    exact h.closed (h.lists.close _) rfl
  · rw [press_of_consumed hp rfl rfl]
    refine ⟨h.caret_le, h.lists.move hs step, fun s' hs' => ?_⟩
    obtain rfl : s.move step = s' := Option.some.inj hs'
    exact (h.reads s hs).move step
  · rcases hr : s.selected? with _ | r
    · rw [Palette.commit_of_none hr] at hp
      rw [press_of_consumed hp rfl rfl]
      exact h
    · exact h.commitsTo hs (press_commitsTo hs hk hr)
  · rw [press_of_passed hp rfl rfl]
    exact (h.closed (h.lists.close _) rfl).applyPress k
  · rw [press_of_passed hp rfl rfl]
    exact h.applyPress k

theorem Inv.select (h : b.Inv catalog c) (i : Int) : (b.select i).buffer.Inv catalog c := by
  obtain hp | ⟨s, r, hs, h0, hr, -⟩ := b.palette.select_cases i b.text b.caret
  · rw [select_of_none hp rfl]
    exact h
  · exact h.commitsTo hs (select_commitsTo hs h0 hr)

end Pressing

section Running

theorem type_inv : ∀ (t : Text) {b : Buffer}, b.Inv catalog c → (b.type t).buffer.Inv catalog c
  | [], _, h => h
  | _ :: t, _, h => type_inv t (h.press _)

theorem Inv.moveCaret (h : b.Inv catalog c) (position : Int) :
    (b.moveCaret position).buffer.Inv catalog c :=
  refresh_inv (Nat.min_le_right _ _) h.lists

theorem Inv.dismiss (h : b.Inv catalog c) : b.dismiss.buffer.Inv catalog c :=
  h.closed h.lists.dismiss Palette.dismiss_session

theorem Inv.setText (h : b.Inv catalog c) (t : Text) : (b.setText t).buffer.Inv catalog c := by
  refine ⟨?_, h.lists.dismiss.notifyEdit _, fun s hs => ?_⟩
  · change t.length ≤ (b.text.splice (0 : Nat) b.text.length t).length
    rw [length_splice (Nat.zero_le _)]
    omega
  · cases Palette.dismiss_session.symm.trans hs

theorem step_inv (h : b.Inv catalog c) (a : Action) : (b.step a).buffer.Inv catalog c := by
  cases a with
  | type t => exact type_inv t h
  | press k => exact h.press k
  | move position => exact h.moveCaret position
  | select i => exact h.select i
  | setText t => exact h.setText t
  | dismiss => exact h.dismiss

/-- The buffers of a run, from the first on. -/
def states (b : Buffer) (as : List Action) : List Buffer := b :: (b.run as).map (·.buffer)

/-- What every step keeps holds all along a run. -/
theorem forall_states {P : Buffer → Prop} (hstep : ∀ b a, P b → P (b.step a).buffer) :
    ∀ (as : List Action) {b : Buffer}, P b → ∀ b' ∈ b.states as, P b'
  | [], b, h, b', hb' => by
    obtain rfl : b' = b := by simpa [states, run] using hb'
    exact h
  | a :: as, b, h, b', hb' => by
    rcases List.mem_cons.1 hb' with rfl | hb'
    · exact h
    · exact forall_states hstep as (hstep b a h) b' hb'

theorem inv_of_mem_states {text : Text} {as : List Action}
    (hb : b ∈ (new catalog text [c]).states as) : b.Inv catalog c :=
  forall_states (P := (Inv · catalog c)) (fun _ a h => step_inv h a) as (new_inv _ _ _) b hb

/-- In every state of a run the caret lies in the text, and an open session has its trigger before
the caret, its query from the text between them, the query's matches and a highlight on one of
them. -/
theorem session_matches_text (catalog : Catalog) (text : Text) (c : Char) (as : List Action) :
    ∀ b ∈ (new catalog text [c]).states as,
      b.caret ≤ b.text.length
      ∧ ∀ s, b.palette.session = some s →
        s.trigger < b.text.length ∧ b.text[s.trigger]? = some c ∧ s.trigger ≤ b.caret
        ∧ s.query = b.text.slice (s.trigger + 1) b.caret
        ∧ '\n' ∉ s.query
        ∧ (¬ ∃ x y, [x, y] <:+: s.query ∧ isBlank x = true ∧ isBlank y = true)
        ∧ s.results = rank s.query catalog.entries
        ∧ (s.results = [] → s.index = 0)
        ∧ (s.results ≠ [] → s.index < s.results.length) := by
  intro b hb
  have h := inv_of_mem_states hb
  refine ⟨h.caret_le, fun s hs => ?_⟩
  have hreads := h.reads s hs
  have hlisted := h.lists.session_listed s hs
  exact ⟨hreads.trigger_lt, hreads.trigger_at, hreads.trigger_le, hreads.query_eq,
    hreads.query_line, hreads.query_spaced, hlisted.results_eq, hlisted.index_eq,
    hlisted.index_lt⟩

theorem session_matches_text_of_trigger :
    ∃ b ∈ (new ⟨[infinity], by decide, by decide⟩ ['a'] ['/']).states [.type ['/']],
      ∃ s, b.palette.session = some s ∧ b.text[s.trigger]? = some '/' ∧ s.results ≠ []
        ∧ s.index < s.results.length := by
  refine ⟨_, List.mem_cons_of_mem _ (List.mem_singleton.2 rfl), _, rfl, ?_⟩
  have hsession := (session_matches_text ⟨[infinity], by decide, by decide⟩ ['a'] '/'
    [.type ['/']] _ (List.mem_cons_of_mem _ (List.mem_singleton.2 rfl))).2 _ rfl
  have hne : rank [] [infinity] ≠ [] := by decide
  exact ⟨hsession.2.1, hne, hsession.2.2.2.2.2.2.2.2 hne⟩

end Running

end Buffer

end ExerciseSheet

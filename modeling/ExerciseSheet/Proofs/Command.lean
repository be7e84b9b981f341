import ExerciseSheet.Proofs.Editing

/-!
# What a commit replaces

A commit replaces the text from the trigger up to the caret (`commitsTo_text`). While the caret lies
behind the trigger that is the trigger and the query (`Reads.command_end`). A session stays open
when the caret is moved back onto its trigger, and then nothing is replaced: the snippet is put
before the trigger, which stays (`replaces_command_iff`).
-/

namespace ExerciseSheet

theorem Session.Reads.command_end {s : Session} {c : Char} {document : Text} {caret : Nat}
    (h : s.Reads c document caret) (hcaret : caret ≤ document.length) (hlt : s.trigger < caret) :
    s.trigger + 1 + s.query.length = caret := by
  rw [h.query_eq, length_slice hcaret]
  omega

namespace Buffer

/-- An action commits a row of a session: the highlighted one by a key, any by pointing at it. -/
def Action.Commits (s : Session) (row : Nat) : Action → Prop
  | .press k => k.commits = true ∧ row = s.index
  | .select i => i = row ∧ row < s.results.length
  | _ => False

variable {b : Buffer} {catalog : Catalog} {c : Char} {s : Session} {r : Ranked}

theorem step_commitsTo {row : Nat} {a : Action} (hs : b.palette.session = some s)
    (ha : a.Commits s row) (hr : s.results[row]? = some r) :
    b.CommitsTo r.entry s.trigger (b.step a) := by
  cases a with
  | press k =>
    obtain ⟨hk, rfl⟩ := ha
    exact press_commitsTo hs hk hr
  | select i =>
    obtain ⟨rfl, -⟩ := ha
    exact select_commitsTo hs (Int.natCast_nonneg row) hr
  | type t => exact ha.elim
  | move position => exact ha.elim
  | setText t => exact ha.elim
  | dismiss => exact ha.elim

theorem commitsTo_text {e : Entry} {t : Nat} {after : Edited} (ht : t ≤ b.caret)
    (h : b.CommitsTo e t after) :
    ∃ plan, after.plan = some plan
      ∧ after.buffer.text = b.text.take t ++ plan.wrap.wrap e.id ++ b.text.drop b.caret := by
  obtain ⟨inMath, rfl⟩ := h
  refine ⟨_, rfl, ?_⟩
  rw [carryOut_given_text, InsertionPlan.apply_given, Nat.max_eq_left ht]

theorem row_of_commits {row : Nat} {a : Action} (h : b.Inv catalog c)
    (hs : b.palette.session = some s) (hne : s.results ≠ []) (ha : a.Commits s row) :
    row < s.results.length := by
  cases a with
  | press k =>
    obtain ⟨-, rfl⟩ := ha
    exact (h.lists.session_listed s hs).index_lt hne
  | select i => exact ha.2
  | type t => exact ha.elim
  | move position => exact ha.elim
  | setText t => exact ha.elim
  | dismiss => exact ha.elim

/-- A commit in any state of a run replaces the text from the trigger up to the caret. That is the
trigger and the query exactly when the caret lies behind the trigger. -/
theorem replaces_command_iff (catalog : Catalog) (text : Text) (c : Char) (as : List Action)
    (b : Buffer) (hb : b ∈ (new catalog text [c]).states as) (s : Session)
    (hs : b.palette.session = some s) (hne : s.results ≠ []) (row : Nat) (a : Action)
    (ha : a.Commits s row) :
    ∃ r plan, s.results[row]? = some r ∧ (b.step a).plan = some plan
      ∧ (b.step a).buffer.text
        = b.text.take s.trigger ++ plan.wrap.wrap r.entry.id ++ b.text.drop b.caret
      ∧ ((b.step a).buffer.text
          = b.text.take s.trigger ++ plan.wrap.wrap r.entry.id
            ++ b.text.drop (s.trigger + 1 + s.query.length)
        ↔ s.trigger < b.caret) := by
  have h := inv_of_mem_states hb
  have hreads := h.reads s hs
  have hr := List.getElem?_eq_getElem (row_of_commits h hs hne ha)
  obtain ⟨plan, hplan, htext⟩ := commitsTo_text hreads.trigger_le (step_commitsTo hs ha hr)
  refine ⟨_, plan, hr, hplan, htext, ?_⟩
  rw [htext, List.append_cancel_left_eq]
  constructor
  · intro heq
    have hlen := congrArg List.length heq
    rw [List.length_drop, List.length_drop] at hlen
    have := hreads.trigger_lt
    omega
  · intro hlt
    rw [hreads.command_end h.caret_le hlt]

theorem replaces_command_behind_trigger :
    ∃ b ∈ (new ⟨[infinity], by decide, by decide⟩ ['a'] ['/']).states [.type ['/']],
      ∃ s plan, b.palette.session = some s ∧ (b.step (.press (.key .enter))).plan = some plan
        ∧ (b.step (.press (.key .enter))).buffer.text
          = b.text.take s.trigger ++ plan.wrap.wrap infinity.id
            ++ b.text.drop (s.trigger + 1 + s.query.length) := by
  refine ⟨_, List.mem_cons_of_mem _ (List.mem_singleton.2 rfl), ?_⟩
  obtain ⟨r, plan, hr, hplan, -, hiff⟩ := replaces_command_iff ⟨[infinity], by decide, by decide⟩
    ['a'] '/' [.type ['/']] _ (List.mem_cons_of_mem _ (List.mem_singleton.2 rfl)) _ rfl (by decide)
    0 (.press (.key .enter)) ⟨by decide, rfl⟩
  obtain rfl : ⟨infinity, 0, true⟩ = r := Option.some.inj hr
  exact ⟨_, plan, rfl, hplan, hiff.2 (by decide)⟩

/-- With the caret moved back onto the trigger, a commit leaves the trigger in the text. -/
theorem trigger_stays_behind_caret :
    ∃ b ∈ (new ⟨[infinity], by decide, by decide⟩ [] ['/']).states [.type ['/'], .move 0],
      ∃ s plan, b.palette.session = some s ∧ s.results ≠ []
        ∧ Action.Commits s 0 (.press (.key .enter))
        ∧ (b.step (.press (.key .enter))).plan = some plan
        ∧ (b.step (.press (.key .enter))).buffer.text
          ≠ b.text.take s.trigger ++ plan.wrap.wrap infinity.id
            ++ b.text.drop (s.trigger + 1 + s.query.length) := by
  refine ⟨_, List.mem_cons_of_mem _ (List.mem_cons_of_mem _ (List.mem_singleton.2 rfl)), _, _,
    rfl, by decide, ⟨by decide, rfl⟩, rfl, by decide⟩

end Buffer

end ExerciseSheet

import ExerciseSheet.Proofs.OffsetScan
import ExerciseSheet.Proofs.OpenSession
import ExerciseSheet.Proofs.Replacement

/-!
# Whatever a host reports

A palette that breaks off at the first row or character that is not there, and at a commit without a
row, takes every run of events to its end: no event has to do with the document of the one before,
and the offsets of the trigger, the checkpoint and the caret may all lie past the end of the one
it brings. `stepAt_eq` is one event, which needs no more than that an open session lists the matches
for its query (`Lists`); every event keeps that (`Lists.step`), so a run never breaks off and does
what the palette does (`run_never_breaks_off`).
-/

namespace ExerciseSheet

/-- The highlighted match, which has to be there if there are any rows. -/
def Session.selectedAt (s : Session) : Except Breach (Option Ranked) :=
  if s.results = [] then .ok none else some <$> lookUp s.results s.index

namespace Palette

/-- What a commit makes of the answer about math mode. -/
def committed (asked : Bool × Palette) (e : Entry) (trigger : Nat) (document : Text)
    (caret : Nat) : Reply where
  consumed := true
  plan := some (InsertionPlan.given asked.1 e document trigger caret)
  notices := (if e.requiresMath then [.modeQuery document trigger] else []) ++ [.edit trigger]
  palette := (asked.2.close .committed).notifyEdit trigger

/-- Asks for math mode, the scan looking up each character. -/
def queryModeAt (p : Palette) (document : Text) (offset : Nat) : Except Breach (Bool × Palette) :=
  match p.detector with
  | none => (scanAt document offset .start).map fun s => (s.inMath, p)
  | some d => (d.queryAt document offset).map fun (answer, d) =>
    (answer, { p with detector := some d })

/-- Commits an entry, math mode being asked for if the entry depends on it. -/
def commitEntryAt (p : Palette) (e : Entry) (trigger : Nat) (document : Text) (caret : Nat) :
    Except Breach Reply :=
  (if e.requiresMath then p.queryModeAt document trigger else .ok (false, p)).map fun asked =>
    committed asked e trigger document caret

/-- Commits the highlighted row, which has to be there. -/
def commitAt (p : Palette) (s : Session) (document : Text) (caret : Nat) : Except Breach Reply :=
  s.selectedAt.bind fun
    | none => .error .noRow
    | some r => p.commitEntryAt r.entry s.trigger document caret

/-- Reacts to a press. A key that commits is only consumed when there is no row. -/
def pressAt (p : Palette) (k : Press) (document : Text) (caret : Nat) : Except Breach Reply :=
  match p.session with
  | none => .ok (if k.spelling = p.trigger then (p.openAt caret).pass else p.pass)
  | some s =>
    if k.actsAs .escape then .ok (p.close .cancelled).consume
    else if k.actsAs .down then .ok { p with session := some (s.move 1) }.consume
    else if k.actsAs .up then .ok { p with session := some (s.move (-1)) }.consume
    else if k.commits then
      if s.results = [] then .ok p.consume else p.commitAt s document caret
    else if k.actsAs .backspace && caret ≤ s.trigger then .ok (p.close .caretBeforeTrigger).pass
    else .ok p.pass

/-- Reads the query again, the character at the trigger's offset being looked up. -/
def readQueryAt (trigger : Text) (s : Session) (document : Text) (caret : Nat) :
    Except Breach (Except CloseReason Text) :=
  if caret < s.trigger then .ok (.error .caretBeforeTrigger)
  else if document.length ≤ s.trigger then .ok (.error .triggerRemoved)
  else do
    let c ← lookUp document s.trigger
    if [c] ≠ trigger then return .error .triggerRemoved
    let query := document.slice (s.trigger + trigger.length) caret
    if query.contains '\n' then return .error .newline
    if query.hasBlankRun then return .error .blankRun
    return .ok query

/-- Reads the query again after the document or the caret changed. -/
def textChangedAt (p : Palette) (document : Text) (caret : Nat) : Except Breach Palette :=
  match p.session with
  | none => .ok p
  | some s => (readQueryAt p.trigger s document caret).map fun
    | .error reason => p.close reason
    | .ok query =>
      if query = s.query then p
      else { p with session := some ⟨s.trigger, query, rank query p.catalog.entries, 0⟩ }

/-- Commits a row that is pointed at. -/
def selectAt (p : Palette) (index : Int) (document : Text) (caret : Nat) : Except Breach Reply :=
  match p.session with
  | none => .ok p.pass
  | some s =>
    if 0 ≤ index ∧ index < s.results.length then
      p.commitAt { s with index := index.toNat } document caret
    else .ok p.pass

/-- What the palette makes of an event, unless it breaks off. -/
def stepAt (p : Palette) : Event → Except Breach Reply
  | .press k document caret => p.pressAt k document caret
  | .textChanged document caret => (p.textChangedAt document caret).map pass
  | .select index document caret => p.selectAt index document caret
  | .dismiss => .ok p.dismiss.pass
  | .edit position => .ok (p.notifyEdit position).pass

/-- The replies to a run of events, unless one breaks off. -/
def runAt (p : Palette) : List Event → Except Breach (List Reply)
  | [] => .ok []
  | e :: es => do
    let reply ← p.stepAt e
    return reply :: (← runAt reply.palette es)

variable {p : Palette} {catalog : Catalog} {trigger : Text}

theorem queryModeAt_eq (p : Palette) (document : Text) (offset : Nat) :
    p.queryModeAt document offset = .ok (p.queryMode document offset) := by
  unfold queryModeAt queryMode
  rcases p.detector with _ | d
  · simp only [scanAt_eq]
    rfl
  · simp only [Detector.queryAt_eq]
    rfl

theorem commitEntryAt_eq (p : Palette) (e : Entry) (t : Nat) (document : Text) (caret : Nat) :
    p.commitEntryAt e t document caret = .ok (p.commitEntry e t document caret) := by
  unfold commitEntryAt commitEntry committed
  rw [queryModeAt_eq]
  cases e.requiresMath <;> rfl

theorem commitAt_eq {s : Session} {r : Ranked} (h : s.results[s.index]? = some r)
    (document : Text) (caret : Nat) :
    p.commitAt s document caret = .ok (p.commit s document caret) := by
  have hrows : s.results ≠ [] := fun hnil => by simp [hnil] at h
  have hselected : s.selectedAt = .ok (some r) := by
    rw [Session.selectedAt, if_neg hrows, lookUp_of_getElem? h]
    rfl
  rw [commitAt, hselected, commit_of_selected h]
  exact p.commitEntryAt_eq _ _ _ _

theorem readQueryAt_eq (trigger : Text) (s : Session) (document : Text) (caret : Nat) :
    readQueryAt trigger s document caret = .ok (readQuery trigger s document caret) := by
  unfold readQueryAt readQuery
  by_cases hbefore : caret < s.trigger
  · simp only [if_pos hbefore]
  · by_cases hend : document.length ≤ s.trigger
    · simp [hbefore, hend]
    · have hget := List.getElem?_eq_getElem (Nat.lt_of_not_le hend)
      simp only [if_neg hbefore, if_neg hend, lookUp_of_getElem? hget, hget]
      simp only [bind, Except.bind, pure, Except.pure, Option.map_some, ne_eq, Option.some.injEq]
      split_ifs <;> rfl

theorem textChangedAt_eq (p : Palette) (document : Text) (caret : Nat) :
    p.textChangedAt document caret = .ok (p.textChanged document caret) := by
  unfold textChangedAt textChanged
  rcases p.session with _ | s
  · rfl
  · simp only [readQueryAt_eq]
    rcases readQuery p.trigger s document caret with reason | query <;> rfl

theorem pressAt_eq (h : p.Lists catalog trigger) (k : Press) (document : Text) (caret : Nat) :
    p.pressAt k document caret = .ok (p.press k document caret) := by
  unfold pressAt press
  rcases hs : p.session with _ | s
  · rfl
  · have hlisted := h.session_listed s hs
    simp only
    split_ifs with hescape hdown hup hcommits hrows hback
    any_goals rfl
    · rw [commit_of_none (by simp [Session.selected?, hrows])]
    · exact commitAt_eq (List.getElem?_eq_getElem (hlisted.index_lt hrows)) document caret

theorem selectAt_eq (p : Palette) (index : Int) (document : Text) (caret : Nat) :
    p.selectAt index document caret = .ok (p.select index document caret) := by
  unfold selectAt select
  rcases p.session with _ | s
  · rfl
  · simp only
    split_ifs with hrow
    · have hr : s.results[index.toNat]? = some _ := List.getElem?_eq_getElem (by omega)
      exact commitAt_eq (s := { s with index := index.toNat }) hr document caret
    · rfl

/-- A palette whose session lists the matches for its query takes every event. -/
theorem stepAt_eq (h : p.Lists catalog trigger) (e : Event) : p.stepAt e = .ok (p.step e) := by
  cases e with
  | press k document caret => exact pressAt_eq h k document caret
  | textChanged document caret =>
    rw [stepAt, textChangedAt_eq]
    rfl
  | select index document caret => exact p.selectAt_eq index document caret
  | dismiss => rfl
  | edit position => rfl

theorem runAt_eq : ∀ (es : List Event) {p : Palette}, p.Lists catalog trigger →
    p.runAt es = .ok (p.run es)
  | [], _, _ => rfl
  | e :: es, p, h => by
    rw [runAt, stepAt_eq h]
    simp only [bind, Except.bind, runAt_eq es (h.step e)]
    rfl

/-- A plan has its offsets in order and its caret in the text that it puts in. -/
def WellPlaced (plan : InsertionPlan) : Prop :=
  0 ≤ plan.start ∧ plan.start ≤ plan.stop ∧ plan.start ≤ plan.cursor
    ∧ plan.cursor ≤ plan.start + plan.text.length

theorem wellPlaced_commitEntry {plan : InsertionPlan} {e : Entry} {t : Nat} {document : Text}
    {caret : Nat} (h : (p.commitEntry e t document caret).plan = some plan) : WellPlaced plan := by
  obtain ⟨inMath, hplan⟩ := p.commitEntry_plan e t document caret
  obtain rfl := Option.some.inj (hplan.symm.trans h)
  obtain ⟨k, hk, hcursor⟩ := InsertionPlan.given_cursor inMath e document t caret
  rw [WellPlaced, hcursor, InsertionPlan.given_start, InsertionPlan.given_stop]
  omega

theorem wellPlaced_press {k : Press} {document : Text} {caret : Nat} {plan : InsertionPlan}
    (h : (p.press k document caret).plan = some plan) : WellPlaced plan := by
  obtain ⟨-, hp⟩ | ⟨s, -, ⟨-, hp⟩ | ⟨_, -, hp⟩ | ⟨-, hp⟩ | ⟨-, -, hp⟩ | ⟨-, hp⟩⟩ :=
    p.press_cases k document caret <;> rw [hp] at h
  · split_ifs at h <;> cases h
  · cases h
  · cases h
  · rcases hr : s.selected? with _ | r
    · rw [commit_of_none hr] at h
      cases h
    · rw [commit_of_selected hr] at h
      exact wellPlaced_commitEntry h
  · cases h
  · cases h

theorem wellPlaced_step {e : Event} {plan : InsertionPlan} (h : (p.step e).plan = some plan) :
    WellPlaced plan := by
  cases e with
  | press k document caret => exact wellPlaced_press h
  | select index document caret =>
    obtain hp | ⟨s, r, -, -, -, hp⟩ := p.select_cases index document caret <;>
      rw [step, hp] at h
    · cases h
    · exact wellPlaced_commitEntry h
  | textChanged document caret => cases h
  | dismiss => cases h
  | edit position => cases h

/-- What every step keeps, and what holds of every reply to a step, hold of a run's replies. -/
theorem forall_run {P : Palette → Prop} {Q : Reply → Prop}
    (hkeep : ∀ p e, P p → P (p.step e).palette) (hreply : ∀ p e, P p → Q (p.step e)) :
    ∀ (es : List Event) {p : Palette}, P p → ∀ reply ∈ p.run es, Q reply
  | [], _, _, _, hmem => by cases hmem
  | e :: es, p, h, reply, hmem => by
    rcases List.mem_cons.1 hmem with rfl | hmem
    · exact hreply p e h
    · exact forall_run hkeep hreply es (hkeep p e h) reply hmem

/-- Whatever a host reports, in whatever order and about whatever documents, a palette with or
without a detector never breaks off. After every event an open session lists the matches for its
query with the highlight on one of them, if there are any, and every plan has its offsets in order
and its caret in the text that it puts in. -/
theorem run_never_breaks_off (catalog : Catalog) (trigger : Text) (detector : Option Detector)
    (es : List Event) :
    (new catalog trigger detector).runAt es = .ok ((new catalog trigger detector).run es)
      ∧ ∀ reply ∈ (new catalog trigger detector).run es,
        (∀ s, reply.palette.session = some s → s.results = rank s.query catalog.entries
          ∧ (s.results = [] → s.index = 0) ∧ (s.results ≠ [] → s.index < s.results.length))
        ∧ ∀ plan, reply.plan = some plan →
          0 ≤ plan.start ∧ plan.start ≤ plan.stop ∧ plan.start ≤ plan.cursor
            ∧ plan.cursor ≤ plan.start + plan.text.length := by
  have hnew := new_lists catalog trigger detector
  refine ⟨runAt_eq es hnew, ?_⟩
  refine forall_run (P := (Lists · catalog trigger)) (fun _ e h => h.step e) ?_ es hnew
  intro p e h
  refine ⟨fun s hs => ?_, fun plan hplan => wellPlaced_step hplan⟩
  have hlisted := (h.step e).session_listed s hs
  exact ⟨hlisted.results_eq, hlisted.index_eq, hlisted.index_lt⟩

/-- A trigger past the end of the document that the commit brings. -/
theorem run_never_breaks_off_at_stale_trigger :
    let p := new ⟨[infinity], by decide, by decide⟩ ['/'] (some .new)
    let es := [.press (.text ['/']) ['a', 'b', 'c'] 3, .press (.key .enter) ['x'] 1]
    ∃ replies, p.runAt es = .ok replies ∧ ∃ reply ∈ replies, ∃ plan, reply.plan = some plan
      ∧ plan.start = 3 ∧ plan.start ≤ plan.stop ∧ plan.cursor ≤ plan.start + plan.text.length := by
  intro p es
  obtain ⟨hrun, hreplies⟩ := run_never_breaks_off ⟨[infinity], by decide, by decide⟩ ['/']
    (some .new) es
  refine ⟨_, hrun, _, List.mem_cons_of_mem _ (List.mem_singleton.2 rfl), _, rfl, rfl, ?_⟩
  have hplan := (hreplies _ (List.mem_cons_of_mem _ (List.mem_singleton.2 rfl))).2 _ rfl
  exact ⟨hplan.2.1, hplan.2.2.2⟩

end Palette

end ExerciseSheet

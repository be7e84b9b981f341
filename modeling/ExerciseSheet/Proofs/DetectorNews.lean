import ExerciseSheet.Proofs.Editing

/-!
# What a buffer tells its detector

An operation asks for math mode before anything else, on the text that it starts from, and tells the
detector of an edit that starts no later than the first character it changes (`Tells`). That takes a
caret and an open session's trigger within the text (`Within`), whatever text the trigger is: a
commit reports the trigger's offset, every other edit the caret's.
-/

namespace ExerciseSheet

/-- The detector after what a notice tells it. -/
def Detector.heed (d : Detector) : Notice → Detector
  | .modeQuery document offset => (d.query document offset).2
  | .edit position => d.notifyEdit position
  | .change _ => d

/-- An operation on a text asks its questions first, on that text, and then tells the detector of
edits, none of them behind the first character that changes; the detector hears just this. -/
structure Tells (text : Text) (detector : Option Detector) (e : Edited) : Prop where
  told : e.buffer.text ≠ text → ∃ p, .edit p ∈ e.notices
  kept : ∀ p, .edit p ∈ e.notices → e.buffer.text.take p = text.take p
  asked : ∃ questions news, e.notices = questions ++ news
    ∧ (∀ n ∈ questions, ∃ offset, n = .modeQuery text offset)
    ∧ ∀ document offset, .modeQuery document offset ∉ news
  heard : e.buffer.palette.detector = detector.map (e.notices.foldl Detector.heed ·)

section

variable {text new : Text} {start stop : Nat} {detector : Option Detector} {e : Edited}

theorem tells_of_unchanged (hnotices : e.notices = []) (htext : e.buffer.text = text)
    (hdetector : e.buffer.palette.detector = detector) : Tells text detector e where
  told hne := absurd htext hne
  kept p hp := by simp [hnotices] at hp
  asked := ⟨[], [], hnotices, by simp, by simp⟩
  heard := by simp [hnotices, hdetector]

theorem tells_of_replaced (hstart : start ≤ text.length)
    (hnotices : e.notices = Buffer.replaceNotices start e.buffer.text)
    (htext : e.buffer.text = text.splice start stop new)
    (hdetector : e.buffer.palette.detector = detector.map (·.notifyEdit start)) :
    Tells text detector e where
  told _ := ⟨start, by simp [hnotices, Buffer.replaceNotices]⟩
  kept p hp := by
    obtain rfl : p = start := by simpa [hnotices, Buffer.replaceNotices] using hp
    rw [htext]
    exact take_splice hstart
  asked := ⟨[], _, rfl, by simp, by simp [hnotices, Buffer.replaceNotices]⟩
  heard := by rw [hnotices]; exact hdetector

end

namespace Palette

variable {p : Palette} {document : Text} {caret : Nat}

theorem textChanged_detector : (p.textChanged document caret).detector = p.detector := by
  unfold textChanged
  split
  · rfl
  · split
    · rfl
    · split_ifs <;> rfl

theorem dismiss_detector : p.dismiss.detector = p.detector := by
  unfold dismiss
  split_ifs <;> rfl

theorem queryMode_detector (p : Palette) (document : Text) (offset : Nat) :
    (p.queryMode document offset).2.detector
      = p.detector.map fun d => (d.query document offset).2 := by
  unfold queryMode
  split <;> simp [*]

theorem commitEntry_detector (p : Palette) (e : Entry) (t : Nat) (document : Text) (caret : Nat) :
    (p.commitEntry e t document caret).palette.detector
      = p.detector.map ((p.commitEntry e t document caret).notices.foldl Detector.heed ·) := by
  unfold commitEntry
  cases hmath : e.requiresMath with
  | true =>
    simp only [if_true, notifyEdit, close, queryMode_detector, Option.map_map]
    rfl
  | false => rfl

/-- A session that stays open after a change has its trigger in the text. -/
theorem textChanged_trigger_lt {s : Session}
    (hs : (p.textChanged document caret).session = some s) : s.trigger < document.length := by
  have hread : ∀ {s₀ : Session} {query : Text},
      readQuery p.trigger s₀ document caret = .ok query → s₀.trigger < document.length := by
    intro s₀ query h
    unfold readQuery at h
    split_ifs at h with hlt htrigger
    by_contra hge
    simp [List.getElem?_eq_none (Nat.le_of_not_lt hge)] at htrigger
  unfold textChanged at hs
  rcases hp : p.session with _ | s₀
  · simp [hp] at hs
  · simp only [hp] at hs
    rcases hq : readQuery p.trigger s₀ document caret with reason | query
    · simp [hq, close] at hs
    · simp only [hq] at hs
      split_ifs at hs
      · obtain rfl : s₀ = s := Option.some.inj (hp.symm.trans hs)
        exact hread hq
      · obtain rfl : _ = s := Option.some.inj hs
        exact hread hq

end Palette

namespace Buffer

/-- The caret and the trigger of an open session lie in the text. -/
structure Within (b : Buffer) : Prop where
  caret_le : b.caret ≤ b.text.length
  trigger_le : ∀ s, b.palette.session = some s → s.trigger ≤ b.text.length

variable {b : Buffer}

theorem new_within (catalog : Catalog) (text trigger : Text) : (new catalog text trigger).Within :=
  ⟨Nat.le_refl _, fun _ h => by cases h⟩

theorem refresh_within (hcaret : b.caret ≤ b.text.length) : b.refresh.Within :=
  ⟨hcaret, fun _ hs => Nat.le_of_lt (Palette.textChanged_trigger_lt hs)⟩

theorem within_of_closed (hcaret : b.caret ≤ b.text.length) (hs : b.palette.session = none) :
    b.Within :=
  ⟨hcaret, fun _ h => by simp [hs] at h⟩

theorem insert_tells (hcaret : b.caret ≤ b.text.length) (t : Text) :
    Tells b.text b.palette.detector (b.insert t) :=
  tells_of_replaced hcaret rfl rfl Palette.textChanged_detector

theorem insert_within (hcaret : b.caret ≤ b.text.length) (t : Text) :
    (b.insert t).buffer.Within :=
  refresh_within (insert_caret_le hcaret t)

theorem deleteBack_tells (hcaret : b.caret ≤ b.text.length) :
    Tells b.text b.palette.detector b.deleteBack := by
  unfold deleteBack
  split
  · exact tells_of_unchanged rfl rfl Palette.textChanged_detector
  · next n hn =>
    have hn' : n ≤ b.text.length := by omega
    exact tells_of_replaced hn' rfl rfl Palette.textChanged_detector

theorem deleteBack_within (hcaret : b.caret ≤ b.text.length) : b.deleteBack.buffer.Within := by
  unfold deleteBack
  split
  · exact refresh_within hcaret
  · next n hn =>
    have hn' : n + 1 ≤ b.text.length := by omega
    exact refresh_within (deleteBack_caret_le hn')

theorem applyPress_tells (hcaret : b.caret ≤ b.text.length) (k : Press) :
    Tells b.text b.palette.detector (b.applyPress k) := by
  unfold applyPress
  split_ifs
  · exact deleteBack_tells hcaret
  · cases k with
    | text t => exact insert_tells hcaret t
    | key k =>
      simp only
      split
      · exact insert_tells hcaret _
      · exact tells_of_unchanged rfl rfl rfl

theorem Within.applyPress (h : b.Within) (k : Press) : (b.applyPress k).buffer.Within := by
  unfold Buffer.applyPress
  split_ifs
  · exact deleteBack_within h.caret_le
  · cases k with
    | text t => exact insert_within h.caret_le t
    | key k =>
      simp only
      split
      · exact insert_within h.caret_le _
      · exact h

theorem commitsTo_news {e : Entry} {t : Nat} {after : Edited} (h : b.CommitsTo e t after) :
    after.notices = (if e.requiresMath then [.modeQuery b.text t] else [])
      ++ [.edit t, .edit t, .change after.buffer.text] := by
  obtain ⟨inMath, rfl⟩ := h
  exact List.append_assoc _ [Notice.edit t] _

/-- A commit may ask first; then the palette and the replacement both report the trigger. -/
theorem commitsTo_tells {e : Entry} {t : Nat} {after : Edited} (ht : t ≤ b.text.length)
    (h : b.CommitsTo e t after) : Tells b.text b.palette.detector after := by
  have hnews := commitsTo_news h
  constructor
  · exact fun _ => ⟨t, by simp [hnews]⟩
  · intro p hp
    obtain rfl : p = t := by cases hm : e.requiresMath <;> simpa [hnews, hm] using hp
    obtain ⟨inMath, rfl⟩ := h
    rw [carryOut_given_text, InsertionPlan.apply, InsertionPlan.given_start,
      InsertionPlan.given_stop]
    exact take_splice ht
  · refine ⟨_, _, hnews, ?_, by simp⟩
    cases hm : e.requiresMath <;> simp
  · obtain ⟨inMath, rfl⟩ := h
    change (b.palette.commitEntry e t b.text b.caret).palette.detector.map (·.notifyEdit t) = _
    rw [Palette.commitEntry_detector, Option.map_map]
    congr 1
    funext d
    simp only [carryOut, List.foldl_append]
    rfl

theorem Within.commitsTo {e : Entry} {t : Nat} {after : Edited} (ht : t ≤ b.text.length)
    (h : b.CommitsTo e t after) : after.buffer.Within := by
  obtain ⟨inMath, rfl⟩ := h
  let reply := b.palette.commitEntry e t b.text b.caret
  have hcaret := carryOut_given_caret_le (b := { b with palette := reply.palette }) ht inMath e
    reply.notices
  exact within_of_closed hcaret rfl

theorem Within.press_tells (h : b.Within) (k : Press) :
    Tells b.text b.palette.detector (b.press k) := by
  -- whatever becomes of the session, a press that is let through edits the same text
  have hpassed : ∀ p : Palette, p.detector = b.palette.detector →
      Tells b.text b.palette.detector (({ b with palette := p } : Buffer).applyPress k) :=
    fun p hp => hp ▸ applyPress_tells (b := { b with palette := p }) h.caret_le k
  obtain ⟨-, hp⟩ | ⟨s, hs, ⟨-, hp⟩ | ⟨step, -, hp⟩ | ⟨hk, hp⟩ | ⟨-, -, hp⟩ | ⟨-, hp⟩⟩ :=
    b.palette.press_cases k b.text b.caret
  · split_ifs at hp
    · rw [press_of_passed hp rfl rfl]
      exact hpassed _ rfl
    · rw [press_of_passed hp rfl rfl]
      exact hpassed _ rfl
  · rw [press_of_consumed hp rfl rfl]
    exact tells_of_unchanged rfl rfl rfl
  · rw [press_of_consumed hp rfl rfl]
    exact tells_of_unchanged rfl rfl rfl
  · rcases hr : s.selected? with _ | r
    · rw [Palette.commit_of_none hr] at hp
      rw [press_of_consumed hp rfl rfl]
      exact tells_of_unchanged rfl rfl rfl
    · exact commitsTo_tells (h.trigger_le s hs) (press_commitsTo hs hk hr)
  · rw [press_of_passed hp rfl rfl]
    exact hpassed _ rfl
  · rw [press_of_passed hp rfl rfl]
    exact hpassed _ rfl

theorem Within.press (h : b.Within) (k : Press) : (b.press k).buffer.Within := by
  obtain ⟨-, hp⟩ | ⟨s, hs, ⟨-, hp⟩ | ⟨step, -, hp⟩ | ⟨hk, hp⟩ | ⟨-, -, hp⟩ | ⟨-, hp⟩⟩ :=
    b.palette.press_cases k b.text b.caret
  · split_ifs at hp
    · -- a session is opened at the caret
      rw [press_of_passed hp rfl rfl]
      have hopen : Within { b with palette := b.palette.openAt b.caret } :=
        ⟨h.caret_le, fun s hs => Option.some.inj hs ▸ h.caret_le⟩
      exact hopen.applyPress k
    · rw [press_of_passed hp rfl rfl]
      exact h.applyPress k
  · rw [press_of_consumed hp rfl rfl]
    exact within_of_closed h.caret_le rfl
  · rw [press_of_consumed hp rfl rfl]
    refine ⟨h.caret_le, fun s' hs' => ?_⟩
    obtain rfl : s.move step = s' := Option.some.inj hs'
    exact h.trigger_le s hs
  · rcases hr : s.selected? with _ | r
    · rw [Palette.commit_of_none hr] at hp
      rw [press_of_consumed hp rfl rfl]
      exact h
    · exact Within.commitsTo (h.trigger_le s hs) (press_commitsTo hs hk hr)
  · rw [press_of_passed hp rfl rfl]
    have hclosed : Within { b with palette := b.palette.close .caretBeforeTrigger } :=
      within_of_closed h.caret_le rfl
    exact hclosed.applyPress k
  · rw [press_of_passed hp rfl rfl]
    exact h.applyPress k

theorem Within.select_tells (h : b.Within) (i : Int) :
    Tells b.text b.palette.detector (b.select i) := by
  obtain hp | ⟨s, r, hs, h0, hr, -⟩ := b.palette.select_cases i b.text b.caret
  · rw [select_of_none hp rfl]
    exact tells_of_unchanged rfl rfl rfl
  · exact commitsTo_tells (h.trigger_le s hs) (select_commitsTo hs h0 hr)

theorem Within.select (h : b.Within) (i : Int) : (b.select i).buffer.Within := by
  obtain hp | ⟨s, r, hs, h0, hr, -⟩ := b.palette.select_cases i b.text b.caret
  · rw [select_of_none hp rfl]
    exact h
  · exact Within.commitsTo (h.trigger_le s hs) (select_commitsTo hs h0 hr)

theorem setText_tells (b : Buffer) (t : Text) :
    Tells b.text b.palette.detector (b.setText t) :=
  tells_of_replaced (Nat.zero_le _) rfl rfl
    (congrArg (Option.map _) (Palette.dismiss_detector (p := b.palette)))

theorem setText_within (b : Buffer) (t : Text) : (b.setText t).buffer.Within := by
  refine within_of_closed ?_ Palette.dismiss_session
  change t.length ≤ (b.text.splice (0 : Nat) b.text.length t).length
  rw [length_splice (Nat.zero_le _)]
  omega

theorem type_within : ∀ (t : Text) {b : Buffer}, b.Within → (b.type t).buffer.Within
  | [], _, h => h
  | _ :: t, _, h => type_within t (h.press _)

theorem step_within (h : b.Within) (a : Action) : (b.step a).buffer.Within := by
  cases a with
  | type t => exact type_within t h
  | press k => exact h.press k
  | move position => exact refresh_within (Nat.min_le_right _ _)
  | select i => exact h.select i
  | setText t => exact setText_within b t
  | dismiss => exact within_of_closed h.caret_le Palette.dismiss_session

theorem Within.step_tells (h : b.Within) {a : Action} (ha : ∀ t, a ≠ .type t) :
    Tells b.text b.palette.detector (b.step a) := by
  cases a with
  | type t => exact absurd rfl (ha t)
  | press k => exact h.press_tells k
  | move position => exact tells_of_unchanged rfl rfl Palette.textChanged_detector
  | select i => exact h.select_tells i
  | setText t => exact setText_tells b t
  | dismiss => exact tells_of_unchanged rfl rfl Palette.dismiss_detector

/-- In every state of a run an operation that changes the text reports an edit, every edit that it
reports lies at or before the first character that changes, math mode is asked for on the text
before the change, ahead of every report, and the detector hears of all of this and of nothing
else. Typing is a press for each character. -/
theorem edits_reported_before_change (catalog : Catalog) (text trigger : Text) (as : List Action)
    (b : Buffer) (hb : b ∈ (new catalog text trigger).states as) (a : Action)
    (ha : ∀ t, a ≠ .type t) :
    let e := b.step a
    (e.buffer.text ≠ b.text → ∃ p, .edit p ∈ e.notices ∧ e.buffer.text.take p = b.text.take p)
    ∧ (∀ p, .edit p ∈ e.notices → e.buffer.text.take p = b.text.take p)
    ∧ (∃ questions news, e.notices = questions ++ news
      ∧ (∀ n ∈ questions, ∃ offset, n = .modeQuery b.text offset)
      ∧ ∀ document offset, .modeQuery document offset ∉ news)
    ∧ e.buffer.palette.detector
      = b.palette.detector.map (e.notices.foldl Detector.heed ·) := by
  intro e
  have hwithin : b.Within :=
    forall_states (P := Within) (fun _ a h => step_within h a) as (new_within _ _ _) b hb
  have htells : Tells b.text b.palette.detector e := hwithin.step_tells ha
  refine ⟨fun hne => ?_, htells.kept, htells.asked, htells.heard⟩
  obtain ⟨p, hp⟩ := htells.told hne
  exact ⟨p, hp, htells.kept p hp⟩

theorem edits_reported_before_commit :
    ∃ b ∈ (new ⟨[infinity], by decide, by decide⟩ ['a'] ['/']).states [.type ['/']],
      let e := b.step (.press (.key .enter))
      (∀ t, Action.press (.key .enter) ≠ .type t) ∧ e.buffer.text ≠ b.text
        ∧ .modeQuery b.text 1 ∈ e.notices
        ∧ ∃ p, .edit p ∈ e.notices ∧ e.buffer.text.take p = b.text.take p := by
  have htype : ∀ t, Action.press (.key .enter) ≠ .type t := fun t h => nomatch h
  have hmem : ((new ⟨[infinity], by decide, by decide⟩ ['a'] ['/']).step (.type ['/'])).buffer
      ∈ (new ⟨[infinity], by decide, by decide⟩ ['a'] ['/']).states [.type ['/']] :=
    List.mem_cons_of_mem _ (List.mem_singleton.2 rfl)
  refine ⟨_, hmem, htype, by decide, by decide, ?_⟩
  exact (edits_reported_before_change _ _ _ _ _ hmem _ htype).1 (by decide)

end Buffer

end ExerciseSheet

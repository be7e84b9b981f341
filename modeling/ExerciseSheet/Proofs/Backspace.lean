import ExerciseSheet.Proofs.Editing

/-!
# Deleting back onto the trigger

A palette that sees a backspace with the caret behind its trigger lets it through, and closes after
the deletion unless it can read a query at the trigger's offset (`textChanged_session_eq_none_iff`).
With the caret right behind the trigger the trigger itself is deleted, and what stood behind it
takes its place. So the session ends exactly when that is no second trigger
(`backspace_closes_iff`).
-/

namespace ExerciseSheet

namespace Palette

variable {p : Palette} {c : Char} {s : Session} {document : Text} {caret : Nat}

theorem press_of_backspace {k : Press} (hs : p.session = some s)
    (hk : k.actsAs .backspace = true) :
    p.press k document caret
      = if caret ≤ s.trigger then (p.close .caretBeforeTrigger).pass else p.pass := by
  have hne : ∀ {key}, key ≠ .backspace → ¬ k.actsAs key = true :=
    fun hkey h => hkey (Press.actsAs_unique h hk)
  have hcommits : ¬ k.commits = true := fun h =>
    Press.not_actsAs_of_commits h (by decide) (by decide) hk
  unfold press
  simp only [hs]
  rw [if_neg (hne (by decide)), if_neg (hne (by decide)), if_neg (hne (by decide)),
    if_neg hcommits, hk]
  simp only [Bool.true_and, decide_eq_true_eq]

/-- A change closes the session exactly when the text between trigger and caret is no command. -/
theorem textChanged_session_eq_none_iff (hc : p.trigger = [c]) (hs : p.session = some s) :
    (p.textChanged document caret).session = none
      ↔ ¬ ∃ query, Session.Reads { s with query } c document caret := by
  unfold textChanged
  simp only [hs, hc, ← readQuery_eq_ok_iff]
  rcases readQuery [c] s document caret with reason | query
  · exact iff_of_true rfl fun ⟨_, h⟩ => by cases h
  · refine iff_of_false ?_ fun h => h ⟨query, rfl⟩
    by_cases hsame : query = s.query
    · simp [hsame, hs]
    · simp [hsame]

/-- With the caret on the trigger's offset every text with a trigger there is a command. -/
theorem exists_reads_at_trigger :
    (∃ query, Session.Reads { s with query } c document s.trigger)
      ↔ document[s.trigger]? = some c := by
  constructor
  · rintro ⟨query, h⟩
    exact h.trigger_at
  · intro h
    have hnil : document.slice (s.trigger + 1) s.trigger = [] := slice_eq_nil (by omega)
    refine ⟨[], h, Nat.le_refl _, hnil.symm, by simp, ?_⟩
    rintro ⟨x, y, hxy, -⟩
    simpa using hxy.length_le

end Palette

namespace Buffer

variable {b : Buffer} {c : Char} {s : Session}

theorem deleteBack_of_closed (h : b.palette.session = none) :
    b.deleteBack.buffer.palette.session = none := by
  have hrefresh : ∀ {b : Buffer}, b.palette.session = none → b.refresh.palette.session = none := by
    intro b h
    rw [refresh, Palette.textChanged_of_closed h]
    exact h
  unfold deleteBack
  split
  · exact hrefresh h
  · exact hrefresh (b := { b.replace _ _ [] with caret := _ }) h

theorem deleteBack_caret (b : Buffer) : b.deleteBack.buffer.caret = b.caret - 1 := by
  unfold deleteBack
  split <;> simp_all [refresh]

/-- Deleting the trigger closes the session unless another trigger takes its place. -/
theorem deleteBack_closes_iff (hc : b.palette.trigger = [c]) (hs : b.palette.session = some s)
    (hlt : s.trigger < b.text.length) (hcaret : b.caret = s.trigger + 1) :
    b.deleteBack.buffer.palette.session = none ↔ b.text[s.trigger + 1]? ≠ some c := by
  have hget : (b.text.splice s.trigger (s.trigger + 1 : Nat) [])[s.trigger]?
      = b.text[s.trigger + 1]? := by
    rw [splice_natCast, List.append_nil, List.getElem?_append_right (List.length_take_le _ _),
      List.getElem?_drop, List.length_take_of_le (Nat.le_of_lt hlt), Nat.sub_self]
  unfold deleteBack
  simp only [hcaret]
  rw [ne_eq, ← hget, ← Palette.exists_reads_at_trigger]
  exact Palette.textChanged_session_eq_none_iff hc hs

/-- A backspace with the caret at most right behind the trigger moves the caret onto the trigger's
offset or before it. It ends the session exactly when the caret was not behind the trigger, or what
stands behind the trigger is no second one. -/
theorem backspace_closes_iff (catalog : Catalog) (text : Text) (c : Char) (as : List Action)
    (b : Buffer) (hb : b ∈ (new catalog text [c]).states as) (s : Session)
    (hs : b.palette.session = some s) (k : Press) (hk : k.actsAs .backspace = true)
    (hcaret : b.caret ≤ s.trigger + 1) :
    (b.step (.press k)).buffer.caret ≤ s.trigger
      ∧ ((b.step (.press k)).buffer.palette.session = none
        ↔ b.caret ≤ s.trigger ∨ b.text[s.trigger + 1]? ≠ some c) := by
  have h := inv_of_mem_states hb
  have hpress : b.palette.press k b.text b.caret = _ := Palette.press_of_backspace hs hk
  have happly : ∀ b : Buffer, b.applyPress k = b.deleteBack := fun b => if_pos hk
  change (b.press k).buffer.caret ≤ s.trigger ∧ ((b.press k).buffer.palette.session = none ↔ _)
  split_ifs at hpress with hbefore
  · rw [press_of_passed hpress rfl rfl, happly]
    refine ⟨?_, iff_of_true (deleteBack_of_closed rfl) (.inl hbefore)⟩
    rw [deleteBack_caret]
    exact Nat.le_trans (Nat.sub_le _ _) hbefore
  · rw [press_of_passed hpress rfl rfl, happly, or_iff_right hbefore]
    refine ⟨?_, ?_⟩
    · rw [deleteBack_caret]
      exact Nat.sub_le_of_le_add hcaret
    · have hbehind : b.caret = s.trigger + 1 := by omega
      exact deleteBack_closes_iff h.lists.trigger_eq hs (h.reads s hs).trigger_lt hbehind

theorem backspace_closes_after_trigger :
    ∃ b ∈ (new ⟨[infinity], by decide, by decide⟩ ['a'] ['/']).states [.type ['/']],
      ∃ s, b.palette.session = some s ∧ b.caret ≤ s.trigger + 1
        ∧ (b.step (.press (.key .backspace))).buffer.palette.session = none := by
  refine ⟨_, List.mem_cons_of_mem _ (List.mem_singleton.2 rfl), _, rfl, by decide, ?_⟩
  exact (backspace_closes_iff ⟨[infinity], by decide, by decide⟩ ['a'] '/' [.type ['/']] _
    (List.mem_cons_of_mem _ (List.mem_singleton.2 rfl)) _ rfl (.key .backspace) (by decide)
    (by decide)).2.2 (by decide)

/-- A trigger typed before another one can be deleted without ending the session. -/
theorem backspace_keeps_open_before_trigger :
    ∃ b ∈ (new ⟨[infinity], by decide, by decide⟩ ['/'] ['/']).states [.move 0, .type ['/']],
      ∃ s, b.palette.session = some s ∧ b.caret ≤ s.trigger + 1
        ∧ (b.step (.press (.key .backspace))).buffer.palette.session ≠ none := by
  refine ⟨_, List.mem_cons_of_mem _ (List.mem_cons_of_mem _ (List.mem_singleton.2 rfl)), _, rfl,
    by decide, by decide⟩

end Buffer

end ExerciseSheet

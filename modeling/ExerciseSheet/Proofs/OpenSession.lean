import ExerciseSheet.Palette.Basic
import ExerciseSheet.Proofs.Occurrence

/-!
# What an open session knows

Whatever a palette is told, an open session lists the matches for its query and highlights one of
them if there is one (`Lists.step`). After every change a session that stays open has read its query
between its trigger and the caret (`textChanged_reads`). What a palette can make of a press is said
once (`press_cases`).
-/

namespace ExerciseSheet

theorem Key.one_lt_length_name (k : Key) : 1 < k.name.length := by
  cases k <;> decide

/-- A press is spelled by one character only as that character. -/
theorem Press.eq_text_of_spelling {k : Press} {c : Char} (h : k.spelling = [c]) :
    k = .text [c] := by
  cases k with
  | key k =>
    have := k.one_lt_length_name
    rw [show k.name = [c] from h] at this
    exact absurd this (by simp)
  | text t => exact congrArg text h

theorem Key.name_injective {a b : Key} (h : a.name = b.name) : a = b := by
  cases a <;> cases b <;> first | rfl | exact absurd h (by decide)

theorem Press.actsAs_unique {k : Press} {a b : Key} (ha : k.actsAs a = true)
    (hb : k.actsAs b = true) : a = b :=
  Key.name_injective ((beq_iff_eq.1 ha).symm.trans (beq_iff_eq.1 hb))

theorem Press.not_actsAs_of_commits {k : Press} {a : Key} (hk : k.commits = true)
    (henter : a ≠ .enter) (htab : a ≠ .tab) : ¬ k.actsAs a = true := by
  intro h
  rcases (Bool.or_eq_true _ _).mp hk with h' | h'
  · exact henter (actsAs_unique h h')
  · exact htab (actsAs_unique h h')

namespace Session

/-- The rows of a session are the matches for its query, and the highlight is on one of them, or on
row 0 when there is none. -/
structure Listed (s : Session) (entries : List Entry) : Prop where
  results_eq : s.results = rank s.query entries
  index_eq : s.results = [] → s.index = 0
  index_lt : s.results ≠ [] → s.index < s.results.length

/-- A session has its trigger before the caret, and its query is the text between them, on one line
and without two blanks in a row. -/
structure Reads (s : Session) (trigger : Char) (document : Text) (caret : Nat) : Prop where
  trigger_at : document[s.trigger]? = some trigger
  trigger_le : s.trigger ≤ caret
  query_eq : s.query = document.slice (s.trigger + 1) caret
  query_line : '\n' ∉ s.query
  query_spaced : ¬ ∃ x y, [x, y] <:+: s.query ∧ isBlank x = true ∧ isBlank y = true

variable {s : Session} {entries : List Entry}

theorem Reads.trigger_lt {c : Char} {document : Text} {caret : Nat} (h : s.Reads c document caret) :
    s.trigger < document.length :=
  (List.getElem?_eq_some_iff.1 h.trigger_at).1

theorem Reads.trigger_le_length {c : Char} {document : Text} {caret : Nat}
    (h : s.Reads c document caret) : s.trigger ≤ document.length :=
  Nat.le_of_lt h.trigger_lt

theorem Reads.move {c : Char} {document : Text} {caret : Nat} (h : s.Reads c document caret)
    (step : Int) : (s.move step).Reads c document caret :=
  ⟨h.trigger_at, h.trigger_le, h.query_eq, h.query_line, h.query_spaced⟩

theorem listed_rank (trigger : Nat) (query : Text) (entries : List Entry) :
    Listed ⟨trigger, query, rank query entries, 0⟩ entries where
  results_eq := rfl
  index_eq _ := rfl
  index_lt := List.length_pos_of_ne_nil

theorem Listed.move (h : s.Listed entries) (step : Int) : (s.move step).Listed entries where
  results_eq := h.results_eq
  index_eq hnil := by
    replace hnil : s.results = [] := hnil
    simp only [Session.move, hnil, List.length_nil]
    omega
  index_lt hne := by
    have := List.length_pos_of_ne_nil (l := s.results) hne
    simp only [Session.move]
    omega

end Session

namespace Palette

variable {p : Palette} {catalog : Catalog} {trigger : Text}

/-- A palette offers a catalog under a trigger, and an open session lists the catalog. -/
structure Lists (p : Palette) (catalog : Catalog) (trigger : Text) : Prop where
  catalog_eq : p.catalog = catalog
  trigger_eq : p.trigger = trigger
  session_listed : ∀ s, p.session = some s → s.Listed catalog.entries

theorem new_lists (catalog : Catalog) (trigger : Text) (detector : Option Detector) :
    (new catalog trigger detector).Lists catalog trigger :=
  ⟨rfl, rfl, fun _ h => by cases h⟩

theorem Lists.close (h : p.Lists catalog trigger) (reason : CloseReason) :
    (p.close reason).Lists catalog trigger :=
  ⟨h.catalog_eq, h.trigger_eq, fun _ hs => by cases hs⟩

theorem Lists.openAt (h : p.Lists catalog trigger) (caret : Nat) :
    (p.openAt caret).Lists catalog trigger := by
  refine ⟨h.catalog_eq, h.trigger_eq, fun s hs => ?_⟩
  obtain rfl : _ = s := Option.some.inj hs
  rw [h.catalog_eq]
  exact Session.listed_rank _ _ _

theorem Lists.move {s : Session} (h : p.Lists catalog trigger) (hs : p.session = some s)
    (step : Int) : Lists { p with session := some (s.move step) } catalog trigger := by
  refine ⟨h.catalog_eq, h.trigger_eq, fun s' hs' => ?_⟩
  obtain rfl : s.move step = s' := Option.some.inj hs'
  exact (h.session_listed s hs).move step

theorem Lists.notifyEdit (h : p.Lists catalog trigger) (position : Int) :
    (p.notifyEdit position).Lists catalog trigger :=
  ⟨h.catalog_eq, h.trigger_eq, h.session_listed⟩

theorem Lists.dismiss (h : p.Lists catalog trigger) : p.dismiss.Lists catalog trigger := by
  unfold Palette.dismiss
  split_ifs
  · exact h.close _
  · exact h

theorem dismiss_session : p.dismiss.session = none := by
  unfold Palette.dismiss
  split_ifs with h
  · rfl
  · simpa [isOpen] using h

theorem Lists.queryMode (h : p.Lists catalog trigger) (document : Text) (offset : Nat) :
    (p.queryMode document offset).2.Lists catalog trigger := by
  unfold Palette.queryMode
  split
  · exact h
  · exact ⟨h.catalog_eq, h.trigger_eq, h.session_listed⟩

section Commit

variable {s : Session} {document : Text} {caret : Nat}

theorem commitEntry_plan (p : Palette) (e : Entry) (t : Nat) (document : Text) (caret : Nat) :
    ∃ inMath, (p.commitEntry e t document caret).plan
      = some (InsertionPlan.given inMath e document t caret) :=
  ⟨_, rfl⟩

theorem Lists.commitEntry (h : p.Lists catalog trigger) (e : Entry) (t : Nat) (document : Text)
    (caret : Nat) : (p.commitEntry e t document caret).palette.Lists catalog trigger := by
  unfold Palette.commitEntry
  cases e.requiresMath with
  | false => exact (h.close _).notifyEdit _
  | true => exact ((h.queryMode _ _).close _).notifyEdit _

theorem commit_of_selected {r : Ranked} (h : s.selected? = some r) :
    p.commit s document caret = p.commitEntry r.entry s.trigger document caret := by
  rw [commit, h]

theorem commit_of_none (h : s.selected? = none) : p.commit s document caret = p.consume := by
  rw [commit, h]
  rfl

theorem Lists.commit (h : p.Lists catalog trigger) (s : Session) (document : Text) (caret : Nat) :
    (p.commit s document caret).palette.Lists catalog trigger := by
  rcases hr : s.selected? with _ | r
  · rw [commit_of_none hr]
    exact h
  · rw [commit_of_selected hr]
    exact h.commitEntry _ _ _ _

end Commit

/-- What a palette can make of a press. -/
theorem press_cases (p : Palette) (k : Press) (document : Text) (caret : Nat) :
    (p.session = none
      ∧ p.press k document caret
        = if k.spelling = p.trigger then (p.openAt caret).pass else p.pass)
    ∨ ∃ s, p.session = some s
      ∧ ((k.actsAs .escape = true
          ∧ p.press k document caret = (p.close .cancelled).consume)
        ∨ (∃ step, (step = 1 ∧ k.actsAs .down = true ∨ step = -1 ∧ k.actsAs .up = true)
          ∧ p.press k document caret = { p with session := some (s.move step) }.consume)
        ∨ (k.commits = true ∧ p.press k document caret = p.commit s document caret)
        ∨ (k.actsAs .backspace = true ∧ caret ≤ s.trigger
          ∧ p.press k document caret = (p.close .caretBeforeTrigger).pass)
        ∨ ((∀ key, k.actsAs key = true → key = .backspace ∧ s.trigger < caret)
          ∧ p.press k document caret = p.pass)) := by
  unfold press
  rcases hs : p.session with _ | s
  · exact .inl ⟨rfl, rfl⟩
  · refine .inr ⟨s, rfl, ?_⟩
    simp only [Bool.and_eq_true, decide_eq_true_eq]
    split_ifs with hescape hdown hup hcommits hback
    · exact .inl ⟨hescape, rfl⟩
    · exact .inr (.inl ⟨1, .inl ⟨rfl, hdown⟩, rfl⟩)
    · exact .inr (.inl ⟨-1, .inr ⟨rfl, hup⟩, rfl⟩)
    · exact .inr (.inr (.inl ⟨hcommits, rfl⟩))
    · exact .inr (.inr (.inr (.inl ⟨hback.1, hback.2, rfl⟩)))
    · refine .inr (.inr (.inr (.inr ⟨fun key hkey => ?_, rfl⟩)))
      rw [Press.commits, Bool.or_eq_true, not_or] at hcommits
      cases key with
      | up => exact absurd hkey hup
      | down => exact absurd hkey hdown
      | enter => exact absurd hkey hcommits.1
      | tab => exact absurd hkey hcommits.2
      | escape => exact absurd hkey hescape
      | backspace => exact ⟨rfl, Nat.lt_of_not_le fun hle => hback ⟨hkey, hle⟩⟩

theorem Lists.press (h : p.Lists catalog trigger) (k : Press) (document : Text) (caret : Nat) :
    (p.press k document caret).palette.Lists catalog trigger := by
  obtain ⟨-, hp⟩ | ⟨s, hs, ⟨-, hp⟩ | ⟨step, -, hp⟩ | ⟨-, hp⟩ | ⟨-, -, hp⟩ | ⟨-, hp⟩⟩ :=
    p.press_cases k document caret <;> rw [hp]
  · split_ifs
    · exact h.openAt caret
    · exact h
  · exact h.close _
  · exact h.move hs step
  · exact h.commit s document caret
  · exact h.close _
  · exact h

theorem press_of_commits {s : Session} {k : Press} {document : Text} {caret : Nat}
    (hs : p.session = some s) (hk : k.commits = true) :
    p.press k document caret = p.commit s document caret := by
  unfold Palette.press
  simp only [hs]
  rw [if_neg (Press.not_actsAs_of_commits hk (by decide) (by decide)),
    if_neg (Press.not_actsAs_of_commits hk (by decide) (by decide)),
    if_neg (Press.not_actsAs_of_commits hk (by decide) (by decide)), if_pos hk]

theorem select_of_row {s : Session} {i : Int} {r : Ranked} {document : Text} {caret : Nat}
    (hs : p.session = some s) (h0 : 0 ≤ i) (hr : s.results[i.toNat]? = some r) :
    p.select i document caret = p.commitEntry r.entry s.trigger document caret := by
  obtain ⟨hlt, -⟩ := List.getElem?_eq_some_iff.1 hr
  unfold Palette.select
  simp only [hs]
  rw [if_pos ⟨h0, by omega⟩]
  exact commit_of_selected (s := { s with index := i.toNat }) hr

/-- Pointing at a row commits it, and pointing anywhere else does nothing. -/
theorem select_cases (p : Palette) (i : Int) (document : Text) (caret : Nat) :
    p.select i document caret = p.pass
    ∨ ∃ s r, p.session = some s ∧ 0 ≤ i ∧ s.results[i.toNat]? = some r
      ∧ p.select i document caret = p.commitEntry r.entry s.trigger document caret := by
  rcases hs : p.session with _ | s
  · unfold Palette.select
    simp only [hs]
    exact .inl trivial
  · by_cases hi : 0 ≤ i ∧ i < s.results.length
    · have hr : s.results[i.toNat]? = some _ := List.getElem?_eq_getElem (by omega)
      exact .inr ⟨s, _, rfl, hi.1, hr, select_of_row hs hi.1 hr⟩
    · unfold Palette.select
      simp only [hs]
      exact .inl (if_neg hi)

theorem Lists.select (h : p.Lists catalog trigger) (i : Int) (document : Text) (caret : Nat) :
    (p.select i document caret).palette.Lists catalog trigger := by
  obtain hp | ⟨s, r, -, -, -, hp⟩ := p.select_cases i document caret <;> rw [hp]
  · exact h
  · exact h.commitEntry _ _ _ _

section TextChanged

variable {c : Char} {s : Session} {document : Text} {caret : Nat}

/-- A query is read exactly when the text between trigger and caret is a command. -/
theorem readQuery_eq_ok_iff {query : Text} :
    readQuery [c] s document caret = .ok query ↔
      Session.Reads { s with query } c document caret := by
  unfold readQuery
  have hget : document[s.trigger]?.map ([·]) = some [c] ↔ document[s.trigger]? = some c := by
    rw [Option.map_eq_some_iff]
    simp
  simp only [ne_eq, hget, List.length_singleton, List.contains_iff_mem]
  split_ifs with hlt htrigger hline hrun
  · exact iff_of_false (by simp) fun h => absurd h.trigger_le (Nat.not_le.2 hlt)
  · refine iff_of_false (by simp) fun h => h.query_line ?_
    rwa [h.query_eq]
  · refine iff_of_false (by simp) fun h => h.query_spaced ?_
    rwa [h.query_eq, ← hasBlankRun_iff]
  · rw [Except.ok.injEq]
    constructor
    · rintro rfl
      exact ⟨htrigger, Nat.not_lt.1 hlt, rfl, hline, mt hasBlankRun_iff.2 hrun⟩
    · exact fun h => h.query_eq.symm
  · exact iff_of_false (by simp) fun h => htrigger h.trigger_at

theorem textChanged_of_closed (hs : p.session = none) : p.textChanged document caret = p := by
  unfold textChanged
  simp only [hs]

theorem Lists.textChanged (h : p.Lists catalog trigger) (document : Text) (caret : Nat) :
    (p.textChanged document caret).Lists catalog trigger := by
  unfold Palette.textChanged
  split
  · exact h
  · split
    · exact h.close _
    · split_ifs
      · exact h
      · refine ⟨h.catalog_eq, h.trigger_eq, fun s' hs' => ?_⟩
        obtain rfl : _ = s' := Option.some.inj hs'
        rw [h.catalog_eq]
        exact Session.listed_rank _ _ _

theorem textChanged_reads (hc : p.trigger = [c])
    (hs : (p.textChanged document caret).session = some s) : s.Reads c document caret := by
  unfold Palette.textChanged at hs
  rw [hc] at hs
  rcases hp : p.session with _ | s₀
  · simp only [hp] at hs
    cases hs
  · simp only [hp] at hs
    rcases hq : readQuery [c] s₀ document caret with reason | query
    · simp only [hq] at hs
      cases hs
    · have hreads := readQuery_eq_ok_iff.1 hq
      simp only [hq] at hs
      split_ifs at hs with heq
      · obtain rfl : s₀ = s := Option.some.inj (hp.symm.trans hs)
        rwa [heq] at hreads
      · obtain rfl : _ = s := Option.some.inj hs
        exact ⟨hreads.trigger_at, hreads.trigger_le, hreads.query_eq, hreads.query_line,
          hreads.query_spaced⟩

end TextChanged

theorem Lists.step (h : p.Lists catalog trigger) (e : Event) :
    (p.step e).palette.Lists catalog trigger := by
  cases e with
  | press k document caret => exact h.press k document caret
  | textChanged document caret => exact h.textChanged document caret
  | select i document caret => exact h.select i document caret
  | dismiss => exact h.dismiss
  | edit position => exact h.notifyEdit position

end Palette

end ExerciseSheet

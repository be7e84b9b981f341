import ExerciseSheet.MathMode.Scan
import ExerciseSheet.Proofs.TextCut

/-!
# Math mode, one character at a time

A text can be read one character at a time, keeping what is open and the character read last: a
bracket directly behind a backslash is a marker, a dollar sign is one anywhere else. A scan finds
what this reading finds (`scanFrom_opensLike`), unless it starts inside a marker that it misses, and
whether an offset lies in math is what reading the text before it leaves open (`isInMath_eq`).
-/

namespace ExerciseSheet

/-- What is open after some text, and the last character of that text. -/
structure Mode where
  inInline : Bool
  inBlock : Bool
  last : Option Char
  deriving DecidableEq, Repr

namespace Mode

/-- Nothing read yet. -/
def start : Mode := ⟨false, false, none⟩

/-- Whether any math is open. -/
def inMath (m : Mode) : Bool := m.inInline || m.inBlock

/-- Reads one more character. -/
def read (m : Mode) (c : Char) : Mode :=
  if m.last = some '\\' then
    if c = '[' then ⟨false, true, some c⟩
    else if c = ']' then ⟨m.inInline, false, some c⟩
    else ⟨m.inInline, m.inBlock, some c⟩
  else ⟨if c = '$' then !m.inInline else m.inInline, m.inBlock, some c⟩

/-- Reads a text. -/
def readAll (m : Mode) (t : Text) : Mode := t.foldl read m

/-- What is open after a text. -/
def after (t : Text) : Mode := start.readAll t

theorem readAll_cons (m : Mode) (c : Char) (t : Text) :
    m.readAll (c :: t) = (m.read c).readAll t := rfl

theorem readAll_append (m : Mode) (t u : Text) :
    m.readAll (t ++ u) = (m.readAll t).readAll u := List.foldl_append

theorem after_append (t u : Text) : after (t ++ u) = (after t).readAll u := readAll_append _ t u

theorem last_read (m : Mode) (c : Char) : (m.read c).last = some c := by
  unfold read
  split_ifs <;> rfl

theorem last_readAll : ∀ (m : Mode) (t : Text), (m.readAll t).last = t.getLast?.or m.last
  | m, [] => by simp [readAll]
  | m, c :: t => by
    rw [readAll_cons, last_readAll, last_read, List.getLast?_cons]
    cases t.getLast? <;> rfl

theorem last_after (t : Text) : (after t).last = t.getLast? := by
  rw [after, last_readAll]
  simp [start]

theorem read_backslash (m : Mode) : m.read '\\' = ⟨m.inInline, m.inBlock, some '\\'⟩ := by
  simp [read]

theorem read_dollar (m : Mode) :
    m.read '$' = ⟨if m.last = some '\\' then m.inInline else !m.inInline, m.inBlock, some '$'⟩ := by
  unfold read
  split_ifs <;> simp_all

end Mode

/-- How much of a text a scan is done with: a lone backslash at its end is left. -/
def settled (t : Text) : Nat := if t.getLast? = some '\\' then t.length - 1 else t.length

theorem settled_le (t : Text) : settled t ≤ t.length := by
  unfold settled
  split_ifs <;> omega

theorem settled_cons {c : Char} {t : Text} (h : c = '\\' → t ≠ []) :
    settled (c :: t) = 1 + settled t := by
  rcases t with _ | ⟨d, t⟩
  · have hc : c ≠ '\\' := fun hc => h hc rfl
    simp [settled, hc]
  · unfold settled
    rw [List.getLast?_cons_cons]
    split_ifs <;> simp only [List.length_cons] <;> omega

theorem scanFrom_position (prev : Option Char) (s : ScanState) (t : Text) :
    (scanFrom prev s t).position = s.position + settled t := by
  fun_induction scanFrom prev s t with
  | case1 => simp [settled]
  | case2 => simp [settled]
  | case3 prev s t ih =>
    rw [ih, settled_cons (by simp), settled_cons (by simp)]
    simp only []
    omega
  | case4 prev s t ih =>
    rw [ih, settled_cons (by simp), settled_cons (by simp)]
    simp only []
    omega
  | case5 prev s c t h1 h2 h3 flips ih =>
    rw [ih, settled_cons h1]
    simp only []
    omega

namespace ScanState

/-- What a scan holds open is what a reading does. -/
def OpensLike (s : ScanState) (m : Mode) : Prop :=
  s.inInline = m.inInline ∧ s.inBlock = m.inBlock

theorem OpensLike.inMath {s : ScanState} {m : Mode} (h : s.OpensLike m) : s.inMath = m.inMath := by
  rw [ScanState.inMath, Mode.inMath, h.1, h.2]

/-- A lone backslash at the end of a text changes nothing that is open. -/
theorem OpensLike.settled {s : ScanState} {t u : Text} (h : s.OpensLike (Mode.after (t ++ u))) :
    s.OpensLike (Mode.after (t ++ u.take (settled u))) := by
  unfold ExerciseSheet.settled
  split_ifs with hu
  · obtain ⟨v, rfl⟩ := List.getLast?_eq_some_iff.1 hu
    rw [← List.append_assoc, Mode.after_append, Mode.readAll_cons, Mode.read_backslash] at h
    rw [List.length_append, List.length_singleton, Nat.add_sub_cancel, List.take_left' rfl]
    exact h
  · rwa [List.take_length]

/-- Whether a scan of `t` from `s`, `prev` standing before it, starts at the bracket of a marker
that would change what is open. The scan takes that bracket for a plain character. -/
def Misses (s : ScanState) (prev : Option Char) (t : Text) : Prop :=
  prev = some '\\' ∧ (t.head? = some '[' ∧ (s.inInline = true ∨ s.inBlock = false)
    ∨ t.head? = some ']' ∧ s.inBlock = true)

instance (s : ScanState) (prev : Option Char) (t : Text) : Decidable (s.Misses prev t) :=
  inferInstanceAs (Decidable (_ ∧ (_ ∧ _ ∨ _ ∧ _)))

theorem not_misses_of_ne {s : ScanState} {prev : Option Char} {t : Text}
    (h : prev ≠ some '\\') : ¬ s.Misses prev t := fun hm => h hm.1

/-- A character that is no part of a pair is read as it is scanned, unless its marker is missed. -/
theorem OpensLike.read {s : ScanState} {m : Mode} {c : Char} {t : Text} {n : Nat}
    (hs : s.OpensLike m) (h : ¬ s.Misses m.last (c :: t)) :
    OpensLike ⟨n, if c == '$' && m.last != some '\\' then !s.inInline else s.inInline, s.inBlock⟩
      (m.read c) := by
  obtain ⟨h1, h2⟩ := hs
  unfold Mode.read
  by_cases hl : m.last = some '\\'
  · have hb := not_and.1 h hl
    simp only [List.head?_cons, Option.some.injEq, not_or, not_and, Bool.not_eq_true,
      Bool.not_eq_false] at hb
    have hf : (c == '$' && m.last != some '\\') = false := by simp [hl]
    rw [if_pos hl, hf, if_neg Bool.false_ne_true]
    split_ifs with ho hc
    · -- display math is all that is open already, so its opening changes nothing
      exact hb.1 ho
    · exact ⟨h1, hb.2 hc⟩
    · exact ⟨h1, h2⟩
  · rw [if_neg hl]
    exact ⟨by simp [hl, h1], h2⟩

end ScanState

/-- A scan finds what reading the text finds, unless it misses the marker it starts in. -/
theorem scanFrom_opensLike (prev : Option Char) (s : ScanState) (t : Text) (m : Mode)
    (hs : s.OpensLike m) (hm : m.last = prev) (h : ¬ s.Misses prev t) :
    (scanFrom prev s t).OpensLike (m.readAll t) := by
  fun_induction scanFrom prev s t generalizing m with
  | case1 => exact hs
  | case2 prev s =>
    rw [Mode.readAll_cons, Mode.read_backslash]
    exact hs
  | case3 prev s t ih =>
    rw [Mode.readAll_cons, Mode.readAll_cons, Mode.read_backslash]
    exact ih _ ⟨rfl, rfl⟩ rfl (ScanState.not_misses_of_ne (by simp))
  | case4 prev s t ih =>
    rw [Mode.readAll_cons, Mode.readAll_cons, Mode.read_backslash]
    exact ih _ ⟨hs.1, rfl⟩ rfl (ScanState.not_misses_of_ne (by simp))
  | case5 prev s c t h1 h2 h3 flips ih =>
    subst hm
    rw [Mode.readAll_cons]
    refine ih _ (hs.read h) (Mode.last_read m c) ?_
    -- a backslash is scanned alone only where no bracket follows it
    rintro ⟨hc, ht⟩
    rw [Option.some.injEq] at hc
    rcases t with _ | ⟨d, t⟩
    · simp at ht
    · rcases ht with ⟨hd, -⟩ | ⟨hd, -⟩ <;> rw [List.head?_cons, Option.some.injEq] at hd
      · exact h2 t hc (by rw [hd])
      · exact h3 t hc (by rw [hd])

section Scan

variable {document : Text} {stop : Int} {s : ScanState}

theorem scan_eq (hstop : s.position ≤ min stop.toNat document.length) :
    scan document stop s
      = scanFrom (document.take s.position).getLast? s (document.slice s.position stop.toNat) := by
  rw [getLast?_take (by omega)]
  unfold scan
  simp only [slice_min_length]
  by_cases h : min stop.toNat document.length ≤ s.position
  · have hp : min stop.toNat document.length = s.position := by omega
    rw [if_pos h, slice_eq_nil h, scanFrom, hp]
  · rw [if_neg h]

/-- A scan that goes on from where a reading of the document would be, and misses no marker, ends
where the reading does. -/
theorem scan_opensLike (hstop : s.position ≤ min stop.toNat document.length)
    (hs : s.OpensLike (Mode.after (document.take s.position)))
    (h : ¬ s.Misses (document.take s.position).getLast? (document.slice s.position stop.toNat)) :
    (scan document stop s).OpensLike (Mode.after (document.take stop.toNat)) := by
  have hle : s.position ≤ stop.toNat := by omega
  rw [scan_eq hstop, ← take_append_slice hle, Mode.after_append]
  exact scanFrom_opensLike _ _ _ _ hs (Mode.last_after _) h

end Scan

/-- An offset lies in math when reading the text before it leaves math open. -/
theorem isInMath_eq (document : Text) (offset : Int) :
    isInMath document offset = (Mode.after (document.take offset.toNat)).inMath := by
  refine (scan_opensLike (s := .start) (Nat.zero_le _) ⟨rfl, rfl⟩ ?_).inMath
  exact ScanState.not_misses_of_ne (by simp [ScanState.start])

end ExerciseSheet

import ExerciseSheet.MathMode.Detector
import ExerciseSheet.Proofs.TextCut

/-!
# Scanning by offsets

A scan that looks up each character by its offset, and the one before a dollar sign by the offset
before, fails as soon as an offset lies outside the document. It never does, wherever it starts and
whatever document it is given, and it finds what the scan of the text finds (`scanAt_eq`). So a
detector asked about a document that has nothing to do with its checkpoint answers all the same
(`queryAt_eq`).
-/

namespace ExerciseSheet

/-- What a step can break off at. -/
inductive Breach where
  /-- An offset at or past the end of what it points into. -/
  | pastEnd (offset length : Nat)
  /-- A commit without a row to commit. -/
  | noRow
  deriving DecidableEq, Repr

/-- What stands at an offset, which has to be there. -/
def lookUp {α : Type} (xs : List α) (i : Nat) : Except Breach α :=
  match xs[i]? with
  | some x => .ok x
  | none => .error (.pastEnd i xs.length)

theorem lookUp_of_getElem? {α : Type} {xs : List α} {i : Nat} {x : α} (h : xs[i]? = some x) :
    lookUp xs i = .ok x := by
  rw [lookUp, h]

/-- Whether a backslash stands right before an offset, which is looked up unless it is the start. -/
def escapedAt (document : Text) (i : Nat) : Except Breach Bool :=
  if i = 0 then return false else return (← lookUp document (i - 1)) == '\\'

theorem escapedAt_eq {document : Text} {i : Nat} (h : i ≤ document.length) :
    escapedAt document i
      = .ok ((if i = 0 then none else document[i - 1]?) == some '\\') := by
  unfold escapedAt
  split_ifs with hi
  · rfl
  · have hget := List.getElem?_eq_getElem (l := document) (i := i - 1) (by omega)
    rw [lookUp_of_getElem? hget, hget]
    rfl

/-- Scans a document from a state's position up to an offset, each character being looked up. -/
def scanByOffset (document : Text) (stop : Nat) (s : ScanState) : Except Breach ScanState :=
  if s.position < stop then do
    let c ← lookUp document s.position
    if c = '\\' then
      if stop ≤ s.position + 1 then return s
      else
        let pair := document.slice s.position (s.position + 2)
        if pair = ['\\', '['] then scanByOffset document stop ⟨s.position + 2, false, true⟩
        else if pair = ['\\', ']'] then
          scanByOffset document stop ⟨s.position + 2, s.inInline, false⟩
        else scanByOffset document stop ⟨s.position + 1, s.inInline, s.inBlock⟩
    else if c = '$' then
      let escaped ← escapedAt document s.position
      scanByOffset document stop
        ⟨s.position + 1, if escaped then s.inInline else !s.inInline, s.inBlock⟩
    else scanByOffset document stop ⟨s.position + 1, s.inInline, s.inBlock⟩
  else return ⟨stop, s.inInline, s.inBlock⟩
termination_by stop - s.position

/-- A scan by offsets, its end being brought back into the document. -/
def scanAt (document : Text) (stop : Int) (s : ScanState) : Except Breach ScanState :=
  scanByOffset document (min stop.toNat document.length) s

section Slice

variable {t u : Text} {c d : Char} {a b : Nat}

theorem slice_eq_cons (h : t.slice a b = c :: u) :
    a < b ∧ t[a]? = some c ∧ t.slice (a + 1) b = u := by
  have hget := congrArg List.head? h
  have htail := congrArg List.tail h
  rw [Text.slice, List.head?_drop, List.getElem?_take, List.head?_cons] at hget
  rw [Text.slice, List.tail_drop, List.tail_cons] at htail
  split_ifs at hget with hlt
  exact ⟨hlt, hget, htail⟩

theorem slice_pair (h : t.slice a b = c :: d :: u) : t.slice a (a + 2) = [c, d] := by
  have hab := slice_eq_cons h
  have hab' := slice_eq_cons hab.2.2
  rw [slice_eq_take_drop] at h ⊢
  have := congrArg (List.take 2) h
  rw [List.take_take, Nat.min_eq_left (by omega)] at this
  rw [Nat.add_sub_cancel_left, this]
  rfl

end Slice

variable {document : Text} {stop : Nat}

section Step

variable {s : ScanState} {c d : Char} {t : Text}

theorem scanByOffset_of_end (h : stop ≤ s.position) :
    scanByOffset document stop s = .ok ⟨stop, s.inInline, s.inBlock⟩ := by
  rw [scanByOffset, if_neg (Nat.not_lt.2 h)]
  rfl

theorem scanByOffset_of_lone_backslash (hstop : stop ≤ document.length)
    (h : document.slice s.position stop = ['\\']) : scanByOffset document stop s = .ok s := by
  obtain ⟨hlt, hget, -⟩ := slice_eq_cons h
  have hlen := length_slice (a := s.position) hstop
  rw [h, List.length_singleton] at hlen
  have hlast : stop ≤ s.position + 1 := by omega
  rw [scanByOffset, if_pos hlt, lookUp_of_getElem? hget]
  simp [bind, Except.bind, pure, Except.pure, hlast]

theorem scanByOffset_of_pair (h : document.slice s.position stop = '\\' :: d :: t) :
    scanByOffset document stop s
      = if d = '[' then scanByOffset document stop ⟨s.position + 2, false, true⟩
        else if d = ']' then scanByOffset document stop ⟨s.position + 2, s.inInline, false⟩
        else scanByOffset document stop ⟨s.position + 1, s.inInline, s.inBlock⟩ := by
  obtain ⟨hlt, hget, hrest⟩ := slice_eq_cons h
  obtain ⟨hlt', -, -⟩ := slice_eq_cons hrest
  rw [scanByOffset, if_pos hlt, lookUp_of_getElem? hget]
  simp [bind, Except.bind, slice_pair h, Nat.not_le.2 hlt']

theorem scanByOffset_of_other (hstop : stop ≤ document.length)
    (h : document.slice s.position stop = c :: t) (hc : c ≠ '\\') :
    scanByOffset document stop s
      = scanByOffset document stop ⟨s.position + 1,
        if c == '$' && (if s.position = 0 then none else document[s.position - 1]?) != some '\\'
          then !s.inInline else s.inInline, s.inBlock⟩ := by
  obtain ⟨hlt, hget, -⟩ := slice_eq_cons h
  rw [scanByOffset, if_pos hlt, lookUp_of_getElem? hget]
  simp only [bind, Except.bind, if_neg hc, escapedAt_eq (Nat.le_trans (Nat.le_of_lt hlt) hstop)]
  by_cases hdollar : c = '$'
  · by_cases hescaped : (if s.position = 0 then none else document[s.position - 1]?) = some '\\'
    · simp [hdollar, hescaped]
    · simp [hdollar, hescaped]
  · simp [hdollar]

end Step

theorem scanByOffset_eq {prev : Option Char} {s : ScanState} {t : Text}
    (hprev : prev = if s.position = 0 then none else document[s.position - 1]?)
    (ht : document.slice s.position stop = t) (hs : s.position ≤ stop)
    (hstop : stop ≤ document.length) :
    scanByOffset document stop s = .ok (scanFrom prev s t) := by
  fun_induction scanFrom prev s t with
  | case1 prev s =>
    have hlen := length_slice (a := s.position) hstop
    rw [ht, List.length_nil] at hlen
    have hend : stop = s.position := by omega
    rw [scanByOffset_of_end (by omega), hend]
  | case2 prev s => exact scanByOffset_of_lone_backslash hstop ht
  | case3 prev s t ih =>
    obtain ⟨-, -, ht'⟩ := slice_eq_cons ht
    obtain ⟨hlt, hget, ht''⟩ := slice_eq_cons ht'
    rw [scanByOffset_of_pair ht, if_pos rfl]
    exact ih hget.symm ht'' hlt
  | case4 prev s t ih =>
    obtain ⟨-, -, ht'⟩ := slice_eq_cons ht
    obtain ⟨hlt, hget, ht''⟩ := slice_eq_cons ht'
    rw [scanByOffset_of_pair ht, if_neg (by decide), if_pos rfl]
    exact ih hget.symm ht'' hlt
  | case5 prev s c t h1 h2 h3 flips ih =>
    obtain ⟨hlt, hget, ht'⟩ := slice_eq_cons ht
    by_cases hc : c = '\\'
    · -- a backslash before no bracket is scanned alone
      subst hc
      rcases t with _ | ⟨d, t⟩
      · exact absurd rfl (h1 rfl)
      · have hopen : d ≠ '[' := fun hd => h2 t rfl (by rw [hd])
        have hclose : d ≠ ']' := fun hd => h3 t rfl (by rw [hd])
        rw [scanByOffset_of_pair ht, if_neg hopen, if_neg hclose]
        exact ih hget.symm ht' hlt
    · rw [scanByOffset_of_other hstop ht hc, ← hprev]
      exact ih hget.symm ht' hlt

/-- Every scan finds each character that it looks up. -/
theorem scanAt_eq (document : Text) (stop : Int) (s : ScanState) :
    scanAt document stop s = .ok (scan document stop s) := by
  unfold scanAt scan
  simp only
  by_cases h : min stop.toNat document.length ≤ s.position
  · rw [if_pos h]
    exact scanByOffset_of_end h
  · rw [if_neg h]
    exact scanByOffset_eq rfl rfl (by omega) (Nat.min_le_right _ _)

/-- A detector's question, scanned by offsets. -/
def Detector.queryAt (d : Detector) (document : Text) (offset : Int) :
    Except Breach (Bool × Detector) := do
  let known := d.usable? document offset
  let s ← scanAt document offset (known.getD .start)
  return (s.inMath, ⟨some s, if known.isSome then d.fullScans else d.fullScans + 1⟩)

/-- A detector answers every question about every document. -/
theorem Detector.queryAt_eq (d : Detector) (document : Text) (offset : Int) :
    d.queryAt document offset = .ok (d.query document offset) := by
  simp only [queryAt, scanAt_eq]
  rfl

end ExerciseSheet

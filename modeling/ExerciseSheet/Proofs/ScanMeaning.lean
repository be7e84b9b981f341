import ExerciseSheet.Proofs.Checkpoint
import Mathlib.Algebra.Ring.Parity
import Mathlib.Data.List.Induction

/-!
# What a scan finds

A scan steps over a text, but what it finds can be said without the steps. Display math is open when
no closing stands behind the last opening; inline math is open when, behind the last opening, an odd
number of dollar signs stand that no backslash precedes (`scan_meaning`). A scan that goes on from
another one finds what one scan of the whole text finds, whatever the first text held behind the
stretch that the two have in common (`scan_resumes`).
-/

namespace ExerciseSheet

/-- The offsets at which `pat` stands in a text. -/
def occurrences (pat t : Text) : List Nat :=
  (List.range t.length).filter fun i => pat.isPrefixOf (t.drop i)

/-- Where the last opening of display math stands. -/
def lastOpening? (t : Text) : Option Nat := (occurrences ['\\', '['] t).getLast?

/-- The offsets of the dollar signs that no backslash directly precedes. -/
def plainDollars (t : Text) : List Nat :=
  (List.range t.length).filter fun i => t[i]? == some '$' && (t.take i).getLast? != some '\\'

/-- The plain dollar signs behind the last opening of display math, all of them if there is none. -/
def dollarsSince (t : Text) : List Nat :=
  (plainDollars t).filter fun d => (lastOpening? t).all (· < d)

/-- Display math is opened, and not closed behind the last opening. -/
def BlockOpen (t : Text) : Prop :=
  ∃ i, lastOpening? t = some i ∧ ∀ j ∈ occurrences ['\\', ']'] t, ¬ i < j

instance (t : Text) : Decidable (BlockOpen t) :=
  inferInstanceAs (Decidable (∃ i ∈ lastOpening? t, ∀ j ∈ occurrences ['\\', ']'] t, ¬ i < j))

section Growing

variable {t : Text} {a b c : Char} {i : Nat}

theorem mem_occurrences_pair : i ∈ occurrences [a, b] t ↔ t[i]? = some a ∧ t[i + 1]? = some b := by
  have hpair : ∀ s : Text, [a, b] <+: s ↔ s[0]? = some a ∧ s[1]? = some b := by
    rintro (_ | ⟨x, _ | ⟨y, s⟩⟩) <;> simp [List.cons_prefix_cons, @eq_comm _ a, @eq_comm _ b]
  rw [occurrences, List.mem_filter, List.isPrefixOf_iff_prefix, hpair, List.getElem?_drop,
    List.getElem?_drop, List.mem_range, Nat.add_zero, and_iff_right_iff_imp]
  rintro ⟨h, -⟩
  exact (List.getElem?_eq_some_iff.1 h).1

theorem succ_lt_of_mem_occurrences_pair (h : i ∈ occurrences [a, b] t) : i + 1 < t.length :=
  (List.getElem?_eq_some_iff.1 (mem_occurrences_pair.1 h).2).1

theorem mem_plainDollars :
    i ∈ plainDollars t ↔ t[i]? = some '$' ∧ (t.take i).getLast? ≠ some '\\' := by
  rw [plainDollars, List.mem_filter, List.mem_range, Bool.and_eq_true, beq_iff_eq, bne_iff_ne,
    and_iff_right_iff_imp]
  rintro ⟨h, -⟩
  exact (List.getElem?_eq_some_iff.1 h).1

theorem isPrefixOf_append_of_length_le {pat s : Text} (h : pat.length ≤ s.length) (r : Text) :
    pat.isPrefixOf (s ++ r) = pat.isPrefixOf s := by
  rw [Bool.eq_iff_iff, List.isPrefixOf_iff_prefix, List.isPrefixOf_iff_prefix]
  constructor
  · exact fun hp => List.prefix_of_prefix_length_le hp (List.prefix_append _ _) h
  · exact fun hp => hp.trans (List.prefix_append _ _)

/-- A text that grows by a character gains a pair only at its end. -/
theorem occurrences_append_singleton (t : Text) (a b c : Char) :
    occurrences [a, b] (t ++ [c])
      = occurrences [a, b] t ++ if t.getLast? = some a ∧ c = b then [t.length - 1] else [] := by
  rcases t.eq_nil_or_concat' with rfl | ⟨u, x, rfl⟩
  · simp [occurrences]
  · have hinner : ∀ i ∈ List.range u.length, [a, b].isPrefixOf ((u ++ [x] ++ [c]).drop i)
        = [a, b].isPrefixOf ((u ++ [x]).drop i) := by
      intro i hi
      rw [List.mem_range] at hi
      rw [List.drop_append_of_le_length (by simp; omega), isPrefixOf_append_of_length_le]
      rw [List.length_drop, List.length_append, List.length_singleton]
      simp only [List.length_cons, List.length_nil]
      omega
    have hlast : [a, b].isPrefixOf ((u ++ [x]).drop u.length) = false := by
      rw [List.drop_left' rfl]
      simp [List.isPrefixOf]
    have hnew : [a, b].isPrefixOf ((u ++ [x] ++ [c]).drop u.length)
        = decide ((u ++ [x]).getLast? = some a ∧ c = b) := by
      rw [List.append_assoc, List.drop_left' rfl, Bool.eq_iff_iff]
      simp [List.isPrefixOf, @eq_comm _ a, @eq_comm _ b]
    have hend : [a, b].isPrefixOf ((u ++ [x] ++ [c]).drop (u.length + 1)) = false := by
      rw [List.drop_left' (by simp)]
      simp [List.isPrefixOf]
    simp only [occurrences, List.length_append, List.length_singleton, List.range_succ,
      List.filter_append, List.filter_congr hinner, List.filter_singleton, hlast, hnew, hend,
      cond_false, List.append_nil, Nat.add_sub_cancel, Bool.cond_decide]

theorem plainDollars_append_singleton (t : Text) (c : Char) :
    plainDollars (t ++ [c])
      = plainDollars t ++ if c = '$' ∧ t.getLast? ≠ some '\\' then [t.length] else [] := by
  have hinner : ∀ i ∈ List.range t.length,
      ((t ++ [c])[i]? == some '$' && ((t ++ [c]).take i).getLast? != some '\\')
        = (t[i]? == some '$' && (t.take i).getLast? != some '\\') := by
    intro i hi
    rw [List.mem_range] at hi
    rw [List.getElem?_append_left hi, List.take_append_of_le_length (Nat.le_of_lt hi)]
  have hnew : ((t ++ [c])[t.length]? == some '$'
        && ((t ++ [c]).take t.length).getLast? != some '\\')
      = decide (c = '$' ∧ t.getLast? ≠ some '\\') := by
    rw [List.getElem?_concat_length, List.take_left' rfl, Bool.eq_iff_iff]
    simp
  simp only [plainDollars, List.length_append, List.length_singleton, List.range_succ,
    List.filter_append, List.filter_congr hinner, List.filter_singleton, hnew, Bool.cond_decide]

theorem lastOpening?_append_singleton (t : Text) (c : Char) :
    lastOpening? (t ++ [c])
      = if t.getLast? = some '\\' ∧ c = '[' then some (t.length - 1) else lastOpening? t := by
  rw [lastOpening?, occurrences_append_singleton]
  split_ifs
  · exact List.getLast?_concat
  · rw [List.append_nil, lastOpening?]

theorem succ_lt_of_lastOpening? (h : lastOpening? t = some i) : i + 1 < t.length :=
  succ_lt_of_mem_occurrences_pair (List.mem_of_getLast? h)

/-- Only an opening, or a dollar sign behind no backslash, changes which dollar signs count. -/
theorem dollarsSince_append_singleton (t : Text) (c : Char) :
    dollarsSince (t ++ [c])
      = if t.getLast? = some '\\' ∧ c = '[' then []
        else dollarsSince t ++ if c = '$' ∧ t.getLast? ≠ some '\\' then [t.length] else [] := by
  rw [dollarsSince, lastOpening?_append_singleton, plainDollars_append_singleton]
  split_ifs with hopen hdollar hdollar
  · exact absurd (hopen.2.symm.trans hdollar.1) (by decide)
  · -- every dollar sign stands before the new opening
    rw [List.append_nil, List.filter_eq_nil_iff]
    intro d hd
    obtain ⟨hlt, -⟩ := List.getElem?_eq_some_iff.1 (mem_plainDollars.1 hd).1
    simp only [Option.all_some, decide_eq_true_eq]
    omega
  · have hbehind : (lastOpening? t).all (· < t.length) = true := by
      rw [Option.all_eq_true]
      intro i hi
      have := succ_lt_of_lastOpening? hi
      exact decide_eq_true (by omega)
    rw [List.filter_append, List.filter_singleton, hbehind, cond_true, dollarsSince]
  · rw [List.append_nil, List.append_nil, dollarsSince]

theorem blockOpen_append_singleton (t : Text) (c : Char) :
    BlockOpen (t ++ [c])
      ↔ t.getLast? = some '\\' ∧ c = '['
        ∨ BlockOpen t ∧ ¬ (t.getLast? = some '\\' ∧ c = ']') := by
  rw [BlockOpen, lastOpening?_append_singleton, occurrences_append_singleton]
  by_cases hopen : t.getLast? = some '\\' ∧ c = '['
  · have hnew : ¬ (t.getLast? = some '\\' ∧ c = ']') := by
      rintro ⟨-, rfl⟩
      exact absurd hopen.2 (by decide)
    rw [if_pos hopen, if_neg hnew, List.append_nil]
    refine iff_of_true ⟨_, rfl, fun j hj => ?_⟩ (.inl hopen)
    have := succ_lt_of_mem_occurrences_pair hj
    omega
  · rw [if_neg hopen, or_iff_right hopen]
    split_ifs with hclose
    · refine iff_of_false ?_ fun h => h.2 hclose
      rintro ⟨i, hi, hnone⟩
      have := succ_lt_of_lastOpening? hi
      exact hnone _ (List.mem_append_right _ List.mem_cons_self) (by omega)
    · rw [List.append_nil, BlockOpen, and_iff_left hclose]

end Growing

namespace Mode

theorem after_append_singleton (t : Text) (c : Char) : after (t ++ [c]) = (after t).read c :=
  after_append t [c]

theorem inInline_read (m : Mode) (c : Char) :
    (m.read c).inInline
      = if m.last = some '\\' ∧ c = '[' then false
        else m.inInline ^^ decide (c = '$' ∧ m.last ≠ some '\\') := by
  unfold read
  split_ifs <;> simp_all

theorem inBlock_read (m : Mode) (c : Char) :
    (m.read c).inBlock = true
      ↔ m.last = some '\\' ∧ c = '['
        ∨ m.inBlock = true ∧ ¬ (m.last = some '\\' ∧ c = ']') := by
  unfold read
  split_ifs <;> simp_all

/-- Reading a text leaves inline math open when the dollar signs that count are odd in number. -/
theorem inInline_after_iff (t : Text) :
    (after t).inInline = true ↔ Odd (dollarsSince t).length := by
  induction t using List.reverseRecOn with
  | nil => simp [after, readAll, start, dollarsSince, plainDollars]
  | append_singleton t c ih =>
    rw [after_append_singleton, inInline_read, last_after, dollarsSince_append_singleton]
    split_ifs with hopen hdollar
    · simp
    · simp [hdollar, Nat.odd_add_one, ← ih]
    · simp [hdollar, ← ih]

/-- Reading a text leaves display math open when it is opened and not closed after that. -/
theorem inBlock_after_iff (t : Text) : (after t).inBlock = true ↔ BlockOpen t := by
  induction t using List.reverseRecOn with
  | nil => simp [after, readAll, start, BlockOpen, lastOpening?, occurrences]
  | append_singleton t c ih =>
    rw [after_append_singleton, inBlock_read, last_after, blockOpen_append_singleton, ih]

end Mode

section Scan

variable {document : Text} {stop : Int} {s : ScanState}

theorem scan_position (h : s.position ≤ min stop.toNat document.length) :
    (scan document stop s).position
      = s.position + settled (document.slice s.position stop.toNat) := by
  rw [scan_eq h, scanFrom_position]

theorem scan_start_opensLike (document : Text) (stop : Int) :
    (scan document stop .start).OpensLike (Mode.after (document.take stop.toNat)) :=
  scan_opensLike (Nat.zero_le _) ⟨rfl, rfl⟩
    (ScanState.not_misses_of_ne (by simp [ScanState.start]))

theorem scan_start_position (document : Text) (stop : Int) :
    (scan document stop .start).position = settled (document.take stop.toNat) :=
  (scan_position (Nat.zero_le _)).trans (Nat.zero_add _)

theorem take_clamped (document : Text) (stop : Int) :
    document.take (max 0 (min stop document.length)).toNat = document.take stop.toNat := by
  have h : (max 0 (min stop document.length)).toNat = min stop.toNat document.length := by omega
  rw [h, ← List.take_eq_take_min]

/-- A scan from the start finds display math open exactly when an opening stands before the offset
and no closing behind the last one, and inline math exactly when an odd number of plain dollar signs
stand behind the last opening. It is done with everything but a backslash at the very end. -/
theorem scan_meaning (document : Text) (stop : Int) :
    let e := (max 0 (min stop document.length)).toNat
    let read := document.take e
    let s := scan document stop .start
    (s.inBlock = true ↔ BlockOpen read)
      ∧ (s.inInline = true ↔ Odd (dollarsSince read).length)
      ∧ s.position = if read.getLast? = some '\\' then e - 1 else e := by
  intro e read s
  have hread : read = document.take stop.toNat := take_clamped document stop
  have hlength : read.length = e := List.length_take_of_le (by omega)
  obtain ⟨hinline, hblock⟩ : s.OpensLike (Mode.after read) :=
    hread ▸ scan_start_opensLike document stop
  have hposition : s.position = settled read := hread ▸ scan_start_position document stop
  refine ⟨?_, ?_, ?_⟩
  · rw [hblock, Mode.inBlock_after_iff]
  · rw [hinline, Mode.inInline_after_iff]
  · rw [hposition, settled, hlength]

/-- The first dollar sign stands before the opening, the last one behind a backslash. -/
example : BlockOpen "$\\[$$\\$".toList ∧ dollarsSince "$\\[$$\\$".toList = [3, 4] := by
  decide +kernel

theorem settled_append {t u : Text} (h : u = [] → t.getLast? ≠ some '\\') :
    settled (t ++ u) = t.length + settled u := by
  rcases u.eq_nil_or_concat' with rfl | ⟨v, x, rfl⟩
  · rw [List.append_nil, settled, if_neg (h rfl)]
    rfl
  · unfold settled
    rw [← List.append_assoc, List.getLast?_concat, List.getLast?_concat]
    split_ifs <;> simp only [List.length_append, List.length_singleton] <;> omega

theorem ScanState.eq_of_opensLike {s' : ScanState} {m : Mode} (hp : s.position = s'.position)
    (h : s.OpensLike m) (h' : s'.OpensLike m) : s = s' := by
  cases s
  cases s'
  obtain ⟨h1, h2⟩ := h
  obtain ⟨h1', h2'⟩ := h'
  simp_all

/-- A scan that goes on behind some text, and misses no marker there, ends like one from the
start. -/
theorem scan_from_cut {before rest : Text} (hcut : document.take stop.toNat = before ++ rest)
    (hp : s.position = before.length) (hs : s.OpensLike (Mode.after before))
    (hmiss : ¬ s.Misses before.getLast? rest) (hend : rest = [] → before.getLast? ≠ some '\\') :
    scan document stop s = scan document stop .start := by
  have hlength := congrArg List.length hcut
  rw [List.length_take, List.length_append] at hlength
  have hle : s.position ≤ min stop.toNat document.length := by omega
  have hbefore : document.take s.position = before :=
    calc document.take s.position = (document.take stop.toNat).take s.position := by
          rw [List.take_take, Nat.min_eq_left (by omega)]
      _ = before := by rw [hcut, List.take_left' hp.symm]
  have hrest : document.slice s.position stop.toNat = rest := by
    rw [Text.slice, hcut, hp, List.drop_left' rfl]
  refine ScanState.eq_of_opensLike ?_ ?_ (scan_start_opensLike document stop)
  · rw [scan_position hle, scan_start_position, hrest, hcut, settled_append hend, hp]
  · exact scan_opensLike hle (hbefore ▸ hs) (by rwa [hbefore, hrest])

/-- A scan that goes on, in a second document, from the scan of a stretch that the two documents
have in common ends as a scan of the second document from the start. -/
theorem scan_resumes (document document' : Text) (m : Nat)
    (hsame : document.take m = document'.take m) (n : Int) (hn : m ≤ n) :
    scan document' n (scan document m .start) = scan document' n .start := by
  have hopen := scan_start_opensLike document m
  have hposition := scan_start_position document m
  rw [Int.toNat_natCast, hsame] at hopen hposition
  have hcut := (take_append_slice (t := document') (a := m) (b := n.toNat) (by omega)).symm
  by_cases hlast : (document'.take m).getLast? = some '\\'
  · -- the first scan left a backslash, so the second one starts at it
    obtain ⟨before, hbefore⟩ := List.getLast?_eq_some_iff.1 hlast
    rw [hbefore] at hcut hopen hposition
    rw [List.append_assoc] at hcut
    refine scan_from_cut hcut ?_ ?_ ?_ (by simp)
    · rw [hposition, settled_append (by simp)]
      rfl
    · simpa [settled] using hopen.settled
    · rintro ⟨-, ⟨h, -⟩ | ⟨h, -⟩⟩ <;> simp at h
  · refine scan_from_cut hcut ?_ hopen (ScanState.not_misses_of_ne hlast) fun _ => hlast
    rw [hposition, settled, if_neg hlast]

theorem scan_resumes_at_backslash :
    ['\\', '$'].take 1 = ['\\', '['].take 1
      ∧ scan ['\\', '['] 2 (scan ['\\', '$'] 1 .start) = scan ['\\', '['] 2 .start
      ∧ scan ['\\', '['] 2 .start = ⟨2, false, true⟩ := by
  have hsame : ['\\', '$'].take 1 = ['\\', '['].take 1 := rfl
  exact ⟨hsame, scan_resumes _ _ 1 hsame 2 (by decide), by decide⟩

end Scan

end ExerciseSheet

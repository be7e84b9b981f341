import ExerciseSheet.MathMode.Detector
import ExerciseSheet.Proofs.MathReading

/-!
# Going on from a checkpoint

A checkpoint is sound when it holds open what reading the text before it leaves open. A question
asked of a sound checkpoint is answered as by a scan from the start and leaves a sound checkpoint
(`query_sound`), unless the checkpoint is torn: it lies directly behind a backslash, and an edit
that starts at it has put a bracket there. Such an edit does not lie before the checkpoint, so it
does not drop it. Runs in which no checkpoint is torn are exactly those whose answers agree with the
full scan and go on doing so after one more edit away from the checkpoint
(`answersAgree_and_steadfast_iff`).
-/

namespace ExerciseSheet

theorem ScanState.Misses.of_slice {s : ScanState} {prev : Option Char} {t : Text} {a b : Nat}
    (h : s.Misses prev (t.slice a b)) : s.Misses prev (t.drop a) := by
  obtain ⟨hp, h⟩ := h
  rw [slice_eq_take_drop, List.head?_take] at h
  refine ⟨hp, ?_⟩
  split_ifs at h
  · simp at h
  · exact h

/-- A checkpoint that misses its marker is found out by some text behind that marker. -/
theorem ScanState.Misses.exposed {prev : Option Char} {s : ScanState} {m : Mode} {t : Text}
    (h : s.Misses prev t) (hs : s.OpensLike m) (hm : m.last = prev) :
    ∃ c tail, t.head? = some c
      ∧ (scanFrom prev s (c :: tail)).inMath ≠ (m.readAll (c :: tail)).inMath := by
  obtain ⟨p, i, b⟩ := s
  obtain ⟨i', b', l⟩ := m
  obtain ⟨rfl, rfl⟩ : i = i' ∧ b = b' := hs
  obtain ⟨rfl, ⟨hc, hib⟩ | ⟨hc, hb⟩⟩ := h <;> cases hm
  · cases i with
    | true =>
      -- both hold math open behind the bracket; closing display math tells them apart
      refine ⟨'[', ['\\', ']'], hc, ?_⟩
      simp [scanFrom, Mode.readAll, Mode.read, inMath, Mode.inMath]
    | false =>
      obtain rfl : b = false := by simpa using hib
      refine ⟨'[', [], hc, ?_⟩
      simp [scanFrom, Mode.readAll, Mode.read, inMath, Mode.inMath]
  · cases hb
    cases i with
    | true =>
      -- a dollar sign leaves only the display math that the scan still holds open
      refine ⟨']', ['$'], hc, ?_⟩
      simp [scanFrom, Mode.readAll, Mode.read, inMath, Mode.inMath]
    | false =>
      refine ⟨']', [], hc, ?_⟩
      simp [scanFrom, Mode.readAll, Mode.read, inMath, Mode.inMath]

theorem scan_settles {document : Text} {stop : Int} {s : ScanState}
    (hstop : s.position ≤ min stop.toNat document.length)
    (hs : s.OpensLike (Mode.after (document.take s.position)))
    (h : ¬ s.Misses (document.take s.position).getLast? (document.slice s.position stop.toNat)) :
    (scan document stop s).position ≤ document.length
      ∧ (scan document stop s).OpensLike
          (Mode.after (document.take (scan document stop s).position)) := by
  have hpos : (scan document stop s).position
      = s.position + settled (document.slice s.position stop.toNat) := by
    rw [scan_eq hstop, scanFrom_position]
  have hlen := settled_le (document.slice s.position stop.toNat)
  have hopen := scan_opensLike hstop hs h
  rw [← take_append_slice (t := document) (a := s.position) (by omega)] at hopen
  have hset := hopen.settled
  rw [take_append_take_slice hlen, ← hpos] at hset
  rw [slice_eq_take_drop, List.length_take, List.length_drop] at hlen
  rw [slice_eq_take_drop] at hpos
  exact ⟨by omega, hset⟩

namespace Detector

/-- The checkpoint holds open what reading the text before it leaves open. -/
def Sound (d : Detector) (text : Text) : Prop :=
  ∀ s, d.checkpoint = some s →
    s.position ≤ text.length ∧ s.OpensLike (Mode.after (text.take s.position))

/-- The checkpoint lies inside a marker of the text, and reading that marker would change what the
checkpoint holds open. -/
def Torn (d : Detector) (text : Text) : Prop :=
  ∃ s, d.checkpoint = some s
    ∧ s.Misses (text.take s.position).getLast? (text.drop s.position)

instance (d : Detector) (text : Text) : Decidable (d.Torn text) :=
  inferInstanceAs (Decidable (∃ s ∈ d.checkpoint,
    s.Misses (text.take s.position).getLast? (text.drop s.position)))

variable {d : Detector} {text : Text}

theorem new_sound (text : Text) : new.Sound text := fun _ h => by simp [new] at h

theorem usable?_eq_some {s : ScanState} {offset : Int} (hs : d.checkpoint = some s)
    (hoffset : (s.position : Int) ≤ offset) (hlength : s.position ≤ text.length) :
    d.usable? text offset = some s := by
  rw [usable?, hs, Option.filter_some, if_pos]
  simp [hoffset, hlength]

theorem notifyEdit_eq_self {s : ScanState} {position : Int} (hs : d.checkpoint = some s)
    (h : (s.position : Int) ≤ position) : d.notifyEdit position = d := by
  rw [notifyEdit, hs, Option.filter_some, if_pos (by simpa using h), ← hs]

theorem usable_cases (d : Detector) (text : Text) (offset : Int) :
    ∃ s, (d.usable? text offset).getD .start = s
      ∧ s.position ≤ min offset.toNat text.length
      ∧ (s = .start ∨ d.checkpoint = some s) := by
  rcases h : d.usable? text offset with _ | s
  · exact ⟨_, rfl, Nat.zero_le _, .inl rfl⟩
  · obtain ⟨hs, hp⟩ := Option.filter_eq_some_iff.1 h
    simp only [Bool.and_eq_true, decide_eq_true_eq] at hp
    exact ⟨s, rfl, by omega, .inr hs⟩

/-- A question asked of a sound checkpoint that is not torn is answered as by a scan from the start,
and leaves a sound checkpoint. -/
theorem query_sound (hd : d.Sound text) (ht : ¬ d.Torn text) (offset : Int) :
    (d.query text offset).1 = isInMath text offset ∧ (d.query text offset).2.Sound text := by
  obtain ⟨s, hs, hp, hfrom⟩ := usable_cases d text offset
  have hopen : s.OpensLike (Mode.after (text.take s.position)) := by
    rcases hfrom with rfl | hc
    · exact ⟨rfl, rfl⟩
    · exact (hd s hc).2
  have hmiss : ¬ s.Misses (text.take s.position).getLast?
      (text.slice s.position offset.toNat) := by
    rcases hfrom with rfl | hc
    · exact ScanState.not_misses_of_ne (by simp [ScanState.start])
    · exact fun h => ht ⟨s, hc, h.of_slice⟩
  unfold query
  simp only [hs]
  refine ⟨?_, ?_⟩
  · rw [(scan_opensLike hp hopen hmiss).inMath, isInMath_eq]
  · rintro s' h'
    rw [Option.some.injEq] at h'
    subst h'
    exact scan_settles hp hopen hmiss

theorem query_end {s : ScanState} {head rest : Text} (hs : d.checkpoint = some s)
    (hp : s.position = head.length) :
    (d.query (head ++ rest) (head ++ rest).length).1
      = (scanFrom head.getLast? s rest).inMath := by
  have hle : s.position ≤ (head ++ rest).length := by
    rw [hp, List.length_append]
    exact Nat.le_add_right _ _
  have husable : d.usable? (head ++ rest) (head ++ rest).length = some s :=
    usable?_eq_some hs (by omega) hle
  have hpos : s.position ≤ min ((head ++ rest).length : Int).toNat (head ++ rest).length := by
    omega
  unfold query
  simp only [husable, Option.getD_some]
  rw [scan_eq hpos, hp, Int.toNat_natCast, Text.slice, List.take_length, List.take_left' rfl,
    List.drop_left' rfl]

theorem Sound.notifyEdit {text' : Text} {a : Nat} (hd : d.Sound text) (ha : a ≤ text.length)
    (h : text'.take a = text.take a) : (d.notifyEdit a).Sound text' := by
  intro s hs
  obtain ⟨hc, hp⟩ := Option.filter_eq_some_iff.1 hs
  have hle : s.position ≤ a := by simpa using hp
  have hlen := congrArg List.length h
  rw [List.length_take, List.length_take] at hlen
  refine ⟨by omega, ?_⟩
  rw [take_eq_of_le h hle]
  exact (hd s hc).2

theorem Torn.of_notifyEdit {text' : Text} {a : Nat} (h : text'.take a = text.take a)
    (ha : ∀ s, d.checkpoint = some s → s.position ≠ a) (ht : (d.notifyEdit a).Torn text') :
    d.Torn text := by
  obtain ⟨s, hs, hmiss⟩ := ht
  obtain ⟨hc, hp⟩ := Option.filter_eq_some_iff.1 hs
  have hle : s.position ≤ a := by simpa using hp
  have hlt : s.position < a := Nat.lt_of_le_of_ne hle (ha s hc)
  have hget : text'[s.position]? = text[s.position]? := by
    rw [← List.getElem?_take_of_lt hlt, h, List.getElem?_take_of_lt hlt]
  refine ⟨s, hc, ?_⟩
  unfold ScanState.Misses at hmiss ⊢
  rwa [take_eq_of_le h hle, List.head?_drop, hget, ← List.head?_drop] at hmiss

end Detector

namespace Watched

/-- Whether an action keeps to the rules: an edit lies within the text and is told. -/
def Fits (w : Watched) : Action → Prop
  | .query _ => True
  | .reset => True
  | .splice start stop _ => 0 ≤ start ∧ start ≤ stop ∧ stop ≤ w.text.length
  | _ => False

/-- Whether every action of a run keeps to the rules. -/
def FitsRun (w : Watched) : List Action → Prop
  | [] => True
  | a :: as => w.Fits a ∧ (w.step a).2.FitsRun as

/-- The states of a run, from the first on. -/
def states (w : Watched) (as : List Action) : List Watched := w :: (w.run as).map (·.2)

/-- Every question of a run is answered as by a scan from the start of the text at that time. -/
def AnswersAgree (w : Watched) (as : List Action) : Prop :=
  ∀ offset answer w', (.query offset, answer, w') ∈ as.zip (w.run as) →
    answer = some (isInMath w'.text offset)

/-- After one more edit that does not start at the checkpoint, every question is answered as by a
scan from the start. -/
def Steadfast (w : Watched) : Prop :=
  ∀ start stop new offset, w.Fits (.splice start stop new) →
    (∀ s, w.detector.checkpoint = some s → (s.position : Int) ≠ start) →
    ((w.step (.splice start stop new)).2.step (.query offset)).1
      = some (isInMath (w.text.splice start stop new) offset)

variable {w : Watched}

theorem fits_splice {start stop : Int} {new : Text} (h : w.Fits (.splice start stop new)) :
    ∃ a b : Nat, start = a ∧ stop = b ∧ a ≤ b ∧ b ≤ w.text.length := by
  obtain ⟨h1, h2, h3⟩ := h
  obtain ⟨a, rfl⟩ := Int.eq_ofNat_of_zero_le h1
  obtain ⟨b, rfl⟩ := Int.eq_ofNat_of_zero_le (Int.le_trans h1 h2)
  exact ⟨a, b, rfl, rfl, by omega, by omega⟩

theorem step_sound {a : Action} (hw : w.detector.Sound w.text)
    (ht : ¬ w.detector.Torn w.text) (ha : w.Fits a) :
    (w.step a).2.detector.Sound (w.step a).2.text := by
  cases a with
  | query offset => exact (Detector.query_sound hw ht offset).2
  | splice start stop new =>
    obtain ⟨a, b, rfl, rfl, hab, hb⟩ := fits_splice ha
    exact hw.notifyEdit (by omega) (take_splice (by omega))
  | reset => exact fun _ h => by cases h
  | verify _ => exact ha.elim
  | spliceUntold _ _ _ => exact ha.elim
  | notify _ => exact ha.elim

theorem steadfast_iff (hw : w.detector.Sound w.text) :
    w.Steadfast ↔ ¬ w.detector.Torn w.text := by
  constructor
  · rintro h ⟨s, hs, hmiss⟩
    obtain ⟨hle, hopen⟩ := hw s hs
    obtain ⟨c, tail, hc, hne⟩ := hmiss.exposed hopen (Mode.last_after _)
    rw [List.head?_drop] at hc
    obtain ⟨hlt, -⟩ := List.getElem?_eq_some_iff.1 hc
    -- put that text behind the bracket and ask at the end
    have hfit : w.Fits (.splice (s.position + 1 : Nat) w.text.length tail) := by
      refine ⟨?_, ?_, ?_⟩ <;> omega
    have htext : w.text.splice (s.position + 1 : Nat) w.text.length tail
        = w.text.take s.position ++ c :: tail := by
      rw [splice_natCast, List.drop_length, List.append_nil, List.take_add_one, hc]
      simp
    have hkept : (w.detector.notifyEdit (s.position + 1 : Nat)).checkpoint = some s := by
      rw [Detector.notifyEdit_eq_self hs (by omega), hs]
    have hask := h _ _ _ (w.text.take s.position ++ c :: tail).length hfit fun s' hs' => by
      rw [hs, Option.some.injEq] at hs'
      subst hs'
      omega
    simp only [step, htext] at hask
    rw [Option.some.injEq, Detector.query_end hkept (List.length_take_of_le hle).symm, isInMath_eq,
      Int.toNat_natCast, List.take_length, Mode.after_append] at hask
    exact hne hask
  · intro ht start stop new offset hfit hstart
    obtain ⟨a, b, rfl, rfl, hab, hb⟩ := fits_splice hfit
    have ha : (w.text.splice a b new).take a = w.text.take a := take_splice (by omega)
    refine congrArg some (Detector.query_sound (hw.notifyEdit (by omega) ha) ?_ offset).1
    exact fun h => ht (h.of_notifyEdit ha fun s hs => mt Int.ofNat_inj.2 (hstart s hs))

theorem answersAgree_cons {a : Action} {as : List Action} :
    w.AnswersAgree (a :: as) ↔
      (∀ offset, a = .query offset →
        (w.step a).1 = some (isInMath (w.step a).2.text offset))
      ∧ (w.step a).2.AnswersAgree as := by
  simp only [AnswersAgree, run, List.zip_cons_cons, List.mem_cons, Prod.mk.injEq]
  constructor
  · intro h
    exact ⟨fun offset ha => h offset _ _ (.inl ⟨ha.symm, rfl⟩),
      fun offset answer w' hm => h offset answer w' (.inr hm)⟩
  · rintro ⟨h1, h2⟩ offset answer w' (⟨ha, hr⟩ | hm)
    · rw [← hr] at h1
      exact h1 offset ha.symm
    · exact h2 offset answer w' hm

theorem agree_iff_of_sound {as : List Action} (hw : w.detector.Sound w.text)
    (hfit : w.FitsRun as) :
    w.AnswersAgree as ∧ (∀ w' ∈ w.states as, w'.Steadfast)
      ↔ ∀ w' ∈ w.states as, ¬ w'.detector.Torn w'.text := by
  induction as generalizing w with
  | nil =>
    simp only [states, run, List.map_nil, List.mem_singleton, forall_eq, steadfast_iff hw]
    exact ⟨fun h => h.2, fun h => ⟨fun _ _ _ hm => by simp at hm, h⟩⟩
  | cons a as ih =>
    rw [show w.states (a :: as) = w :: (w.step a).2.states as from rfl, answersAgree_cons]
    simp only [List.forall_mem_cons, steadfast_iff hw]
    -- only an untorn checkpoint hands a sound one to the rest of the run
    have hrest := fun ht => ih (step_sound hw ht hfit.1) hfit.2
    constructor
    · rintro ⟨⟨-, hagree⟩, ht, hstead⟩
      exact ⟨ht, (hrest ht).1 ⟨hagree, hstead⟩⟩
    · rintro ⟨ht, hall⟩
      obtain ⟨hagree, hstead⟩ := (hrest ht).2 hall
      refine ⟨⟨?_, hagree⟩, ht, hstead⟩
      rintro offset rfl
      exact congrArg some (Detector.query_sound hw ht offset).1

/-- Every answer of a run on a new detector is the full scan's, and stays so after one more edit
away from the checkpoint, exactly when no state of the run has a torn checkpoint. -/
theorem answersAgree_and_steadfast_iff (text : Text) (as : List Action)
    (h : FitsRun ⟨text, .new⟩ as) :
    AnswersAgree ⟨text, .new⟩ as ∧ (∀ w ∈ states ⟨text, .new⟩ as, w.Steadfast)
      ↔ ∀ w ∈ states ⟨text, .new⟩ as, ¬ w.detector.Torn w.text :=
  agree_iff_of_sound (Detector.new_sound text) h

theorem answersAgree_behind_backslash :
    FitsRun ⟨['\\', '\\'], .new⟩ [.query 2, .splice 2 2 ['['], .query 3]
      ∧ AnswersAgree ⟨['\\', '\\'], .new⟩ [.query 2, .splice 2 2 ['['], .query 3] := by
  have h : FitsRun ⟨['\\', '\\'], .new⟩ [.query 2, .splice 2 2 ['['], .query 3] :=
    ⟨trivial, ⟨by decide, by decide, by decide⟩, trivial, trivial⟩
  exact ⟨h, ((answersAgree_and_steadfast_iff _ _ h).2 (by decide)).1⟩

/-- A bracket put at the checkpoint, directly behind a backslash, is not seen to open display
math. -/
theorem not_answersAgree_torn :
    FitsRun ⟨['\\', '\\'], .new⟩ [.query 2, .splice 1 2 ['['], .query 2]
      ∧ ¬ AnswersAgree ⟨['\\', '\\'], .new⟩ [.query 2, .splice 1 2 ['['], .query 2] := by
  refine ⟨⟨trivial, ⟨by decide, by decide, by decide⟩, trivial, trivial⟩, fun h => ?_⟩
  have := h 2 (some false) ⟨['\\', '['], ⟨some ⟨2, false, false⟩, 1⟩⟩ (by decide)
  exact absurd this (by decide)

end Watched

end ExerciseSheet

import ExerciseSheet.Proofs.Checkpoint
import ExerciseSheet.Proofs.History
import ExerciseSheet.Proofs.ScanMeaning
import Mathlib.Data.List.Induction

/-!
# Working onward

As long as no question lies before the one asked last and no edit starts before it, only the first
question is answered by a scan from the start (`Forward.caught`). The checkpoint lies at or before
the offset asked for last, so an edit does not drop it and leaves the text at least that long
(`Caught.splice`), and the next question goes on from it (`Caught.query`).
-/

namespace ExerciseSheet

namespace Detector

/-- A question counts as a scan from the start unless the checkpoint is usable, and leaves a
checkpoint at or before the offset, when that lies in the text. -/
theorem query_leaves (d : Detector) (text : Text) {offset : Int} (hoffset : 0 ≤ offset) :
    ∃ s, (s.position : Int) ≤ offset ∧ (d.query text offset).2
      = ⟨some s, if (d.usable? text offset).isSome then d.fullScans else d.fullScans + 1⟩ := by
  obtain ⟨s, hs, hp, -⟩ := usable_cases d text offset
  have hlen := settled_le (text.slice s.position offset.toNat)
  refine ⟨_, ?_, rfl⟩
  rw [hs, scan_position hp]
  rw [slice_eq_take_drop, List.length_take] at hlen
  rw [slice_eq_take_drop]
  omega

end Detector

namespace Watched

/-- The offset that an action asks for. -/
def Action.offset? : Action → Option Int
  | .query offset => some offset
  | _ => none

/-- The offset asked for last. -/
def lastAsked (past : List Action) : Option Int := (past.filterMap Action.offset?).getLast?

/-- The watched text after some actions. -/
def after (w : Watched) (as : List Action) : Watched := as.foldl (fun w a => (w.step a).2) w

/-- Whether an action does not go back behind the offset asked for last, if one has been: a question
lies in the text, at or after that offset, and an edit, which is told, starts at or after it. -/
def Onward (w : Watched) (last : Option Int) : Action → Prop
  | .query offset => 0 ≤ offset ∧ offset ≤ w.text.length ∧ ∀ o ∈ last, o ≤ offset
  | .splice start _ _ => ∀ o ∈ last, o ≤ start
  | _ => False

instance (w : Watched) (last : Option Int) : (a : Action) → Decidable (w.Onward last a)
  | .query offset =>
    inferInstanceAs (Decidable (0 ≤ offset ∧ offset ≤ w.text.length ∧ ∀ o ∈ last, o ≤ offset))
  | .splice start _ _ => inferInstanceAs (Decidable (∀ o ∈ last, o ≤ start))
  | .verify _ | .spliceUntold .. | .notify _ | .reset => .isFalse id

/-- Whether no action of a run goes back behind the offset asked for last before it. -/
def Forward (w : Watched) (as : List Action) : Prop :=
  ∀ past a rest, as = past ++ a :: rest → (w.after past).Onward (lastAsked past) a

variable {w : Watched} {last : Option Int} {past as : List Action} {a : Action}

theorem after_append_singleton (w : Watched) (past : List Action) (a : Action) :
    w.after (past ++ [a]) = ((w.after past).step a).2 := by
  rw [after, List.foldl_append]
  rfl

theorem lastAsked_append_singleton (past : List Action) (a : Action) :
    lastAsked (past ++ [a]) = a.offset?.or (lastAsked past) := by
  rw [lastAsked, List.filterMap_append]
  cases h : a.offset? <;> simp [h, lastAsked]

/-- Nothing has been asked and the detector is new, or a single scan has begun at the start, the
checkpoint lies at or before the offset asked for last, and so far the text reaches. -/
def Caught (w : Watched) : Option Int → Prop
  | none => w.detector = .new
  | some o => o ≤ w.text.length ∧ ∃ s, w.detector = ⟨some s, 1⟩ ∧ (s.position : Int) ≤ o

theorem Caught.query {offset : Int} (h : w.Caught last) (ha : w.Onward last (.query offset)) :
    (w.step (.query offset)).2.Caught (some offset) := by
  obtain ⟨hzero, hlength, hlast⟩ := ha
  obtain ⟨s', hs', hquery⟩ := w.detector.query_leaves w.text hzero
  refine ⟨hlength, s', ?_, hs'⟩
  change (w.detector.query w.text offset).2 = _
  rw [hquery]
  rcases last with _ | o
  · rw [show w.detector = .new from h]
    rfl
  · obtain ⟨ho, s, hd, hs⟩ := h
    have hoffset := hlast o rfl
    have husable : w.detector.usable? w.text offset = some s :=
      Detector.usable?_eq_some (by rw [hd]) (by omega) (by omega)
    rw [husable, hd]
    rfl

/-- An edit at or after the offset asked for last leaves the detector as it was. -/
theorem Caught.detector_splice {start stop : Int} {new : Text} (h : w.Caught last)
    (ha : w.Onward last (.splice start stop new)) :
    (w.step (.splice start stop new)).2.detector = w.detector := by
  rcases last with _ | o
  · rw [step, show w.detector = .new from h]
    rfl
  · obtain ⟨-, s, hd, hs⟩ := h
    have hstart : o ≤ start := ha o rfl
    exact Detector.notifyEdit_eq_self (by rw [hd]) (by omega)

theorem Caught.splice {start stop : Int} {new : Text} (h : w.Caught last)
    (ha : w.Onward last (.splice start stop new)) :
    (w.step (.splice start stop new)).2.Caught last := by
  have hdetector := h.detector_splice ha
  rcases last with _ | o
  · exact hdetector.trans h
  · obtain ⟨ho, s, hd, hs⟩ := h
    have hstart : o ≤ start := ha o rfl
    obtain ⟨a, rfl⟩ := Int.eq_ofNat_of_zero_le (a := start) (by omega)
    have hlength := min_length_le_length_splice w.text new a stop
    refine ⟨?_, s, hdetector.trans hd, hs⟩
    change o ≤ (w.text.splice a stop new).length
    omega

theorem Caught.step (h : w.Caught last) (ha : w.Onward last a) :
    (w.step a).2.Caught (a.offset?.or last) := by
  cases a with
  | query offset => exact h.query ha
  | splice start stop new => exact h.splice ha
  | verify _ => exact ha.elim
  | spliceUntold _ _ _ => exact ha.elim
  | notify _ => exact ha.elim
  | reset => exact ha.elim

theorem Forward.of_prefix (h : w.Forward as) (hpast : past <+: as) : w.Forward past := by
  obtain ⟨rest, rfl⟩ := hpast
  rintro before a after rfl
  exact h before a (after ++ rest) (by simp)

theorem forward_append_singleton : w.Forward (past ++ [a])
    ↔ w.Forward past ∧ (w.after past).Onward (lastAsked past) a := by
  constructor
  · exact fun h => ⟨h.of_prefix (List.prefix_append _ _), h past a [] rfl⟩
  · rintro ⟨h, ha⟩ before b rest hcut
    obtain ⟨rfl, rfl, -⟩ | ⟨rest, -, rfl⟩ := cut_append_singleton hcut
    · exact ha
    · exact h before b rest rfl

theorem forward_iff_getElem : w.Forward as
    ↔ ∀ n, (h : n < as.length) → (w.after (as.take n)).Onward (lastAsked (as.take n)) as[n] := by
  constructor
  · intro h n hn
    refine h _ _ (as.drop (n + 1)) ?_
    rw [List.getElem_cons_drop, List.take_append_drop]
  · rintro h past a rest rfl
    simpa using h past.length (by simp)

instance (w : Watched) (as : List Action) : Decidable (w.Forward as) :=
  decidable_of_iff _ forward_iff_getElem.symm

theorem Forward.caught {text : Text} (h : Forward ⟨text, .new⟩ as) :
    (after ⟨text, .new⟩ as).Caught (lastAsked as) := by
  induction as using List.reverseRecOn with
  | nil => exact rfl
  | append_singleton as a ih =>
    obtain ⟨has, ha⟩ := forward_append_singleton.1 h
    rw [after_append_singleton, lastAsked_append_singleton]
    exact (ih has).step ha

/-- Whatever the text, in every state of a run that never goes back a new detector has scanned from
the start once if anything has been asked and not at all otherwise, it has a checkpoint at or before
the offset asked for last, and the next edit leaves it as it is. -/
theorem scans_once_of_forward (text : Text) (as : List Action) (h : Forward ⟨text, .new⟩ as)
    (past : List Action) (hpast : past <+: as) :
    let d := (after ⟨text, .new⟩ past).detector
    (d.fullScans = if lastAsked past = none then 0 else 1)
    ∧ (∀ o, lastAsked past = some o → ∃ s, d.checkpoint = some s ∧ (s.position : Int) ≤ o)
    ∧ ∀ start stop new, past ++ [.splice start stop new] <+: as →
      (after ⟨text, .new⟩ (past ++ [.splice start stop new])).detector = d := by
  intro d
  have hcaught : (after ⟨text, .new⟩ past).Caught (lastAsked past) := (h.of_prefix hpast).caught
  refine ⟨?_, ?_, fun start stop new hnext => ?_⟩
  · rcases hlast : lastAsked past with _ | o <;> rw [hlast] at hcaught
    · exact congrArg Detector.fullScans hcaught
    · obtain ⟨-, s, hd, -⟩ := hcaught
      exact congrArg Detector.fullScans hd
  · intro o hlast
    rw [hlast] at hcaught
    obtain ⟨-, s, hd, hs⟩ := hcaught
    exact ⟨s, congrArg Detector.checkpoint hd, hs⟩
  · rw [after_append_singleton]
    exact hcaught.detector_splice (forward_append_singleton.1 (h.of_prefix hnext)).2

/-- The first question leaves a trailing backslash, which an edit then pairs, and another edit cuts
the text short right at the offset asked for last. -/
theorem scans_once_of_shrinking :
    let as : List Action :=
      [.query 2, .splice 2 2 ['[', 'b'], .query 3, .splice 3 9 [], .query 3]
    Forward ⟨['a', '\\'], .new⟩ as ∧ (after ⟨['a', '\\'], .new⟩ as).detector.fullScans = 1 := by
  intro as
  have h : Forward ⟨['a', '\\'], .new⟩ as := by decide
  exact ⟨h, (scans_once_of_forward _ as h as (List.prefix_refl as)).1⟩

end Watched

end ExerciseSheet

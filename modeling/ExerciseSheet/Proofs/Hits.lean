import ExerciseSheet.Proofs.Occurrence
import ExerciseSheet.Ranking
import Mathlib.Order.MinMax
import Mathlib.Tactic.SplitIfs

/-!
# Hits on labels and keywords

A query hits a text that contains what it looks for, in lower case. No score is above 100, and an
entry reaches 100 exactly by a hit on its label or on one of its keywords (`score_eq_hundred_iff`):
as a keyword of the entry a text that is hit counts 80, but it is scored once more as a label.
-/

namespace ExerciseSheet

namespace Entry

/-- The query hits the label. -/
def LabelHit (query : Text) (e : Entry) : Prop := needleOf query <:+: e.label.lower

/-- The query hits some keyword. -/
def KeywordHit (query : Text) (e : Entry) : Prop :=
  ∃ k ∈ e.keywords, needleOf query <:+: k.lower

instance (query : Text) (e : Entry) : Decidable (LabelHit query e) :=
  inferInstanceAs (Decidable (needleOf query <:+: e.label.lower))

instance (query : Text) (e : Entry) : Decidable (KeywordHit query e) :=
  inferInstanceAs (Decidable (∃ k ∈ e.keywords, needleOf query <:+: k.lower))

end Entry

namespace Score

variable {needle label query : Text} {keywords : List Text}

theorem ofNeedle_of_label (h : needle ≠ []) (hlabel : needle <:+: label) :
    ofNeedle needle label keywords = ⟨true, 100⟩ := by
  rw [ofNeedle, if_neg (by simpa using h), if_pos (has_iff.2 hlabel)]

theorem ofNeedle_of_keyword (h : needle ≠ []) (hlabel : ¬ needle <:+: label)
    (hkeyword : ∃ k ∈ keywords, needle <:+: k.lower) :
    ofNeedle needle label keywords = ⟨true, 80⟩ := by
  rw [ofNeedle, if_neg (by simpa using h), if_neg (has_iff.not.2 hlabel), if_pos]
  simpa only [List.any_eq_true, has_iff] using hkeyword

/-- Without a hit it is the gaps in the label that count. -/
theorem ofNeedle_of_no_hit (h : needle ≠ []) (hlabel : ¬ needle <:+: label)
    (hkeyword : ¬ ∃ k ∈ keywords, needle <:+: k.lower) :
    ofNeedle needle label keywords
      = (gaps? needle label).elim ⟨false, 0⟩ fun g => ⟨true, 50 - 2 * g⟩ := by
  rw [ofNeedle, if_neg (by simpa using h), if_neg (has_iff.not.2 hlabel), if_neg]
  · cases gaps? needle label <;> rfl
  · simpa only [List.any_eq_true, has_iff] using hkeyword

theorem points_ofNeedle_le (needle label : Text) (keywords : List Text) :
    (ofNeedle needle label keywords).points ≤ 100 := by
  unfold ofNeedle
  split_ifs
  · exact Nat.zero_le _
  · exact Nat.le_refl _
  · exact Nat.le_add_right 80 20
  · split
    · exact Nat.zero_le _
    · show 50 - 2 * _ ≤ 100
      omega

theorem hundred_le_points_iff (h : needle ≠ []) :
    100 ≤ (ofNeedle needle label keywords).points ↔ needle <:+: label := by
  unfold ofNeedle
  rw [if_neg (by simpa using h), ← has_iff]
  split_ifs with hlabel
  · exact iff_of_true (Nat.le_refl _) hlabel
  · exact iff_of_false (by decide) hlabel
  · refine iff_of_false ?_ hlabel
    split
    · exact Nat.not_succ_le_zero _
    · show ¬ 100 ≤ 50 - 2 * _
      omega

theorem isMatch_of_points (h : 0 < (ofNeedle needle label keywords).points) :
    (ofNeedle needle label keywords).isMatch = true := by
  unfold ofNeedle at h ⊢
  split_ifs at h ⊢
  · rfl
  · rfl
  · rfl
  · split at h
    · exact absurd h (Nat.lt_irrefl 0)
    · rfl

end Score

namespace Ranked

variable {query : Text} {e : Entry}

theorem le_bestKeyword_iff {n : Nat} {keywords : List Text} :
    n ≤ bestKeyword query keywords
      ↔ n = 0 ∨ ∃ k ∈ keywords, n ≤ (Score.of query k []).points := by
  -- the fold carries the best so far, so the induction is for every start value
  have hfold : ∀ (ks : List Text) (best : Nat),
      n ≤ ks.foldl (fun best k => max best (Score.of query k []).points) best
        ↔ n ≤ best ∨ ∃ k ∈ ks, n ≤ (Score.of query k []).points := by
    intro ks
    induction ks with
    | nil => simp
    | cons k ks ih =>
      intro best
      rw [List.foldl_cons, ih, le_max_iff, or_assoc, List.exists_mem_cons_iff]
  rw [bestKeyword, hfold, Nat.le_zero]

theorem le_score_iff {n : Nat} :
    n ≤ (ofEntry query e).score
      ↔ n ≤ (Score.of query e.label e.keywords).points ∨ n ≤ bestKeyword query e.keywords :=
  le_max_iff

theorem score_le (query : Text) (e : Entry) : (ofEntry query e).score ≤ 100 := by
  have hpoints : ∀ (t : Text) (ks : List Text), (Score.of query t ks).points ≤ 100 :=
    fun t ks => Score.points_ofNeedle_le _ _ _
  refine Nat.le_of_not_lt fun h => ?_
  obtain h | h := le_score_iff.1 h
  · exact absurd h (Nat.not_lt.2 (hpoints _ _))
  · obtain h | ⟨k, -, h⟩ := le_bestKeyword_iff.1 h
    · cases h
    · exact absurd h (Nat.not_lt.2 (hpoints _ _))

/-- An entry has the full score exactly by a hit on its label or on a keyword. -/
theorem score_eq_hundred_iff (h : needleOf query ≠ []) :
    (ofEntry query e).score = 100 ↔ e.LabelHit query ∨ e.KeywordHit query := by
  rw [Nat.le_antisymm_iff, and_iff_right (score_le query e), le_score_iff, le_bestKeyword_iff]
  refine or_congr (Score.hundred_le_points_iff h) ?_
  constructor
  · rintro (h0 | ⟨k, hk, hpoints⟩)
    · cases h0
    · exact ⟨k, hk, (Score.hundred_le_points_iff h).1 hpoints⟩
  · rintro ⟨k, hk, hhit⟩
    exact .inr ⟨k, hk, (Score.hundred_le_points_iff h).2 hhit⟩

theorem isMatch_of_score (h : 0 < (ofEntry query e).score) :
    (ofEntry query e).isMatch = true := by
  rcases le_score_iff.1 h with h | h
  · exact (Bool.or_eq_true _ _).mpr (.inl (Score.isMatch_of_points h))
  · exact (Bool.or_eq_true _ _).mpr (.inr (decide_eq_true h))

end Ranked

end ExerciseSheet

import ExerciseSheet.Proofs.Gaps
import ExerciseSheet.Proofs.Needle
import ExerciseSheet.Proofs.RankOrder
import Mathlib.Data.List.Perm.Subperm

/-!
# A longer query narrows the ranking

Where a query goes on from what another one looks for, no entry gains points and none becomes a
match (`Score.ofNeedle_le`, `Ranked.ofEntry_le`): a longer needle hits fewer texts and leaves at
least as many gaps in those that it is spelled from. So the ranking loses entries and wins none
(`longer_query_narrows`).
-/

namespace ExerciseSheet

namespace Score

variable {needle longer : Text}

theorem ofNeedle_le (hne : needle ≠ []) (hpre : needle <+: longer) (label : Text)
    (keywords : List Text) :
    (ofNeedle longer label keywords).points ≤ (ofNeedle needle label keywords).points
      ∧ ((ofNeedle longer label keywords).isMatch = true →
        (ofNeedle needle label keywords).isMatch = true) := by
  have hlonger : longer ≠ [] := fun h => hne (List.prefix_nil.1 (h ▸ hpre))
  have hhit : ∀ {t : Text}, longer <:+: t → needle <:+: t := hpre.isInfix.trans
  by_cases hlabel : needle <:+: label
  · rw [ofNeedle_of_label hne hlabel]
    exact ⟨points_ofNeedle_le _ _ _, fun _ => rfl⟩
  have hlabel' : ¬ longer <:+: label := fun h => hlabel (hhit h)
  by_cases hkeyword : ∃ k ∈ keywords, needle <:+: k.lower
  · rw [ofNeedle_of_keyword hne hlabel hkeyword]
    refine ⟨?_, fun _ => rfl⟩
    by_cases hkeyword' : ∃ k ∈ keywords, longer <:+: k.lower
    · rw [ofNeedle_of_keyword hlonger hlabel' hkeyword']
    · rw [ofNeedle_of_no_hit hlonger hlabel' hkeyword']
      rcases gaps? longer label with _ | g
      · exact Nat.zero_le _
      · show 50 - 2 * g ≤ 80
        omega
  have hkeyword' : ¬ ∃ k ∈ keywords, longer <:+: k.lower :=
    fun ⟨k, hk, h⟩ => hkeyword ⟨k, hk, hhit h⟩
  rw [ofNeedle_of_no_hit hne hlabel hkeyword, ofNeedle_of_no_hit hlonger hlabel' hkeyword']
  rcases hg : gaps? longer label with _ | g
  · exact ⟨Nat.zero_le _, fun h => by cases h⟩
  · obtain ⟨k, hk, hle⟩ := exists_gaps?_le hpre hg
    rw [hk]
    refine ⟨?_, fun _ => rfl⟩
    show 50 - 2 * g ≤ 50 - 2 * k
    omega

end Score

namespace Ranked

variable {query longer : Text}

theorem bestKeyword_le (hne : needleOf query ≠ []) (hpre : needleOf query <+: needleOf longer)
    (keywords : List Text) : bestKeyword longer keywords ≤ bestKeyword query keywords := by
  obtain h | ⟨k, hk, hle⟩ := le_bestKeyword_iff.1 (Nat.le_refl (bestKeyword longer keywords))
  · rw [h]
    exact Nat.zero_le _
  · exact le_bestKeyword_iff.2
      (.inr ⟨k, hk, hle.trans (Score.ofNeedle_le hne hpre k.lower []).1⟩)

theorem ofEntry_le (hne : needleOf query ≠ []) (hpre : needleOf query <+: needleOf longer)
    (e : Entry) : (ofEntry longer e).score ≤ (ofEntry query e).score
      ∧ ((ofEntry longer e).isMatch = true → (ofEntry query e).isMatch = true) := by
  obtain ⟨hpoints, hmatch⟩ := Score.ofNeedle_le hne hpre e.label.lower e.keywords
  have hbest := bestKeyword_le hne hpre e.keywords
  refine ⟨max_le_max hpoints hbest, ?_⟩
  simp only [ofEntry, Bool.or_eq_true, decide_eq_true_eq]
  exact Or.imp hmatch fun h => Nat.lt_of_lt_of_le h hbest

/-- The entries of a ranking are those that the query matches. -/
theorem map_entry_rank_perm (h : needleOf query ≠ []) (entries : List Entry) :
    ((rank query entries).map (·.entry)).Perm
      (entries.filter fun e => (ofEntry query e).isMatch) := by
  rw [rank_eq_sort h]
  exact map_entry_sort_perm query entries

end Ranked

/-- A query that goes on from what another one looks for gives every entry at most the score that
the other gives it and matches none that the other does not, so its ranking holds only entries that
the other's holds as well, none of them more often. -/
theorem longer_query_narrows {query longer : Text} (hne : needleOf query ≠ [])
    (hpre : needleOf query <+: needleOf longer) :
    (∀ e : Entry, (Ranked.ofEntry longer e).score ≤ (Ranked.ofEntry query e).score
        ∧ ((Ranked.ofEntry longer e).isMatch = true → (Ranked.ofEntry query e).isMatch = true))
      ∧ ∀ entries : List Entry,
        ((rank longer entries).map (·.entry)).Subperm ((rank query entries).map (·.entry)) := by
  have hlonger : needleOf longer ≠ [] := fun h => hne (List.prefix_nil.1 (h ▸ hpre))
  refine ⟨Ranked.ofEntry_le hne hpre, fun entries => ?_⟩
  refine (Ranked.map_entry_rank_perm hlonger entries).subperm.trans ?_
  refine List.Subperm.trans ?_ (Ranked.map_entry_rank_perm hne entries).symm.subperm
  exact (List.monotone_filter_right entries fun e => (Ranked.ofEntry_le hne hpre e).2).subperm

/-- A longer query may lose a hit on the label to scattered letters. -/
theorem longer_query_narrows_of_scattered :
    needleOf ['S', 'c'] ≠ [] ∧ needleOf ['S', 'c'] <+: needleOf ['s', 'C', 'e', ' ']
      ∧ (Ranked.ofEntry ['s', 'C', 'e', ' '] scoreEntry).score
        ≤ (Ranked.ofEntry ['S', 'c'] scoreEntry).score
      ∧ (Ranked.ofEntry ['s', 'C', 'e', ' '] scoreEntry).score = 46
      ∧ ((rank ['s', 'C', 'e', ' '] [pointsEntry, scoreEntry]).map (·.entry)).Subperm
        ((rank ['S', 'c'] [pointsEntry, scoreEntry]).map (·.entry)) := by
  have hne : needleOf ['S', 'c'] ≠ [] := by decide
  have hpre : needleOf ['S', 'c'] <+: needleOf ['s', 'C', 'e', ' '] := by decide
  obtain ⟨hscore, hrank⟩ := longer_query_narrows hne hpre
  exact ⟨hne, hpre, (hscore scoreEntry).1, by decide, hrank [pointsEntry, scoreEntry]⟩

end ExerciseSheet

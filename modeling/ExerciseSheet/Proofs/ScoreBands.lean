import ExerciseSheet.Proofs.Gaps
import ExerciseSheet.Proofs.Needle
import ExerciseSheet.Proofs.RankOrder

/-!
# The two bands of scores

An entry that a query hits, on its label or on a keyword, has the full score. Any other has the best
of the points for the texts that the needle is spelled from (`score_eq_max`), and as a needle that
is spelled without a gap is a hit, these end at 48 (`score_of_no_hit`). So no score lies between 48
and 100, and a ranking lists the entries with a hit first (`entry_score_bands`).
-/

namespace ExerciseSheet

variable {query : Text} {e : Entry} {n : Nat}

namespace Entry

/-- The query hits the label or some keyword. -/
def Hit (query : Text) (e : Entry) : Prop := e.LabelHit query ∨ e.KeywordHit query

instance (query : Text) (e : Entry) : Decidable (Hit query e) :=
  inferInstanceAs (Decidable (_ ∨ _))

/-- The texts that an entry is found by, in lower case. -/
def texts (e : Entry) : List Text := e.label.lower :: e.keywords.map (·.lower)

/-- The points for the texts of an entry that the needle is spelled from. -/
def scatteredPoints (query : Text) (e : Entry) : List Nat :=
  (e.texts.filterMap (gaps? (needleOf query))).map fun g => 50 - 2 * g

theorem exists_mem_texts {P : Text → Prop} :
    (∃ t ∈ e.texts, P t) ↔ P e.label.lower ∨ ∃ k ∈ e.keywords, P k.lower := by
  simp [texts]

theorem hit_iff : e.Hit query ↔ ∃ t ∈ e.texts, needleOf query <:+: t :=
  exists_mem_texts.symm

theorem mem_scatteredPoints :
    n ∈ e.scatteredPoints query
      ↔ ∃ t ∈ e.texts, ∃ g, gaps? (needleOf query) t = some g ∧ 50 - 2 * g = n := by
  simp only [scatteredPoints, List.mem_map, List.mem_filterMap]
  constructor
  · rintro ⟨g, ⟨t, ht, hg⟩, hn⟩
    exact ⟨t, ht, g, hg, hn⟩
  · rintro ⟨t, ht, g, hg, hn⟩
    exact ⟨g, ⟨t, ht, hg⟩, hn⟩

end Entry

theorem le_max?_getD_iff {l : List Nat} : n ≤ l.max?.getD 0 ↔ n = 0 ∨ ∃ x ∈ l, n ≤ x := by
  constructor
  · intro h
    rcases hmax : l.max? with _ | m <;> rw [hmax] at h
    · exact .inl (Nat.le_zero.1 h)
    · exact .inr ⟨m, (List.max?_eq_some_iff.1 hmax).1, h⟩
  · rintro (rfl | ⟨x, hx, h⟩)
    · exact Nat.zero_le _
    · exact h.trans (List.le_max?_getD_of_mem hx)

namespace Score

theorem le_points_iff {needle label : Text} {keywords : List Text} (h : needle ≠ [])
    (hlabel : ¬ needle <:+: label) (hkeyword : ¬ ∃ k ∈ keywords, needle <:+: k.lower) :
    n ≤ (ofNeedle needle label keywords).points
      ↔ n = 0 ∨ ∃ g, gaps? needle label = some g ∧ n ≤ 50 - 2 * g := by
  rw [ofNeedle_of_no_hit h hlabel hkeyword]
  rcases gaps? needle label with _ | g
  · simp
  · show n ≤ 50 - 2 * g ↔ _
    simp only [Option.some.injEq, exists_eq_left']
    omega

theorem isMatch_iff {needle label : Text} {keywords : List Text} (h : needle ≠ [])
    (hlabel : ¬ needle <:+: label) (hkeyword : ¬ ∃ k ∈ keywords, needle <:+: k.lower) :
    (ofNeedle needle label keywords).isMatch = true ↔ needle.Sublist label := by
  rw [ofNeedle_of_no_hit h hlabel hkeyword, ← gaps?_isSome_iff]
  cases gaps? needle label <;> simp

end Score

namespace Ranked

section NoHit

variable (h : needleOf query ≠ []) (hmiss : ¬ e.Hit query)
include h hmiss

theorem le_bestKeyword_of_no_hit :
    n ≤ bestKeyword query e.keywords
      ↔ n = 0 ∨ ∃ k ∈ e.keywords, ∃ g, gaps? (needleOf query) k.lower = some g
        ∧ n ≤ 50 - 2 * g := by
  have hkeyword : ∀ k ∈ e.keywords, ¬ needleOf query <:+: k.lower :=
    fun k hk hhit => hmiss (.inr ⟨k, hk, hhit⟩)
  have hpoints : ∀ k ∈ e.keywords, (n ≤ (Score.of query k []).points
      ↔ n = 0 ∨ ∃ g, gaps? (needleOf query) k.lower = some g ∧ n ≤ 50 - 2 * g) :=
    fun k hk => Score.le_points_iff h (hkeyword k hk) (by simp)
  rw [le_bestKeyword_iff]
  constructor
  · rintro (h0 | ⟨k, hk, hle⟩)
    · exact .inl h0
    · exact ((hpoints k hk).1 hle).imp_right fun hg => ⟨k, hk, hg⟩
  · rintro (h0 | ⟨k, hk, hg⟩)
    · exact .inl h0
    · exact .inr ⟨k, hk, (hpoints k hk).2 (.inr hg)⟩

theorem le_score_of_no_hit :
    n ≤ (ofEntry query e).score
      ↔ n = 0 ∨ ∃ t ∈ e.texts, ∃ g, gaps? (needleOf query) t = some g ∧ n ≤ 50 - 2 * g := by
  have hlabel := Score.le_points_iff (n := n) h (fun hl => hmiss (.inl hl))
    (fun hk => hmiss (.inr hk))
  rw [le_score_iff, le_bestKeyword_of_no_hit h hmiss, Score.of, hlabel, Entry.exists_mem_texts,
    or_or_or_comm, or_self]

/-- Without a hit it is the best of the points that count. -/
theorem score_eq_max :
    (ofEntry query e).score = (e.scatteredPoints query).max?.getD 0 := by
  refine eq_of_forall_le_iff fun n => ?_
  rw [le_score_of_no_hit h hmiss, le_max?_getD_iff]
  refine or_congr_right ?_
  simp only [Entry.mem_scatteredPoints]
  constructor
  · rintro ⟨t, ht, g, hg, hle⟩
    exact ⟨_, ⟨t, ht, g, hg, rfl⟩, hle⟩
  · rintro ⟨_, ⟨t, ht, g, hg, rfl⟩, hle⟩
    exact ⟨t, ht, g, hg, hle⟩

/-- Without a hit at least one character is skipped, so the score is even and at most 48. -/
theorem score_of_no_hit : 2 ∣ (ofEntry query e).score ∧ (ofEntry query e).score ≤ 48 := by
  obtain h0 | ⟨t, ht, g, hg, hle⟩ := (le_score_of_no_hit h hmiss).1 (Nat.le_refl _)
  · rw [h0]
    decide
  · have hge := (le_score_of_no_hit h hmiss).2 (.inr ⟨t, ht, g, hg, Nat.le_refl _⟩)
    have hgap : g ≠ 0 := by
      rintro rfl
      exact hmiss (Entry.hit_iff.2 ⟨t, ht, infix_of_gaps?_eq_zero hg⟩)
    omega

theorem isMatch_of_no_hit :
    (ofEntry query e).isMatch = true
      ↔ (needleOf query).Sublist e.label.lower
        ∨ ∃ k ∈ e.keywords, ∃ g, gaps? (needleOf query) k.lower = some g ∧ 0 < 50 - 2 * g := by
  have hlabel := Score.isMatch_iff h (fun hl => hmiss (.inl hl)) (fun hk => hmiss (.inr hk))
  have hbest := le_bestKeyword_of_no_hit (n := 1) h hmiss
  simp only [Nat.one_ne_zero, false_or] at hbest
  simp only [ofEntry, Bool.or_eq_true, decide_eq_true_eq]
  exact or_congr hlabel hbest

end NoHit

theorem ofEntry_of_hit (h : needleOf query ≠ []) (hhit : e.Hit query) :
    ofEntry query e = ⟨e, 100, true⟩ := by
  have hscore : (ofEntry query e).score = 100 := (score_eq_hundred_iff h).2 hhit
  have hmatch : (ofEntry query e).isMatch = true := isMatch_of_score (by omega)
  rw [← hscore, ← hmatch]
  rfl

theorem forall_rank {P : Ranked → Prop} (h : needleOf query ≠ [])
    (hP : ∀ e, P (ofEntry query e)) (entries : List Entry) : ∀ r ∈ rank query entries, P r := by
  rw [rank_eq_sort h]
  exact fun r hr => forall_matches hP entries r ((sort_perm _).mem_iff.1 hr)

theorem pairwise_rank (h : needleOf query ≠ []) (entries : List Entry) :
    (rank query entries).Pairwise NotBelow := by
  rw [rank_eq_sort h]
  exact pairwise_sort _

end Ranked

/-- A query that looks for something gives an entry with a hit the full score. It gives any other
the best of the points for the texts that have the needle as a subsequence, an even number up to 48,
and takes it in when the label has it so or a keyword earns points. In a ranking the entries with a
hit come first. -/
theorem entry_score_bands (h : needleOf query ≠ []) :
    (∀ e : Entry, e.Hit query → Ranked.ofEntry query e = ⟨e, 100, true⟩)
      ∧ (∀ e : Entry, ¬ e.Hit query →
        (Ranked.ofEntry query e).score = (e.scatteredPoints query).max?.getD 0
          ∧ 2 ∣ (Ranked.ofEntry query e).score ∧ (Ranked.ofEntry query e).score ≤ 48
          ∧ ((Ranked.ofEntry query e).isMatch = true
            ↔ (needleOf query).Sublist e.label.lower
              ∨ ∃ k ∈ e.keywords, ∃ g, gaps? (needleOf query) k.lower = some g
                ∧ 0 < 50 - 2 * g))
      ∧ (∀ t : Text, (∃ g, gaps? (needleOf query) t = some g) ↔ (needleOf query).Sublist t)
      ∧ ∀ entries : List Entry,
        (rank query entries).Pairwise fun r s => s.entry.Hit query → r.entry.Hit query := by
  refine ⟨fun e => Ranked.ofEntry_of_hit h, fun e hmiss => ?_, fun t => ?_, fun entries => ?_⟩
  · obtain ⟨heven, hle⟩ := Ranked.score_of_no_hit h hmiss
    exact ⟨Ranked.score_eq_max h hmiss, heven, hle, Ranked.isMatch_of_no_hit h hmiss⟩
  · rw [← gaps?_isSome_iff, Option.isSome_iff_exists]
  · have hfull := Ranked.forall_rank (P := fun r => r.score = 100 ↔ r.entry.Hit query) h
      (fun _ => Ranked.score_eq_hundred_iff h) entries
    have hmax := Ranked.forall_rank (P := (·.score ≤ 100)) h (Ranked.score_le query) entries
    refine (Ranked.pairwise_rank h entries).imp_of_mem fun {r s} hr hs hrs hhit => ?_
    have hle : s.score ≤ r.score := hrs
    rw [(hfull s hs).2 hhit] at hle
    exact (hfull r hr).1 (Nat.le_antisymm (hmax r hr) hle)

/-- An entry that has `ts` scattered in its label and in its keyword. -/
def sizeEntry : Entry :=
  ⟨['s', 'z'], ['T', 'e', 'x', 't', ' ', 's', 'i', 'z', 'e'], [], defaultSymbol,
    [['t', 'i', 'p', 's']], false, false⟩

theorem entry_score_bands_of_scattered_first :
    needleOf ['t', 'S'] ≠ [] ∧ pointsEntry.Hit ['t', 'S'] ∧ ¬ sizeEntry.Hit ['t', 'S']
      ∧ sizeEntry.scatteredPoints ['t', 'S'] = [42, 46]
      ∧ (Ranked.ofEntry ['t', 'S'] sizeEntry).score = 46
      ∧ (Ranked.ofEntry ['t', 'S'] sizeEntry).isMatch = true
      ∧ Ranked.ofEntry ['t', 'S'] pointsEntry = ⟨pointsEntry, 100, true⟩
      ∧ (rank ['t', 'S'] [sizeEntry, pointsEntry]).Pairwise fun r s =>
        s.entry.Hit ['t', 'S'] → r.entry.Hit ['t', 'S'] := by
  have hne : needleOf ['t', 'S'] ≠ [] := by decide
  have hmiss : ¬ sizeEntry.Hit ['t', 'S'] := by decide
  have hpoints : sizeEntry.scatteredPoints ['t', 'S'] = [42, 46] := by decide
  obtain ⟨hhit, hno, -, hrank⟩ := entry_score_bands hne
  obtain ⟨hscore, -, -, hmatch⟩ := hno sizeEntry hmiss
  refine ⟨hne, by decide, hmiss, hpoints, ?_, hmatch.2 (.inl (by decide)),
    hhit pointsEntry (by decide), hrank [sizeEntry, pointsEntry]⟩
  rw [hscore, hpoints]
  rfl

end ExerciseSheet

import ExerciseSheet.Proofs.Hits
import Mathlib.Data.List.Sort

/-!
# The order of a ranking

A ranking runs from the best score down, and entries with one score keep their order in the catalog
(`filter_sort`). Entries with a hit on the label and entries with a hit on a keyword only have the
same score, so the hits on labels come first exactly when the catalog lists no hit on a keyword
before one on a label (`labelHits_first_iff`).
-/

namespace ExerciseSheet

namespace Ranked

/-- The second scores no more than the first. -/
def NotBelow (r s : Ranked) : Prop := s.score ≤ r.score

instance : DecidableRel NotBelow := fun r s => inferInstanceAs (Decidable (s.score ≤ r.score))

instance : Std.Total NotBelow := ⟨fun r s => Nat.le_total s.score r.score⟩

instance : IsTrans Ranked NotBelow := ⟨fun _ _ _ hr hs => Nat.le_trans hs hr⟩

theorem insert_eq_orderedInsert (r : Ranked) :
    ∀ rs : List Ranked, r.insert rs = rs.orderedInsert NotBelow r
  | [] => rfl
  | s :: rs => by
    rw [insert, List.orderedInsert_cons, insert_eq_orderedInsert r rs]
    rfl

theorem sort_eq_insertionSort : ∀ rs : List Ranked, sort rs = rs.insertionSort NotBelow
  | [] => rfl
  | r :: rs => by
    rw [List.insertionSort_cons, ← sort_eq_insertionSort rs, ← insert_eq_orderedInsert]
    rfl

theorem sort_perm (rs : List Ranked) : (sort rs).Perm rs := by
  rw [sort_eq_insertionSort]
  exact List.perm_insertionSort NotBelow rs

theorem pairwise_sort (rs : List Ranked) : (sort rs).Pairwise NotBelow := by
  rw [sort_eq_insertionSort]
  exact List.pairwise_insertionSort NotBelow rs

/-- Entries with one score keep their order. -/
theorem filter_sort (rs : List Ranked) (n : Nat) :
    (sort rs).filter (·.score = n) = rs.filter (·.score = n) := by
  -- one score class is in order already, so a stable sort keeps it as a sublist
  have hequal : (rs.filter (·.score = n)).Pairwise NotBelow := by
    refine List.pairwise_iff_forall_sublist.2 fun {r s} hsub => ?_
    have hr : r.score = n := by simpa using (List.mem_filter.1 (hsub.subset (by simp))).2
    have hs : s.score = n := by simpa using (List.mem_filter.1 (hsub.subset (by simp))).2
    exact Nat.le_of_eq (hs.trans hr.symm)
  have hsub : (rs.filter (·.score = n)).Sublist (sort rs) := by
    rw [sort_eq_insertionSort]
    exact List.sublist_insertionSort hequal List.filter_sublist
  have hfilter := hsub.filter (·.score = n)
  rw [List.filter_filter] at hfilter
  simp only [Bool.and_self] at hfilter
  exact (hfilter.eq_of_length ((sort_perm rs).symm.filter _).length_eq).symm

/-- Where a relation asks something only of entries with the best score, it holds along a sorted
list as soon as it holds along those entries in their old order. -/
theorem pairwise_sort_iff {rs : List Ranked} {n : Nat} {R : Ranked → Ranked → Prop}
    (hmax : ∀ r ∈ rs, r.score ≤ n) (hR : ∀ r, ∀ s ∈ rs, s.score ≠ n → R r s) :
    (sort rs).Pairwise R ↔ rs.Pairwise fun r s => r.score = n → s.score = n → R r s := by
  have hold : rs.Pairwise (fun r s => r.score = n → s.score = n → R r s)
      ↔ ((sort rs).filter (·.score = n)).Pairwise R := by
    rw [filter_sort, List.pairwise_filter]
    simp only [decide_eq_true_eq]
  rw [hold]
  constructor
  · exact fun h => h.filter _
  · rw [List.pairwise_filter]
    intro h
    refine ((pairwise_sort rs).and h).imp_of_mem fun {r s} hr hs hrs => ?_
    by_cases hscore : s.score = n
    · have hle : r.score ≤ n := hmax r ((sort_perm rs).mem_iff.1 hr)
      have hge : n ≤ r.score := hscore ▸ hrs.1
      exact hrs.2 (by simpa using Nat.le_antisymm hle hge) (by simpa using hscore)
    · exact hR r s ((sort_perm rs).mem_iff.1 hs) hscore

theorem map_entry_sort_perm (query : Text) (entries : List Entry) :
    ((sort ((entries.map (ofEntry query)).filter (·.isMatch))).map (·.entry)).Perm
      (entries.filter fun e => (ofEntry query e).isMatch) := by
  refine ((sort_perm _).map _).trans (.of_eq ?_)
  rw [List.filter_map, List.map_map]
  exact List.map_id _

theorem forall_matches {query : Text} {P : Ranked → Prop} (h : ∀ e, P (ofEntry query e))
    (entries : List Entry) :
    ∀ r ∈ (entries.map (ofEntry query)).filter (·.isMatch), P r := by
  intro r hr
  obtain ⟨e, -, rfl⟩ := List.mem_map.1 (List.mem_filter.1 hr).1
  exact h e

end Ranked

/-- For a query that looks for something, the hits on labels come first in the ranking exactly when
no entry with a hit on a keyword only is listed before one with a hit on its label. -/
theorem labelHits_first_iff (query : Text) (catalog : Catalog) (h : query.trim ≠ []) :
    ((rank query catalog.entries).Pairwise fun r s =>
        s.entry.LabelHit query → r.entry.LabelHit query)
      ↔ catalog.entries.Pairwise fun e f =>
        f.LabelHit query → e.KeywordHit query → e.LabelHit query := by
  by_cases hneedle : needleOf query = []
  · -- nothing is looked for, so every label is hit
    have hall : ∀ e : Entry, e.LabelHit query := fun e => by
      rw [Entry.LabelHit, hneedle]
      exact List.nil_infix
    exact iff_of_true (List.pairwise_of_forall fun r _ _ => hall r.entry)
      (List.pairwise_of_forall fun e _ _ _ => hall e)
  · have hfull := fun e => Ranked.score_eq_hundred_iff (e := e) hneedle
    have hmatch : ∀ e, (Ranked.ofEntry query e).score = 100 →
        (Ranked.ofEntry query e).isMatch = true :=
      fun e he => Ranked.isMatch_of_score (by omega)
    have hmax := Ranked.forall_matches (P := (·.score ≤ 100)) (Ranked.score_le query)
      catalog.entries
    have hmiss := fun r : Ranked => Ranked.forall_matches
      (P := fun s => s.score ≠ 100 → s.entry.LabelHit query → r.entry.LabelHit query)
      (fun f hscore hf => absurd ((hfull f).2 (.inl hf)) hscore) catalog.entries
    rw [rank, if_neg (by simpa using h), Ranked.pairwise_sort_iff hmax hmiss,
      List.pairwise_filter, List.pairwise_map]
    refine List.Pairwise.iff fun e f => ?_
    rw [hfull, hfull]
    constructor
    · intro hrank hf he
      exact hrank (hmatch e ((hfull e).2 (.inr he))) (hmatch f ((hfull f).2 (.inl hf))) (.inr he)
        (.inl hf) hf
    · rintro hlist - - (he | he) - hf
      · exact he
      · exact hlist hf he

/-- An entry that a query finds by its label. -/
def scoreEntry : Entry :=
  ⟨['s', 'c'], ['S', 'c', 'o', 'r', 'e'], [], defaultSymbol, [], false, false⟩

/-- An entry that the same query finds by a keyword only. -/
def pointsEntry : Entry :=
  ⟨['p', 't'], ['P', 'o', 'i', 'n', 't', 's'], [], defaultSymbol, [['s', 'c', 'o', 'r', 'e']],
    false, false⟩

theorem labelHits_first_of_listed_first :
    Text.trim ['S', 'c', 'o'] ≠ []
      ∧ (rank ['S', 'c', 'o'] [scoreEntry, pointsEntry]).Pairwise fun r s =>
        s.entry.LabelHit ['S', 'c', 'o'] → r.entry.LabelHit ['S', 'c', 'o'] :=
  ⟨by decide, (labelHits_first_iff ['S', 'c', 'o']
    ⟨[scoreEntry, pointsEntry], by decide, by decide⟩ (by decide)).2 (by decide)⟩

/-- A hit on a keyword comes before a hit on a label when its entry is listed first. -/
theorem keywordHit_first_of_listed_first :
    (rank ['S', 'c', 'o'] [pointsEntry, scoreEntry]).map (·.entry) = [pointsEntry, scoreEntry]
      ∧ ¬ (rank ['S', 'c', 'o'] [pointsEntry, scoreEntry]).Pairwise fun r s =>
        s.entry.LabelHit ['S', 'c', 'o'] → r.entry.LabelHit ['S', 'c', 'o'] := by
  decide

end ExerciseSheet

import ExerciseSheet.Proofs.Needle
import ExerciseSheet.Proofs.RankOrder

/-!
# A ranking is a stable sort of the matches

A query that looks for nothing gives every entry no points and takes it in, so the list of all
entries is what scoring, filtering and sorting make of them as well (`rank_eq_sort_matches`). In a
sorted list one entry stands before another when it has the better score, or the same one and stood
before it already (`pair_sublist_sort_iff`); with what the matches are, this settles the whole
ranking (`rank_lists_matches`).
-/

namespace ExerciseSheet

variable {query : Text} {e : Entry}

namespace Ranked

variable {r s : Ranked} {rs : List Ranked} {entries : List Entry}

theorem sort_of_pairwise (h : rs.Pairwise NotBelow) : sort rs = rs := by
  rw [sort_eq_insertionSort, h.insertionSort_eq]

theorem mem_sort : r ∈ sort rs ↔ r ∈ rs := (sort_perm rs).mem_iff

/-- What scores less comes later. -/
theorem pair_sublist_sort_of_lt (hr : r ∈ rs) (hs : s ∈ rs) (h : s.score < r.score) :
    [r, s].Sublist (sort rs) := by
  obtain ⟨before, after, hsplit⟩ := List.append_of_mem (mem_sort.2 hr)
  have hsorted := pairwise_sort rs
  have hmem := mem_sort.2 hs
  rw [hsplit] at hsorted hmem ⊢
  rcases List.mem_append.1 hmem with hbefore | hafter
  · have hle : r.score ≤ s.score := (List.pairwise_append.1 hsorted).2.2 s hbefore r (by simp)
    omega
  · rcases List.mem_cons.1 hafter with rfl | hafter
    · omega
    · exact ((List.singleton_sublist.2 hafter).cons_cons r).trans (List.sublist_append_right _ _)

theorem pair_sublist_filter_iff (hr : r.score = s.score) :
    [r, s].Sublist (rs.filter (·.score = s.score)) ↔ [r, s].Sublist rs := by
  refine ⟨fun h => h.trans List.filter_sublist, fun h => ?_⟩
  have hfilter := h.filter (·.score = s.score)
  rwa [List.filter_cons_of_pos (by simpa using hr), List.filter_cons_of_pos (by simp)] at hfilter

/-- Sorting puts the better score first and keeps the order of equal ones. -/
theorem pair_sublist_sort_iff : [r, s].Sublist (sort rs)
    ↔ r ∈ rs ∧ s ∈ rs ∧ (s.score < r.score ∨ r.score = s.score ∧ [r, s].Sublist rs) := by
  constructor
  · intro h
    have hle : s.score ≤ r.score := List.pairwise_iff_forall_sublist.1 (pairwise_sort rs) h
    refine ⟨mem_sort.1 (h.subset (by simp)), mem_sort.1 (h.subset (by simp)), ?_⟩
    rcases Nat.lt_or_eq_of_le hle with hlt | heq
    · exact .inl hlt
    · refine .inr ⟨heq.symm, ?_⟩
      -- among the entries of one score sorting changes nothing
      rwa [← pair_sublist_filter_iff heq.symm, ← filter_sort, pair_sublist_filter_iff heq.symm]
  · rintro ⟨hr, hs, hlt | ⟨heq, h⟩⟩
    · exact pair_sublist_sort_of_lt hr hs hlt
    · rwa [← pair_sublist_filter_iff heq, filter_sort, pair_sublist_filter_iff heq]

theorem eq_ofEntry_of_mem
    (h : r ∈ (entries.map (ofEntry query)).filter (·.isMatch)) : r = ofEntry query r.entry := by
  obtain ⟨e, -, rfl⟩ := List.mem_map.1 (List.mem_filter.1 h).1
  rfl

/-- Matches stand in the order of their entries. -/
theorem pair_sublist_matches_iff
    (hr : r ∈ (entries.map (ofEntry query)).filter (·.isMatch))
    (hs : s ∈ (entries.map (ofEntry query)).filter (·.isMatch)) :
    [r, s].Sublist ((entries.map (ofEntry query)).filter (·.isMatch))
      ↔ [r.entry, s.entry].Sublist entries := by
  constructor
  · intro h
    have hentries := (h.trans List.filter_sublist).map (·.entry)
    rw [List.map_map] at hentries
    rwa [show (fun r => r.entry) ∘ ofEntry query = id from rfl, List.map_id] at hentries
  · intro h
    have hscored := (h.map (ofEntry query)).filter (·.isMatch)
    rwa [List.map_cons, List.map_singleton, ← eq_ofEntry_of_mem hr, ← eq_ofEntry_of_mem hs,
      List.filter_cons_of_pos (List.mem_filter.1 hr).2,
      List.filter_cons_of_pos (List.mem_filter.1 hs).2] at hscored

theorem ofEntry_of_blank (h : needleOf query = []) : ofEntry query e = ⟨e, 0, true⟩ := by
  have hnone : ∀ t ks, Score.of query t ks = ⟨true, 0⟩ := fun t ks => by
    rw [Score.of, h]
    rfl
  have hbest : bestKeyword query e.keywords = 0 := by
    rcases le_bestKeyword_iff.1 (Nat.le_refl (bestKeyword query e.keywords)) with
      hzero | ⟨k, -, hle⟩
    · exact hzero
    · rw [hnone] at hle
      exact Nat.le_zero.1 hle
  rw [ofEntry, hnone, hbest]
  rfl

end Ranked

/-- Listing all entries for a blank query is what scoring, filtering and sorting come to. -/
theorem rank_eq_sort_matches (query : Text) (entries : List Entry) :
    rank query entries
      = Ranked.sort ((entries.map (Ranked.ofEntry query)).filter (·.isMatch)) := by
  by_cases h : needleOf query = []
  · have hblank : query.trim = [] := trim_eq_nil_iff.2 (needleOf_eq_nil_iff.1 h)
    have hscored : entries.map (Ranked.ofEntry query) = entries.map fun e => ⟨e, 0, true⟩ :=
      List.map_congr_left fun e _ => Ranked.ofEntry_of_blank h
    have hall : (entries.map fun e => (⟨e, 0, true⟩ : Ranked)).filter (·.isMatch)
        = entries.map fun e => ⟨e, 0, true⟩ := by
      rw [List.filter_eq_self]
      simp
    rw [rank, if_pos (by simpa using hblank), hscored, hall, Ranked.sort_of_pairwise]
    rw [List.pairwise_map]
    exact List.pairwise_of_forall fun _ _ => Nat.le_refl 0
  · exact rank_eq_sort h entries

/-- A ranking holds every entry of the catalog that the query matches once, with its score, and
nothing else. An entry stands before another exactly when its score is better, or the same and the
catalog lists it first. A blank query is no exception. -/
theorem rank_lists_matches (query : Text) (catalog : Catalog) :
    rank query catalog.entries
        = Ranked.sort ((catalog.entries.map (Ranked.ofEntry query)).filter (·.isMatch))
      ∧ (∀ e, ((rank query catalog.entries).map (·.entry)).count e
        = if e ∈ catalog.entries ∧ (Ranked.ofEntry query e).isMatch = true then 1 else 0)
      ∧ (∀ r ∈ rank query catalog.entries, r = Ranked.ofEntry query r.entry)
      ∧ ∀ r s, [r, s].Sublist (rank query catalog.entries)
        ↔ r ∈ rank query catalog.entries ∧ s ∈ rank query catalog.entries
          ∧ (s.score < r.score
            ∨ r.score = s.score ∧ [r.entry, s.entry].Sublist catalog.entries) := by
  rw [rank_eq_sort_matches]
  refine ⟨rfl, fun e => ?_, fun r hr => Ranked.eq_ofEntry_of_mem (Ranked.mem_sort.1 hr),
    fun r s => ?_⟩
  · have hnodup := (List.Nodup.of_map _ catalog.nodup_ids).filter
      fun e => (Ranked.ofEntry query e).isMatch
    rw [(Ranked.map_entry_sort_perm query catalog.entries).count_eq, hnodup.count]
    simp only [List.mem_filter]
  · rw [Ranked.pair_sublist_sort_iff, Ranked.mem_sort, Ranked.mem_sort]
    refine and_congr_right fun hr => and_congr_right fun hs => or_congr_right ?_
    rw [Ranked.pair_sublist_matches_iff hr hs]

end ExerciseSheet

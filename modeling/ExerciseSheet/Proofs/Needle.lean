import ExerciseSheet.Proofs.Caseless
import ExerciseSheet.Proofs.Trimming
import ExerciseSheet.Ranking

/-!
# What a query looks for

A text is trimmed to nothing exactly when it is blank (`trim_eq_nil_iff`), and no blank has a
capital or a small letter. So a query looks for nothing exactly when it is blank
(`needleOf_eq_nil_iff`).
-/

namespace ExerciseSheet

theorem all_isBlank_lowerAt (before : Text) (c : Char) (after : Text) :
    (lowerAt before c after).all isBlank = isBlank c := by
  unfold lowerAt
  split_ifs with hdot hsigma hfinal
  · have hc : c = Char.ofNat 0x130 := by rw [← Char.ofNat_toNat c, beq_iff_eq.1 hdot]
    rw [hc]
    decide
  · rw [hsigma]
    decide
  · rw [hsigma]
    decide
  · rw [List.all_cons, List.all_nil, Bool.and_true, isBlank_smallLetter]

theorem isAllBlank_lowerAfter : ∀ {before t : Text},
    (Text.lowerAfter before t).isAllBlank = t.isAllBlank
  | _, [] => rfl
  | before, c :: t => by
    have ih : (Text.lowerAfter (c :: before) t).all isBlank = t.all isBlank :=
      isAllBlank_lowerAfter
    rw [Text.lowerAfter, Text.isAllBlank, List.all_append, all_isBlank_lowerAt, ih]
    rfl

theorem needleOf_eq_nil_iff {query : Text} : needleOf query = [] ↔ query.isAllBlank = true := by
  rw [needleOf, trim_eq_nil_iff, Text.lower, isAllBlank_lowerAfter]

theorem trim_ne_nil_of_needleOf {query : Text} (h : needleOf query ≠ []) : query.trim ≠ [] := by
  rwa [Ne, trim_eq_nil_iff, ← needleOf_eq_nil_iff]

theorem rank_eq_sort {query : Text} (h : needleOf query ≠ []) (entries : List Entry) :
    rank query entries
      = Ranked.sort ((entries.map (Ranked.ofEntry query)).filter (·.isMatch)) :=
  if_neg (by simpa using trim_ne_nil_of_needleOf h)

end ExerciseSheet

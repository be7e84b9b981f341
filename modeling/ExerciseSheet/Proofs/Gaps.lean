import ExerciseSheet.Ranking
import Mathlib.Data.List.Basic

/-!
# Spelling a needle from a text

Taking each character as early as possible misses no way to spell a needle: it is spelled exactly
when it is a subsequence of the text (`gaps?_isSome_iff`). Nothing is skipped only where the needle
stands in the text as it is (`infix_of_gaps?_eq_zero`), and the start of a needle skips no more than
the whole of it does (`exists_gaps?_le`).
-/

namespace ExerciseSheet

variable {begun : Bool} {needle longer text : Text} {c n : Char} {ns cs : Text} {g : Nat}

theorem gapsAfter?_taken : gapsAfter? begun (c :: ns) (c :: cs) = gapsAfter? true ns cs :=
  if_pos rfl

/-- A character that is passed over counts once the first one has been taken. -/
theorem gapsAfter?_skipped (h : n ≠ c) :
    gapsAfter? begun (n :: ns) (c :: cs)
      = (gapsAfter? begun (n :: ns) cs).map (· + begun.toNat) := by
  rw [gapsAfter?, if_neg h]
  cases begun <;> rfl

theorem gapsAfter?_isSome_iff : ∀ {begun : Bool} {needle text : Text},
    (gapsAfter? begun needle text).isSome = true ↔ needle.Sublist text
  | _, [], _ => by simp [gapsAfter?]
  | _, _ :: _, [] => by simp [gapsAfter?]
  | _, n :: ns, c :: cs => by
    by_cases h : n = c
    · subst h
      rw [gapsAfter?_taken, gapsAfter?_isSome_iff, List.cons_sublist_cons]
    · rw [gapsAfter?_skipped h, Option.isSome_map, gapsAfter?_isSome_iff, List.sublist_cons_iff]
      simp [h]

/-- A needle is spelled from a text exactly when it is a subsequence of it. -/
theorem gaps?_isSome_iff : (gaps? needle text).isSome = true ↔ needle.Sublist text :=
  gapsAfter?_isSome_iff

theorem prefix_of_gapsAfter?_eq_zero : ∀ {needle text : Text},
    gapsAfter? true needle text = some 0 → needle <+: text
  | [], _, _ => List.nil_prefix
  | _ :: _, [], h => by cases h
  | n :: ns, c :: cs, h => by
    by_cases hc : n = c
    · subst hc
      rw [gapsAfter?_taken] at h
      exact List.cons_prefix_cons.2 ⟨rfl, prefix_of_gapsAfter?_eq_zero h⟩
    · rw [gapsAfter?_skipped hc] at h
      obtain ⟨g, -, hg⟩ := Option.map_eq_some_iff.1 h
      cases hg

/-- A needle that is spelled without a gap stands in the text. -/
theorem infix_of_gaps?_eq_zero : ∀ {needle text : Text},
    gaps? needle text = some 0 → needle <:+: text
  | [], _, _ => List.nil_infix
  | _ :: _, [], h => by cases h
  | n :: ns, c :: cs, h => by
    rw [gaps?] at h
    by_cases hc : n = c
    · subst hc
      rw [gapsAfter?_taken] at h
      exact (List.cons_prefix_cons.2 ⟨rfl, prefix_of_gapsAfter?_eq_zero h⟩).isInfix
    · -- what stands before the first character taken is no gap
      rw [gapsAfter?_skipped hc] at h
      obtain ⟨g, hg, rfl⟩ := Option.map_eq_some_iff.1 h
      exact (infix_of_gaps?_eq_zero hg).trans (List.suffix_cons c cs).isInfix

theorem exists_gapsAfter?_le : ∀ {begun : Bool} {needle longer text : Text} {g : Nat},
    needle <+: longer → gapsAfter? begun longer text = some g →
    ∃ k, gapsAfter? begun needle text = some k ∧ k ≤ g
  | _, [], _, _, g, _, _ => ⟨0, by simp [gapsAfter?], Nat.zero_le g⟩
  | _, _ :: _, [], _, _, hpre, _ => absurd (List.prefix_nil.1 hpre) (List.cons_ne_nil _ _)
  | _, _ :: _, _ :: _, [], _, _, h => by cases h
  | _, n :: ns, m :: ms, c :: cs, g, hpre, h => by
    obtain ⟨rfl, hpre'⟩ := List.cons_prefix_cons.1 hpre
    by_cases hc : n = c
    · subst hc
      rw [gapsAfter?_taken] at h ⊢
      exact exists_gapsAfter?_le hpre' h
    · rw [gapsAfter?_skipped hc] at h ⊢
      obtain ⟨g, hg, rfl⟩ := Option.map_eq_some_iff.1 h
      obtain ⟨k, hk, hle⟩ := exists_gapsAfter?_le hpre hg
      exact ⟨_, by rw [hk]; rfl, Nat.add_le_add_right hle _⟩

/-- The start of a needle is spelled wherever the whole of it is, with no more gaps. -/
theorem exists_gaps?_le (hpre : needle <+: longer) (h : gaps? longer text = some g) :
    ∃ k, gaps? needle text = some k ∧ k ≤ g :=
  exists_gapsAfter?_le hpre h

end ExerciseSheet

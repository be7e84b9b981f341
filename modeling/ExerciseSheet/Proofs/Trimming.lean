import ExerciseSheet.Text.Blank
import Mathlib.Data.List.TakeWhile

/-!
# Trimming a text

Trimming takes nothing but blanks from the ends of a text (`exists_trim`), so it keeps every other
character (`count_trim`) and leaves nothing exactly of a blank text (`trim_eq_nil_iff`). Blanks
around a text make no difference to it (`trim_blank_append`, `trim_append_blank`).
-/

namespace ExerciseSheet

variable {c : Char} {t before after : Text}

theorem exists_trim (t : Text) : ∃ lead tail, t = lead ++ t.trim ++ tail
    ∧ (∀ c ∈ lead, isBlank c = true) ∧ ∀ c ∈ tail, isBlank c = true := by
  refine ⟨t.takeWhile isBlank, (t.trimLeft.reverse.takeWhile isBlank).reverse, ?_, ?_, ?_⟩
  · have hright : t.trim ++ (t.trimLeft.reverse.takeWhile isBlank).reverse = t.trimLeft := by
      rw [Text.trim, Text.trimRight, ← List.reverse_append, List.takeWhile_append_dropWhile,
        List.reverse_reverse]
    rw [List.append_assoc, hright, Text.trimLeft, List.takeWhile_append_dropWhile]
  · exact fun c hc => List.mem_takeWhile_imp hc
  · exact fun c hc => List.mem_takeWhile_imp (List.mem_reverse.1 hc)

theorem trim_infix_self (t : Text) : t.trim <:+: t := by
  obtain ⟨lead, tail, h, -, -⟩ := exists_trim t
  exact ⟨lead, tail, h.symm⟩

theorem count_eq_zero_of_blanks (ht : ∀ d ∈ t, isBlank d = true) (hc : isBlank c = false) :
    List.count c t = 0 := by
  rw [List.count_eq_zero]
  intro hmem
  rw [ht c hmem] at hc
  cases hc

theorem count_trim (hc : isBlank c = false) (t : Text) :
    List.count c t.trim = List.count c t := by
  obtain ⟨lead, tail, h, hlead, htail⟩ := exists_trim t
  have hcount := congrArg (List.count c) h
  rw [List.count_append, List.count_append, count_eq_zero_of_blanks hlead hc,
    count_eq_zero_of_blanks htail hc] at hcount
  omega

theorem trim_eq_nil_iff : t.trim = [] ↔ t.isAllBlank = true := by
  rw [Text.isAllBlank, List.all_eq_true]
  constructor
  · intro hnil
    obtain ⟨lead, tail, h, hlead, htail⟩ := exists_trim t
    rw [hnil, List.append_nil] at h
    rw [h]
    exact List.forall_mem_append.2 ⟨hlead, htail⟩
  · intro hblank
    rw [Text.trim, Text.trimLeft, List.dropWhile_eq_nil_iff.2 hblank]
    rfl

theorem trim_blank_append (h : ∀ c ∈ before, isBlank c = true) (t : Text) :
    Text.trim (before ++ t) = t.trim := by
  rw [Text.trim, Text.trimLeft, List.dropWhile_append_of_pos h, Text.trim, Text.trimLeft]

theorem trimRight_append_blank (h : ∀ c ∈ after, isBlank c = true) (t : Text) :
    Text.trimRight (t ++ after) = t.trimRight := by
  have hreverse : ∀ c ∈ after.reverse, isBlank c = true := fun c hc => h c (List.mem_reverse.1 hc)
  rw [Text.trimRight, List.reverse_append, List.dropWhile_append_of_pos hreverse, Text.trimRight]

theorem trim_append_blank (h : ∀ c ∈ after, isBlank c = true) (t : Text) :
    Text.trim (t ++ after) = t.trim := by
  rw [Text.trim, Text.trimLeft, List.dropWhile_append]
  split_ifs with hblank
  · rw [Text.trim, Text.trimLeft, List.isEmpty_iff.1 hblank, List.dropWhile_eq_nil_iff.2 h]
  · exact trimRight_append_blank h _

end ExerciseSheet

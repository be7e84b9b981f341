import ExerciseSheet.Text.Blank
import Mathlib.Data.List.Basic
import Mathlib.Order.Bounds.Defs

/-!
# Occurrences in a text

A search finds a text exactly where it occurs (`cutAt?_eq_some`, `cutAt?_eq_none_iff`), and where it
begins first (`find?_eq_some_iff`), so a text has what is an infix of it (`has_iff`). Two blanks in
a row are such an infix (`hasBlankRun_iff`).
-/

namespace ExerciseSheet

variable {pat t : Text} {c : Char} {i : Nat}

theorem cutAt?_eq_some : ∀ {t head tail : Text}, Text.cutAt? pat t = some (head, tail) →
    t = head ++ pat ++ tail
  | [], head, tail, h => by
    unfold Text.cutAt? at h
    split_ifs at h with hp
    rw [Option.some.injEq, Prod.mk.injEq] at h
    obtain ⟨rfl, rfl⟩ := h
    simpa using hp
  | c :: t, head, tail, h => by
    unfold Text.cutAt? at h
    split_ifs at h with hp
    · rw [Option.some.injEq, Prod.mk.injEq] at h
      obtain ⟨rfl, rfl⟩ := h
      obtain ⟨r, hr⟩ := List.isPrefixOf_iff_prefix.1 hp
      rw [← hr, List.drop_left' rfl, List.nil_append]
    · obtain ⟨⟨head', tail'⟩, hcut, heq⟩ := Option.map_eq_some_iff.1 h
      rw [Prod.mk.injEq] at heq
      obtain ⟨rfl, rfl⟩ := heq
      rw [cutAt?_eq_some hcut]
      rfl

theorem cutAt?_eq_none_iff : ∀ {t : Text}, Text.cutAt? pat t = none ↔ ¬ pat <:+: t
  | [] => by
    unfold Text.cutAt?
    split_ifs with hp <;> simpa using hp
  | c :: t => by
    unfold Text.cutAt?
    rw [List.infix_cons_iff, ← List.isPrefixOf_iff_prefix]
    split_ifs with hp
    · simp [hp]
    · rw [Option.map_eq_none_iff, cutAt?_eq_none_iff]
      simp [hp]

theorem find?_eq_none_iff : Text.find? pat t = none ↔ ¬ pat <:+: t := by
  rw [Text.find?, Option.map_eq_none_iff, cutAt?_eq_none_iff]

theorem find?_add_length_le (h : Text.find? pat t = some i) :
    i + pat.length ≤ t.length := by
  obtain ⟨⟨head, tail⟩, hcut, rfl⟩ := Option.map_eq_some_iff.1 h
  rw [cutAt?_eq_some hcut, List.length_append, List.length_append]
  exact Nat.le_add_right _ _

theorem find?_cons : Text.find? pat (c :: t)
    = if pat.isPrefixOf (c :: t) then some 0 else (Text.find? pat t).map (· + 1) := by
  rw [Text.find?, Text.cutAt?]
  split_ifs
  · rfl
  · rw [Text.find?, Option.map_map, Option.map_map]
    rfl

theorem isLeast_zero_iff {offsets : Set Nat} (h : 0 ∈ offsets) : IsLeast offsets i ↔ i = 0 :=
  ⟨fun hi => Nat.le_zero.1 (hi.2 h), fun hi => hi ▸ ⟨h, fun _ _ => Nat.zero_le _⟩⟩

theorem isLeast_succ_iff {offsets : Set Nat} (h : 0 ∉ offsets) :
    IsLeast offsets (i + 1) ↔ IsLeast {j | j + 1 ∈ offsets} i := by
  refine and_congr_right fun _ => ⟨fun hle j hj => Nat.le_of_succ_le_succ (hle hj), ?_⟩
  rintro hle (_ | j) hj
  · exact absurd hj h
  · exact Nat.succ_le_succ (hle hj)

/-- A search finds the least offset at which its text begins. -/
theorem find?_eq_some_iff : ∀ {t : Text} {i : Nat},
    Text.find? pat t = some i ↔ IsLeast {j | pat <+: t.drop j} i
  | [], i => by
    by_cases hpat : pat = []
    · have hzero : 0 ∈ {j | pat <+: ([] : Text).drop j} := by
        rw [hpat]
        exact List.nil_prefix
      rw [isLeast_zero_iff hzero]
      simp [hpat, Text.find?, Text.cutAt?, eq_comm]
    · have hnone : Text.find? pat [] = none := find?_eq_none_iff.2 (by simpa using hpat)
      have hno : ∀ j, ¬ pat <+: ([] : Text).drop j := by simpa using hpat
      rw [hnone]
      exact iff_of_false (by simp) fun hi => hno i hi.1
  | c :: t, i => by
    rw [find?_cons]
    split_ifs with hp
    · rw [isLeast_zero_iff (List.isPrefixOf_iff_prefix.1 hp), Option.some.injEq, eq_comm]
    · have hzero : 0 ∉ {j | pat <+: (c :: t).drop j} := mt List.isPrefixOf_iff_prefix.2 hp
      rcases i with _ | i
      · exact iff_of_false (by simp) fun hi => hzero hi.1
      · rw [isLeast_succ_iff hzero, Option.map_eq_some_iff]
        simp only [Nat.add_right_cancel_iff, exists_eq_right]
        exact find?_eq_some_iff

theorem exists_find?_le (h : pat <+: t.drop i) : ∃ k ≤ i, Text.find? pat t = some k := by
  rcases hfind : Text.find? pat t with _ | k
  · exact absurd (h.isInfix.trans (List.drop_suffix i t).isInfix) (find?_eq_none_iff.1 hfind)
  · exact ⟨k, (find?_eq_some_iff.1 hfind).2 h, rfl⟩

theorem has_iff : Text.has pat t = true ↔ pat <:+: t := by
  rw [Text.has, Option.isSome_iff_ne_none, ne_eq, find?_eq_none_iff, not_not]

theorem hasBlankRun_iff : ∀ {t : Text},
    t.hasBlankRun = true ↔ ∃ x y, [x, y] <:+: t ∧ isBlank x = true ∧ isBlank y = true
  | [] => by simp [Text.hasBlankRun]
  | [c] => by
    simp only [Text.hasBlankRun, Bool.false_eq_true, false_iff]
    rintro ⟨x, y, h, -⟩
    simpa using h.length_le
  | c :: d :: t => by
    have hcons : ∀ x y, [x, y] <:+: c :: d :: t ↔ (x = c ∧ y = d) ∨ [x, y] <:+: d :: t := by
      intro x y
      rw [List.infix_cons_iff, List.cons_prefix_cons, List.cons_prefix_cons]
      simp only [List.nil_prefix, and_true]
    simp only [Text.hasBlankRun, Bool.or_eq_true, Bool.and_eq_true, hasBlankRun_iff, hcons]
    constructor
    · rintro (⟨hc, hd⟩ | ⟨x, y, h, hx, hy⟩)
      · exact ⟨c, d, .inl ⟨rfl, rfl⟩, hc, hd⟩
      · exact ⟨x, y, .inr h, hx, hy⟩
    · rintro ⟨x, y, ⟨rfl, rfl⟩ | h, hx, hy⟩
      · exact .inl ⟨hx, hy⟩
      · exact .inr ⟨x, y, h, hx, hy⟩

end ExerciseSheet

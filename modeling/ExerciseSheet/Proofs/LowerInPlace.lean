import ExerciseSheet.Text.Lowercase
import Mathlib.Data.List.Basic
import Mathlib.Data.List.Forall2
import Mathlib.Data.List.TakeWhile
import Mathlib.Tactic.SplitIfs

/-!
# Lower-casing a stretch in its place

Of all characters only the capital sigma looks at what stands around it. So a stretch of a text is
lower-cased in its place as it is alone exactly when its capital sigmas read alike in both
(`readsAlike_iff`). What stands around a stretch can make a sigma final or keep it from being so;
a letter before the stretch and a letter behind it are the worst of it (`readsAlike_everywhere`).
-/

namespace ExerciseSheet

variable {before before' t after after' l l' : Text} {R : Char → Char → Prop}

/-- Whether a capital sigma ends a word between the text `before`, given from its end, and the text
`after`. -/
def endsWord (before after : Text) : Bool := meetsCased before && !meetsCased after

/-- The small form of a capital sigma in its place. -/
def smallSigma (before after : Text) : Char := if endsWord before after then 'ς' else 'σ'

theorem lowerAt_sigma (before after : Text) :
    lowerAt before 'Σ' after = [smallSigma before after] := rfl

theorem lowerAt_of_ne {c : Char} (h : c ≠ 'Σ') :
    lowerAt before c after = lowerAt before' c after' := by
  unfold lowerAt
  simp only [h, if_false]

/-- The small form of `t`, which stands between the text `before`, given from its end, and the text
`after`. -/
def Text.lowerBetween (before : Text) : (t after : Text) → Text
  | [], _ => []
  | c :: t, after => lowerAt before c (t ++ after) ++ lowerBetween (c :: before) t after

open Text

theorem lowerAfter_append : ∀ {before t after : Text}, lowerAfter before (t ++ after)
    = lowerBetween before t after ++ lowerAfter (t.reverse ++ before) after
  | _, [], _ => rfl
  | before, c :: t, after => by
    rw [List.cons_append, lowerAfter, lowerAfter_append, lowerBetween, List.append_assoc,
      List.reverse_cons, List.append_assoc, List.singleton_append]

theorem lower_eq_lowerBetween (t : Text) : t.lower = lowerBetween [] t [] := by
  have h : lowerAfter [] (t ++ []) = lowerBetween [] t [] ++ lowerAfter (t.reverse ++ []) [] :=
    lowerAfter_append
  rwa [List.append_nil, lowerAfter, List.append_nil] at h

theorem lower_append_append (before t after : Text) :
    (before ++ t ++ after).lower = lowerBetween [] before (t ++ after)
      ++ lowerBetween before.reverse t after
      ++ lowerAfter (t.reverse ++ before.reverse) after := by
  rw [lower, List.append_assoc, lowerAfter_append, List.append_nil, lowerAfter_append,
    List.append_assoc]

theorem lowerBetween_append : ∀ {before t u after : Text}, lowerBetween before (t ++ u) after
    = lowerBetween before t (u ++ after) ++ lowerBetween (t.reverse ++ before) u after
  | _, [], _, _ => rfl
  | before, c :: t, u, after => by
    rw [List.cons_append, lowerBetween, lowerBetween_append, lowerBetween, List.append_assoc,
      List.append_assoc, List.reverse_cons, List.append_assoc, List.singleton_append]

/-- Two places of one stretch differ in its capital sigmas only. -/
theorem forall₂_lowerBetween (hrefl : ∀ c, R c c) : ∀ {before before' t : Text},
    (∀ u v, t = u ++ 'Σ' :: v → R (smallSigma (u.reverse ++ before) (v ++ after))
      (smallSigma (u.reverse ++ before') (v ++ after'))) →
    List.Forall₂ R (lowerBetween before t after) (lowerBetween before' t after')
  | _, _, [], _ => .nil
  | before, before', c :: t, h => by
    refine List.rel_append ?_ (forall₂_lowerBetween hrefl fun u v huv => ?_)
    · by_cases hc : c = 'Σ'
      · subst hc
        exact .cons (h [] t rfl) .nil
      · have hsame : lowerAt before c (t ++ after) = lowerAt before' c (t ++ after') :=
          lowerAt_of_ne hc
        rw [hsame]
        exact List.forall₂_same.2 fun c _ => hrefl c
    · simpa using h (c :: u) v (by rw [huv, List.cons_append])

theorem length_lowerBetween (before before' t after after' : Text) :
    (lowerBetween before t after).length = (lowerBetween before' t after').length :=
  (forall₂_lowerBetween (R := fun _ _ => True) (fun _ => trivial) fun _ _ _ => trivial).length_eq

/-- Each capital sigma of `t` reads alike in `t` alone and between `before` and `after`. -/
def ReadsAlike (before t after : Text) : Prop :=
  ∀ u v, t = u ++ 'Σ' :: v →
    endsWord (u.reverse ++ before.reverse) (v ++ after) = endsWord u.reverse v

theorem smallSigma_inj :
    smallSigma before after = smallSigma before' after'
      ↔ endsWord before after = endsWord before' after' := by
  unfold smallSigma
  cases endsWord before after <;> cases endsWord before' after' <;> simp

/-- A stretch is lower-cased in its place as it is alone exactly when its sigmas read alike. -/
theorem readsAlike_iff :
    ReadsAlike before t after ↔ lowerBetween before.reverse t after = t.lower := by
  rw [lower_eq_lowerBetween]
  constructor
  · intro h
    refine List.forall₂_eq_eq_eq ▸ forall₂_lowerBetween (fun _ => rfl) fun u v huv => ?_
    rw [List.append_nil, List.append_nil]
    exact smallSigma_inj.2 (h u v huv)
  · rintro h u v rfl
    rw [lowerBetween_append, lowerBetween_append] at h
    have hsigma := (List.append_inj h (length_lowerBetween _ _ _ _ _)).2
    rw [lowerBetween, lowerBetween, lowerAt_sigma, lowerAt_sigma] at hsigma
    have hhead := (List.cons.inj hsigma).1
    rw [List.append_nil, List.append_nil] at hhead
    exact smallSigma_inj.1 hhead

section Surroundings

/-- Whether case passes over all of a text. -/
def isPassedOver (t : Text) : Bool := t.all fun c => inBoundaries c.toNat caseIgnoredBounds

theorem meetsCased_append (t u : Text) :
    meetsCased (t ++ u) = if isPassedOver t then meetsCased u else meetsCased t := by
  unfold meetsCased isPassedOver
  rw [List.dropWhile_append]
  by_cases h : ∀ c ∈ t, inBoundaries c.toNat caseIgnoredBounds = true
  · rw [List.dropWhile_eq_nil_iff.2 h, if_pos List.isEmpty_nil, if_pos (List.all_eq_true.2 h)]
  · obtain ⟨c, r, hr⟩ := List.exists_cons_of_ne_nil (mt List.dropWhile_eq_nil_iff.1 h)
    rw [hr, if_neg (by simp), if_neg (mt List.all_eq_true.1 h), List.cons_append]

theorem meetsCased_of_isPassedOver (h : isPassedOver t = true) : meetsCased t = false := by
  have happ := meetsCased_append t []
  rw [List.append_nil, if_pos h] at happ
  exact happ

theorem meetsCased_letter : meetsCased ['a'] = true := by decide +kernel

/-- Where a letter before the stretch and a letter behind it change nothing, nothing does. -/
theorem readsAlike_everywhere (hbefore : ReadsAlike ['a'] t []) (hafter : ReadsAlike [] t ['a'])
    (before after : Text) : ReadsAlike before t after := by
  intro u v huv
  have hb := hbefore u v huv
  have ha := hafter u v huv
  simp only [endsWord, List.append_nil, List.reverse_nil, List.reverse_singleton,
    meetsCased_append, meetsCased_letter] at hb ha ⊢
  -- what case passes over leaves the reading to the surroundings, the rest settles it
  by_cases hu : isPassedOver u.reverse = true <;> by_cases hv : isPassedOver v = true <;>
    simp_all [meetsCased_of_isPassedOver]

end Surroundings

section Counts

/-- At most a final sigma on the left against a plain one on the right. -/
def SigmaLe (c d : Char) : Prop := c = d ∨ c = 'ς' ∧ d = 'σ'

theorem count_of_sigmaLe (h : List.Forall₂ SigmaLe l l') :
    List.count 'σ' l ≤ List.count 'σ' l' ∧ List.count 'ς' l' ≤ List.count 'ς' l := by
  induction h with
  | nil => exact ⟨Nat.le_refl _, Nat.le_refl _⟩
  | cons hcd _ ih =>
    rcases hcd with rfl | ⟨rfl, rfl⟩
    · simp only [List.count_cons]
      omega
    · simp
      omega

/-- Where one kind of sigma is as frequent on both sides, there is no difference at all. -/
theorem eq_of_sigmaLe (h : List.Forall₂ SigmaLe l l')
    (hcount : List.count 'σ' l' ≤ List.count 'σ' l ∨ List.count 'ς' l ≤ List.count 'ς' l') :
    l = l' := by
  induction h with
  | nil => rfl
  | cons hcd hrest ih =>
    have hle := count_of_sigmaLe hrest
    rcases hcd with rfl | ⟨rfl, rfl⟩
    · rw [ih]
      simp only [List.count_cons] at hcount
      omega
    · simp at hcount
      omega

theorem sigmaLe_smallSigma (h : endsWord before' after' = true → endsWord before after = true) :
    SigmaLe (smallSigma before after) (smallSigma before' after') := by
  unfold smallSigma
  by_cases h' : endsWord before' after' = true
  · rw [if_pos h', if_pos (h h')]
    exact .inl rfl
  · rw [if_neg h']
    split_ifs
    · exact .inr ⟨rfl, rfl⟩
    · exact .inl rfl

theorem meetsCased_append_letter (h : meetsCased t = true) : meetsCased (t ++ ['a']) = true := by
  rw [meetsCased_append]
  split_ifs
  · exact meetsCased_letter
  · exact h

/-- A letter before a stretch can only make its sigmas final. -/
theorem lowerBetween_letter_sigmaLe (t : Text) :
    List.Forall₂ SigmaLe (lowerBetween ['a'] t []) t.lower := by
  rw [lower_eq_lowerBetween]
  refine forall₂_lowerBetween (fun _ => .inl rfl) fun u v _ => sigmaLe_smallSigma ?_
  simp only [endsWord, List.append_nil, Bool.and_eq_true]
  exact And.imp_left meetsCased_append_letter

/-- A letter behind a stretch can only keep its sigmas from being final. -/
theorem lower_sigmaLe_lowerBetween (t : Text) :
    List.Forall₂ SigmaLe t.lower (lowerBetween [] t ['a']) := by
  rw [lower_eq_lowerBetween]
  refine forall₂_lowerBetween (fun _ => .inl rfl) fun u v _ => sigmaLe_smallSigma ?_
  simp only [endsWord, List.append_nil, Bool.and_eq_true, Bool.not_eq_true']
  refine And.imp_right fun h => ?_
  rw [Bool.eq_false_iff] at h ⊢
  exact mt meetsCased_append_letter h

end Counts

end ExerciseSheet

import ExerciseSheet.Text.Basic
import ExerciseSheet.Text.CaseFold
import Mathlib.Data.List.Basic
import Mathlib.Tactic.SplitIfs

/-!
# Alike but for case

A character with another small letter is one of that letter's capitals (`mem_capitalsOf`). A text
without line feeds is spelled in lines only if it is spelled in one of them (`spells_ofLines`).
-/

namespace ExerciseSheet

variable {c d : Char}

theorem mem_capitalsOf_toLower : ∀ n < 0x80, (Char.ofNat n).toLower ≠ Char.ofNat n →
    Char.ofNat n ∈ capitalsOf (Char.ofNat n).toLower := by
  decide +kernel

/-- Each small letter of a run is a character. -/
theorem shift_capitalRuns : ∀ r ∈ capitalRuns, 0 ≤ r.first + r.shift
    ∧ (r.last + r.shift < 0xd800 ∨ 0xdfff < r.first + r.shift ∧ r.last + r.shift < 0x110000) := by
  decide +kernel

theorem toNat_ofNat {n : Nat} (h : n.isValidChar) : (Char.ofNat n).toNat = n := by
  rw [Char.ofNat, dif_pos h]
  rfl

theorem mem_capitalsOf_of_run {r : CapitalRun} (hr : r ∈ capitalRuns)
    (h : r.holds c.toNat = true) (hd : d = Char.ofNat (c.toNat + r.shift).toNat) :
    c ∈ capitalsOf d := by
  have hbounds : r.first ≤ c.toNat ∧ c.toNat ≤ r.last := by
    simp only [CapitalRun.holds, Bool.and_eq_true, decide_eq_true_eq] at h
    exact h.1
  obtain ⟨hnonneg, hvalid⟩ := shift_capitalRuns r hr
  have hback : ((d.toNat : Int) - r.shift).toNat = c.toNat := by
    rw [hd, toNat_ofNat (by unfold Nat.isValidChar; omega)]
    omega
  have hfound : c ∈ capitalRuns.filterMap fun r =>
      let n := ((d.toNat : Int) - r.shift).toNat
      if r.holds n then some (Char.ofNat n) else none :=
    List.mem_filterMap.2 ⟨r, hr, by simp only [hback, h, if_true, Char.ofNat_toNat]⟩
  unfold capitalsOf
  simp only []
  split_ifs
  · exact List.mem_cons_of_mem _ hfound
  · exact hfound

/-- A character with another small letter is one of that letter's capitals. -/
theorem mem_capitalsOf (h : smallLetter c ≠ c) : c ∈ capitalsOf (smallLetter c) := by
  unfold smallLetter at h ⊢
  split_ifs at h ⊢ with hascii hdot
  · have hc := mem_capitalsOf_toLower c.toNat hascii
    rw [Char.ofNat_toNat] at hc
    exact hc h
  · have hc : c = Char.ofNat 0x130 := by rw [← Char.ofNat_toNat c, beq_iff_eq.1 hdot]
    rw [hc]
    decide +kernel
  · rcases hr : capitalRuns.find? (·.holds c.toNat) with _ | r <;> rw [hr] at h
    · exact absurd rfl h
    · have hholds : r.holds c.toNat = true := by simpa using List.find?_some hr
      exact mem_capitalsOf_of_run (List.mem_of_find?_eq_some hr) hholds (by rw [hr])

theorem toNat_foldAliases : ∀ a ∈ foldAliases, (Char.ofNat a.2).toNat = a.2 := by
  decide +kernel

section Texts

variable {pat t u : Text} {sep : Char} {r s : String}

/-- Whether a text starts with `pat`, differences in case apart. -/
def startsLike : (pat t : Text) → Bool
  | [], _ => true
  | _ :: _, [] => false
  | x :: pat, c :: t => alikeButCase c x && startsLike pat t

/-- Whether `pat` stands anywhere in a text, differences in case apart. -/
def spells (pat : Text) : Text → Bool
  | [] => startsLike pat []
  | c :: t => startsLike pat (c :: t) || spells pat t

theorem startsLike_of_suffix (h : spells pat t = false) (hu : u <:+ t) :
    startsLike pat u = false := by
  induction t with
  | nil => rwa [List.suffix_nil.1 hu]
  | cons c t ih =>
    rw [spells, Bool.or_eq_false_iff] at h
    rcases List.suffix_cons_iff.1 hu with rfl | hu
    · exact h.1
    · exact ih h.2 hu

theorem startsLike_append_cons (hsep : ∀ x ∈ pat, alikeButCase sep x = false) :
    startsLike pat (t ++ sep :: u) = startsLike pat t := by
  induction t generalizing pat with
  | nil =>
    rcases pat with _ | ⟨x, pat⟩
    · rfl
    · rw [List.nil_append, startsLike, startsLike, hsep x List.mem_cons_self, Bool.false_and]
  | cons c t ih =>
    rcases pat with _ | ⟨x, pat⟩
    · rfl
    · rw [List.cons_append, startsLike, startsLike,
        ih fun y hy => hsep y (List.mem_cons_of_mem _ hy)]

theorem spells_nil (hne : pat ≠ []) : spells pat [] = false := by
  obtain ⟨x, pat, rfl⟩ := List.exists_cons_of_ne_nil hne
  rfl

/-- Around a separator that it does not hold, a text is spelled on one side or not at all. -/
theorem spells_append_cons (hsep : ∀ x ∈ pat, alikeButCase sep x = false) :
    spells pat (t ++ sep :: u) = (spells pat t || spells pat u) := by
  induction t with
  | nil => exact congrArg (· || spells pat u) (startsLike_append_cons (t := []) hsep)
  | cons c t ih =>
    have h := startsLike_append_cons (t := c :: t) (u := u) hsep
    rw [List.cons_append] at h ⊢
    rw [spells, spells, h, ih, Bool.or_assoc]

theorem spells_join (hne : pat ≠ []) (hsep : ∀ x ∈ pat, alikeButCase sep x = false) :
    ∀ {ls : List Text}, (∀ l ∈ ls, spells pat l = false) →
      spells pat (Text.join [sep] ls) = false
  | [], _ => spells_nil hne
  | [l], h => h l List.mem_cons_self
  | l :: m :: ls, h => by
    obtain ⟨hl, hls⟩ := List.forall_mem_cons.1 h
    rw [Text.join, List.append_assoc, List.singleton_append, spells_append_cons hsep, hl,
      spells_join hne hsep hls, Bool.or_false]
    exact List.cons_ne_nil _ _

theorem spells_ofLines (hne : pat ≠ []) (hsep : ∀ x ∈ pat, alikeButCase '\n' x = false)
    {ls : List String} (h : ∀ l ∈ ls, spells pat l.toList = false) :
    spells pat (Text.ofLines ls) = false := by
  refine spells_join hne hsep fun l hl => ?_
  obtain ⟨s, hs, rfl⟩ := List.mem_map.1 hl
  exact h s hs

theorem spells_toList (hs : s = String.ofList t) (h : spells pat t = false) :
    spells pat s.toList = false := by
  rwa [hs, String.toList_ofList]

theorem spells_append_toList (hs : s = String.ofList t) (hr : r = String.ofList u)
    (h : spells pat (t ++ u) = false) : spells pat (s ++ r).toList = false := by
  rwa [hs, hr, String.toList_append, String.toList_ofList, String.toList_ofList]

end Texts

end ExerciseSheet

import ExerciseSheet.Proofs.CaseVariants
import ExerciseSheet.Text.Blank
import ExerciseSheet.Text.Digit

/-!
# Characters without case

Blanks and digits lie in stretches of the code points that hold no letter with a case
(`uncased_of_isBlank`, `uncased_of_isDecimalDigit`). A character in such a stretch is its own small
letter and alike to no other (`Uncased.smallLetter_eq`, `Uncased.eq_of_alike`), so whether a
character is a blank or a digit can be asked of its small letter, or of one alike to it, just as
well.
-/

namespace ExerciseSheet

variable {c d : Char} {first stop : Nat}

/-- From `first` up to before `stop` there is no capital, no capital's small letter and no letter
that shares its fold with another. -/
def Caseless (first stop : Nat) : Prop :=
  (∀ r ∈ capitalRuns, (r.last < first ∨ stop ≤ r.first)
      ∧ ((r.last + r.shift : Int) < first ∨ (stop : Int) ≤ r.first + r.shift))
    ∧ (∀ a ∈ foldAliases, (a.1 < first ∨ stop ≤ a.1) ∧ (a.2 < first ∨ stop ≤ a.2))
    ∧ (0x130 < first ∨ stop ≤ 0x130)

instance (first stop : Nat) : Decidable (Caseless first stop) :=
  inferInstanceAs (Decidable (_ ∧ _ ∧ _))

theorem CapitalRun.bounds_of_holds {r : CapitalRun} {n : Nat} (h : r.holds n = true) :
    r.first ≤ n ∧ n ≤ r.last := by
  simp only [holds, Bool.and_eq_true, decide_eq_true_eq] at h
  exact h.1

theorem toLower_of_not_capital (h : c.toNat < 0x41 ∨ 0x5b ≤ c.toNat) : c.toLower = c := by
  unfold Char.toLower
  rw [dif_neg]
  rintro ⟨hlow, hhigh⟩
  have hlow : 0x41 ≤ c.toNat := UInt32.le_iff_toNat_le.1 hlow
  have hhigh : c.toNat ≤ 0x5a := UInt32.le_iff_toNat_le.1 hhigh
  omega

theorem capitals_ascii : ⟨0x41, 0x5a, 1, 32⟩ ∈ capitalRuns := List.mem_cons_self

theorem first_capitalRuns : ∀ r ∈ capitalRuns, 0 < r.first := by
  decide +kernel

namespace Caseless

variable (h : Caseless first stop) (hc : first ≤ c.toNat ∧ c.toNat < stop)
include h hc

theorem smallLetter_eq : smallLetter c = c := by
  obtain ⟨hruns, -, hdot⟩ := h
  unfold smallLetter
  split_ifs with hascii hdotted
  · have := (hruns _ capitals_ascii).1
    exact toLower_of_not_capital (by simp only at this; omega)
  · have := beq_iff_eq.1 hdotted
    omega
  · have hnone : capitalRuns.find? (·.holds c.toNat) = none := by
      rw [List.find?_eq_none]
      intro r hr hholds
      have := (hruns r hr).1
      have := CapitalRun.bounds_of_holds hholds
      omega
    rw [hnone]

theorem foldCase_eq : foldCase c = c := by
  have hnone : foldAliases.lookup c.toNat = none := by
    rw [List.lookup_eq_none_iff]
    intro a ha
    have := (h.2.1 a ha).1
    rw [bne_iff_ne]
    omega
  rw [foldCase, h.smallLetter_eq hc, hnone]

theorem capitalsOf_eq : capitalsOf c = [] := by
  obtain ⟨hruns, -, -⟩ := h
  have hi : c ≠ 'i' := by
    rintro rfl
    have := (hruns _ capitals_ascii).2
    simp at this hc
    omega
  unfold capitalsOf
  simp only [if_neg hi]
  rw [List.filterMap_eq_nil_iff]
  intro r hr
  simp only [ite_eq_right_iff, reduceCtorEq, imp_false]
  intro hholds
  have := (hruns r hr).2
  have := first_capitalRuns r hr
  have := CapitalRun.bounds_of_holds hholds
  omega

end Caseless

/-- A character in a stretch without case. -/
def Uncased (c : Char) : Prop :=
  ∃ first stop, Caseless first stop ∧ first ≤ c.toNat ∧ c.toNat < stop

theorem Uncased.smallLetter_eq : Uncased c → smallLetter c = c :=
  fun ⟨_, _, h, hc⟩ => h.smallLetter_eq hc

theorem Uncased.eq_of_smallLetter (h : Uncased (smallLetter c)) : smallLetter c = c := by
  obtain ⟨_, _, h, hc⟩ := h
  by_contra hne
  have hcapital := mem_capitalsOf hne
  rw [h.capitalsOf_eq hc] at hcapital
  cases hcapital

/-- No other character is alike to one without case. -/
theorem Uncased.eq_of_alike (h : Uncased c) (hd : alikeButCase d c = true) : d = c := by
  have hsmall : smallLetter d = c := by
    obtain ⟨_, _, h, hc⟩ := h
    have hfold : foldCase d = c := (beq_iff_eq.1 hd).trans (h.foldCase_eq hc)
    unfold foldCase at hfold
    simp only at hfold
    rcases hl : foldAliases.lookup (smallLetter d).toNat with _ | n <;> rw [hl] at hfold
    · exact hfold
    · -- the fold of an alias is the letter it shares its fold with, so it would lie in the stretch
      obtain ⟨before, after, heq, -⟩ := List.lookup_eq_some_iff.1 hl
      have hmem : ((smallLetter d).toNat, n) ∈ foldAliases := by simp [heq]
      have hn := toNat_foldAliases _ hmem
      have := (h.2.1 _ hmem).2
      simp only at hfold hn this
      rw [hfold] at hn
      omega
  rw [← hsmall] at h ⊢
  exact h.eq_of_smallLetter.symm

section Tests

variable {p : Char → Bool} (hp : ∀ c, p c = true → Uncased c)
include hp

theorem apply_smallLetter (c : Char) : p (smallLetter c) = p c := by
  rw [Bool.eq_iff_iff]
  constructor
  · intro h
    rwa [(hp _ h).eq_of_smallLetter] at h
  · intro h
    rwa [(hp c h).smallLetter_eq]

theorem apply_of_alike (h : alikeButCase c d = true) : p c = p d := by
  rw [Bool.eq_iff_iff]
  constructor
  · intro hc
    rwa [(hp c hc).eq_of_alike (beq_iff_eq.2 (beq_iff_eq.1 h).symm)]
  · intro hd
    rwa [(hp d hd).eq_of_alike h]

end Tests

/-- Wide stretches without case. -/
def caselessStretches : List (Nat × Nat) := [
  (0, 0x41), (0x7b, 0xb5), (0x587, 0x10a0), (0x13fe, 0x1c80), (0x1ffd, 0x2126), (0x2d2e, 0xa640),
  (0xa7fb, 0xab53), (0xabc0, 0xfb05), (0xfb07, 0xff21), (0x10450, 0x104b0), (0x10cf3, 0x118a0),
  (0x118e0, 0x16e40), (0x16e80, 0x1e900), (0x1e944, 0x110000)]

theorem caseless_caselessStretches : ∀ a ∈ caselessStretches, Caseless a.1 a.2 := by
  decide +kernel

theorem uncased_of_stretch (h : ∃ a ∈ caselessStretches, a.1 ≤ c.toNat ∧ c.toNat < a.2) :
    Uncased c := by
  obtain ⟨a, ha, hc⟩ := h
  exact ⟨a.1, a.2, caseless_caselessStretches a ha, hc⟩

theorem uncased_of_run (runs : List (Nat × Nat)) {run : Nat × Nat}
    (hruns : ∀ run ∈ runs, ∃ a ∈ caselessStretches, a.1 ≤ run.1 ∧ run.2 ≤ a.2)
    (hrun : run ∈ runs) (hc : run.1 ≤ c.toNat ∧ c.toNat < run.2) : Uncased c := by
  obtain ⟨a, ha, hfirst, hstop⟩ := hruns run hrun
  exact uncased_of_stretch ⟨a, ha, by omega⟩

/-- The blanks' first code points, and the first one after the run that each starts. -/
def blankRuns : List (Nat × Nat) := [
  (0x09, 0x0e), (0x1c, 0x21), (0x85, 0x86), (0xa0, 0xa1), (0x1680, 0x1681), (0x2000, 0x200b),
  (0x2028, 0x202a), (0x202f, 0x2030), (0x205f, 0x2060), (0x3000, 0x3001)]

theorem exists_blankRun (h : isBlank c = true) :
    ∃ run ∈ blankRuns, run.1 ≤ c.toNat ∧ c.toNat < run.2 := by
  simp only [isBlank, Bool.or_eq_true, Bool.and_eq_true, decide_eq_true_eq, beq_iff_eq] at h
  simp only [blankRuns, List.exists_mem_cons_iff, List.not_mem_nil, false_and, exists_false]
  omega

theorem exists_digitRun (h : isDecimalDigit c = true) :
    ∃ run ∈ digitRuns, run.1 ≤ c.toNat ∧ c.toNat < run.2 := by
  rw [isDecimalDigit, digitValue?, Option.isSome_map, List.find?_isSome] at h
  simpa only [Bool.and_eq_true, decide_eq_true_eq] using h

theorem uncased_of_isBlank (c : Char) (h : isBlank c = true) : Uncased c := by
  obtain ⟨run, hrun, hc⟩ := exists_blankRun h
  exact uncased_of_run blankRuns (by decide +kernel) hrun hc

theorem uncased_of_isDecimalDigit (c : Char) (h : isDecimalDigit c = true) : Uncased c := by
  obtain ⟨run, hrun, hc⟩ := exists_digitRun h
  exact uncased_of_run digitRuns (by decide +kernel) hrun hc

theorem isBlank_smallLetter : isBlank (smallLetter c) = isBlank c :=
  apply_smallLetter uncased_of_isBlank c

theorem isDecimalDigit_smallLetter : isDecimalDigit (smallLetter c) = isDecimalDigit c :=
  apply_smallLetter uncased_of_isDecimalDigit c

theorem isBlank_of_alike (h : alikeButCase c d = true) : isBlank c = isBlank d :=
  apply_of_alike uncased_of_isBlank h

theorem runs_apart : ∀ a ∈ blankRuns, ∀ b ∈ digitRuns, a.2 ≤ b.1 ∨ b.2 ≤ a.1 := by
  decide +kernel

theorem isBlank_of_isDecimalDigit (h : isDecimalDigit c = true) : isBlank c = false := by
  rw [Bool.eq_false_iff]
  intro hblank
  obtain ⟨a, ha, hca⟩ := exists_blankRun hblank
  obtain ⟨b, hb, hcb⟩ := exists_digitRun h
  have := runs_apart a ha b hb
  omega

end ExerciseSheet

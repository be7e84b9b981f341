import ExerciseSheet.Fault
import ExerciseSheet.Proofs.Caseless
import ExerciseSheet.Proofs.Sequencing
import Mathlib.Algebra.Group.Nat.Defs
import Mathlib.Logic.Function.Basic
import Mathlib.Tactic.SplitIfs

/-!
# Numbers in decimal

The text of a number is digits, after a minus sign if need be (`not_mem_wholeText`), and different
numbers have different texts (`wholeText_injective`). Numbers are written when none of them has too
many digits (`mapM_writeWhole`). Unless they are too many, the digits of a number are read back as
that number (`readWhole_wholeText`), and digits of any script as some number
(`readWhole_isOk_of_digits`).
-/

namespace ExerciseSheet

theorem isDigit_naturalText (n : Nat) : ∀ c ∈ naturalText n, c.isDigit = true :=
  fun _ => Nat.isDigit_of_mem_toDigits (by decide) (by decide)

theorem naturalText_ne_nil (n : Nat) : naturalText n ≠ [] := Nat.toDigits_ne_nil

theorem length_naturalText_le_iff (n k : Nat) (hk : 0 < k) :
    (naturalText n).length ≤ k ↔ n < 10 ^ k :=
  Nat.length_toDigits_le_iff (by decide) hk

theorem not_mem_naturalText {c : Char} (hdigit : c.isDigit = false) (n : Nat) :
    c ∉ naturalText n := by
  intro h
  have := isDigit_naturalText n c h
  rw [hdigit] at this
  cases this

theorem not_mem_wholeText {c : Char} (hminus : c ≠ '-') (hdigit : c.isDigit = false) (n : Int) :
    c ∉ wholeText n := by
  have hnatural : c ∉ naturalText n.natAbs := not_mem_naturalText hdigit n.natAbs
  unfold wholeText
  split_ifs
  · rw [List.mem_cons, not_or]
    exact ⟨hminus, hnatural⟩
  · exact hnatural

theorem wholeText_natCast (n : Nat) : wholeText n = naturalText n :=
  if_neg (Int.not_lt.2 (Int.natCast_nonneg n))

theorem naturalText_injective : Function.Injective naturalText := by
  intro a b h
  have hread := congrArg (fun ds => Nat.ofDigitChars 10 ds 0) h
  simpa only [naturalText, Nat.ofDigitChars_ten_toDigits] using hread

theorem wholeText_injective : Function.Injective wholeText := by
  have hminus : ∀ n, '-' ∉ naturalText n := not_mem_naturalText (by decide)
  intro a b h
  unfold wholeText at h
  split_ifs at h with ha hb hb
  · have := naturalText_injective (List.cons.inj h).2
    omega
  · exact absurd (h ▸ List.mem_cons_self) (hminus b.natAbs)
  · exact absurd (h ▸ List.mem_cons_self) (hminus a.natAbs)
  · have := naturalText_injective h
    omega

section Writing

/-- A number has few enough digits to be written. -/
def IsWritten (n : Int) : Prop := (naturalText n.natAbs).length ≤ digitLimit

instance : DecidablePred IsWritten := fun n =>
  inferInstanceAs (Decidable ((naturalText n.natAbs).length ≤ digitLimit))

theorem isWritten_iff {n : Int} : IsWritten n ↔ ¬ Nat.pow 10 digitLimit ≤ n.natAbs := by
  -- for any limit first, so that the power is not computed
  have hlimit : ∀ k, 0 < k → ((naturalText n.natAbs).length ≤ k ↔ ¬ Nat.pow 10 k ≤ n.natAbs) :=
    fun k hk => by rw [length_naturalText_le_iff _ _ hk, Nat.pow_eq, Nat.not_le]
  exact hlimit digitLimit (by decide)

theorem writeWhole_of_isWritten {n : Int} (h : IsWritten n) : writeWhole n = .ok (wholeText n) := by
  rw [writeWhole, if_neg (isWritten_iff.1 h)]

theorem writeWhole_of_not_isWritten {n : Int} (h : ¬ IsWritten n) :
    writeWhole n = .error .writeTooLong := by
  rw [writeWhole, if_pos (not_not.1 (mt isWritten_iff.2 h))]

theorem writeWhole_eq_error {n : Int} {f : Fault} (h : writeWhole n = .error f) :
    f = .writeTooLong := by
  unfold writeWhole at h
  split_ifs at h
  cases h
  rfl

theorem mapM_writeWhole {ns : List Int} (h : ∀ n ∈ ns, IsWritten n) :
    ns.mapM writeWhole = .ok (ns.map wholeText) :=
  mapM_eq_ok_iff.2 <| List.forall₂_map_right_iff.2 <|
    List.forall₂_same.2 fun n hn => writeWhole_of_isWritten (h n hn)

/-- One number with too many digits keeps all of them from being written. -/
theorem mapM_writeWhole_of_not {ns : List Int} (h : ¬ ∀ n ∈ ns, IsWritten n) :
    ns.mapM writeWhole = .error .writeTooLong := by
  rcases hns : ns.mapM writeWhole with f | ts
  · obtain ⟨-, n, -, -, -, hn⟩ := mapM_eq_error_iff.1 hns
    rw [writeWhole_eq_error hn]
  · refine absurd (fun n hn => ?_) h
    obtain ⟨t, ht⟩ := mapM_isOk_iff.1 ⟨ts, hns⟩ n hn
    by_contra hlong
    cases (writeWhole_of_not_isWritten hlong).symm.trans ht

end Writing

section Reading

variable {c : Char} {t : Text}

/-- What holds of the ten digits holds of every character that is one. -/
theorem forall_isDigit {p : Char → Prop} (h : ∀ d < 10, p (Char.ofNat ('0'.toNat + d)))
    (hc : c.isDigit = true) : p c := by
  obtain ⟨hlow, hhigh⟩ : '0'.toNat ≤ c.toNat ∧ c.toNat ≤ '9'.toNat := Char.isDigit_iff_toNat.1 hc
  have hdigit := h (c.toNat - '0'.toNat) ((Nat.sub_lt_iff_lt_add hlow).2 (Nat.lt_succ_of_le hhigh))
  rwa [Nat.add_sub_cancel' hlow, Char.ofNat_toNat] at hdigit

theorem digitValue?_of_isDigit (h : c.isDigit = true) :
    digitValue? c = some (c.toNat - '0'.toNat) :=
  forall_isDigit (p := fun c => digitValue? c = some (c.toNat - '0'.toNat)) (by decide) h

theorem isDecimalDigit_of_isDigit (h : c.isDigit = true) : isDecimalDigit c = true := by
  rw [isDecimalDigit, digitValue?_of_isDigit h, Option.isSome_some]

/-- Digits are read to their end. -/
theorem groupedDigits_of_isDecimalDigit : ∀ {t : Text} {gap : Bool},
    (∀ c ∈ t, isDecimalDigit c = true) → (gap = true → t ≠ []) →
    groupedDigits gap t = some (t.map fun c => (digitValue? c).getD 0, [])
  | [], gap, _, hgap => by
    cases gap with
    | false => rfl
    | true => exact absurd rfl (hgap rfl)
  | c :: t, gap, h, _ => by
    obtain ⟨hc, ht⟩ := List.forall_mem_cons.1 h
    have hscore : c ≠ '_' := by
      rintro rfl
      exact absurd hc (by decide)
    obtain ⟨d, hd⟩ := Option.isSome_iff_exists.1 hc
    rw [groupedDigits, if_neg hscore, hd]
    simp only [groupedDigits_of_isDecimalDigit ht (fun h => absurd h Bool.false_ne_true),
      Option.map_some, List.map_cons, hd, Option.getD_some]

theorem groupedDigits_naturalText (n : Nat) :
    ∃ ds, groupedDigits true (naturalText n) = some (ds, []) ∧ ofDigits ds = n
      ∧ ds.length = (naturalText n).length := by
  have hdigits := isDigit_naturalText n
  refine ⟨_, groupedDigits_of_isDecimalDigit (fun c hc => isDecimalDigit_of_isDigit (hdigits c hc))
    fun _ => naturalText_ne_nil n, ?_, List.length_map _⟩
  have hvalues : (naturalText n).map (fun c => (digitValue? c).getD 0)
      = (naturalText n).map fun c => c.toNat - '0'.toNat :=
    List.map_congr_left fun c hc => by rw [digitValue?_of_isDigit (hdigits c hc), Option.getD_some]
  rw [hvalues, ofDigits, List.foldl_map]
  exact Nat.ofDigitChars_ten_toDigits

theorem trimNumber_eq_self (h : ∀ c ∈ t, isNumberBlank c = false) : trimNumber t = t := by
  have hdrop : ∀ {t : Text}, (∀ c ∈ t, isNumberBlank c = false) →
      t.dropWhile isNumberBlank = t := by
    rintro (_ | ⟨c, t⟩) h
    · rfl
    · exact List.dropWhile_cons_of_neg (by simp [h c List.mem_cons_self])
  rw [trimNumber, hdrop h, hdrop fun c hc => h c (List.mem_reverse.1 hc), List.reverse_reverse]

theorem splitSign_of_not_mem (hminus : '-' ∉ t) (hplus : '+' ∉ t) : splitSign t = (false, t) := by
  unfold splitSign
  split
  · exact absurd List.mem_cons_self hminus
  · exact absurd List.mem_cons_self hplus
  · rfl

/-- Digits of any script are read as a number, unless they are too many. -/
theorem readWhole_isOk_of_digits (hne : t ≠ []) (ht : ∀ c ∈ t, isDecimalDigit c = true)
    (hlen : t.length ≤ digitLimit) : ∃ n, readWhole t = .ok n := by
  have htrim : trimNumber t = t := trimNumber_eq_self fun c hc => by
    rw [isNumberBlank, isBlank_of_isDecimalDigit (ht c hc), Bool.false_and]
  have hsign : splitSign t = (false, t) :=
    splitSign_of_not_mem (fun h => absurd (ht _ h) (by decide))
      (fun h => absurd (ht _ h) (by decide))
  have hread : groupedDigits true t = some (t.map fun c => (digitValue? c).getD 0, []) :=
    groupedDigits_of_isDecimalDigit ht fun _ => hne
  have hfit : ¬ digitLimit < (t.map fun c => (digitValue? c).getD 0).length := by
    rw [List.length_map]
    exact Nat.not_lt.2 hlen
  unfold readWhole
  simp only [htrim, hsign, hread, if_neg hfit]
  exact ⟨_, rfl⟩

/-- A whole number is read back from its text, unless that has too many digits. -/
theorem readWhole_wholeText {n : Int} (h : IsWritten n) : readWhole (wholeText n) = .ok n := by
  have hblank : ∀ c ∈ naturalText n.natAbs, isNumberBlank c = false := fun c hc =>
    forall_isDigit (p := (isNumberBlank · = false)) (by decide) (isDigit_naturalText _ c hc)
  obtain ⟨ds, hds, hvalue, hlength⟩ := groupedDigits_naturalText n.natAbs
  have hfit : ¬ digitLimit < ds.length := Nat.not_lt.2 (hlength ▸ h)
  unfold readWhole wholeText
  split_ifs with hneg
  · have htrim : trimNumber ('-' :: naturalText n.natAbs) = '-' :: naturalText n.natAbs :=
      trimNumber_eq_self (List.forall_mem_cons.2 ⟨by decide, hblank⟩)
    simp only [htrim, splitSign, hds, if_neg hfit, List.isEmpty_nil, if_true, hvalue]
    congr 1
    omega
  · have hsign := splitSign_of_not_mem (not_mem_naturalText (c := '-') (by decide) n.natAbs)
      (not_mem_naturalText (by decide) n.natAbs)
    simp only [trimNumber_eq_self hblank, hsign, hds, if_neg hfit,
      List.isEmpty_nil, if_true, hvalue, Bool.false_eq_true, if_false]
    congr 1
    omega

end Reading

end ExerciseSheet

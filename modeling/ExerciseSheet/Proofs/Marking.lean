import ExerciseSheet.Proofs.Caseless
import ExerciseSheet.Proofs.FirstWay

/-!
# How a built marker is written

A marking is a text written as a marker of a command and a word. A built marker reads nothing else
(`readsOnly_build`), and of the ways through a marking it prefers the one that takes the number and
the title as they are written (`prefers_build`): no run of blanks or digits in it can go on into
what stands behind it, and a title stops at the first closing brace.
-/

namespace ExerciseSheet

/-- Texts that differ at most in case, character by character. -/
def AlikeTexts (t u : Text) : Prop := List.Forall₂ (fun c d => alikeButCase c d = true) t u

theorem alikeTexts_self (t : Text) : AlikeTexts t t :=
  List.forall₂_same.2 fun c _ => by simp [alikeButCase]

theorem takeWhile_append_eq {p : Char → Bool} {t r : Text} (ht : ∀ c ∈ t, p c = true)
    (hr : ∀ c ∈ r.head?, p c = false) : (t ++ r).takeWhile p = t := by
  rw [List.takeWhile_append_of_pos ht]
  rcases r with _ | ⟨c, r⟩
  · simp
  · rw [List.takeWhile_cons_of_neg (by simp [hr c rfl]), List.append_nil]

/-- A text written as a marker: the command and, in braces, the word, a number, a colon and a title,
with blanks or none around the word and the number. -/
structure Marking (command word : Text) where
  spelled : Text
  lead : Text
  label : Text
  gap : Text
  number : Text
  tail : Text
  title : Text
  spelled_alike : AlikeTexts spelled command
  lead_blank : ∀ c ∈ lead, isBlank c = true
  label_alike : AlikeTexts label word
  gap_blank : ∀ c ∈ gap, isBlank c = true
  /-- Without a word there is only one place for blanks before the number. -/
  gap_of_no_word : word = [] → gap = []
  number_ne_nil : number ≠ []
  number_digits : ∀ c ∈ number, isDecimalDigit c = true
  tail_blank : ∀ c ∈ tail, isBlank c = true
  brace_not_mem_title : '\x7d' ∉ title

namespace Marking

variable {command word : Text} (m : Marking command word) {r : Text} {s : Spot}

/-- The marking from its number on, with what stands behind it. -/
def fromNumber (r : Text) : Text := m.number ++ (m.tail ++ ':' :: (m.title ++ '\x7d' :: r))

/-- The whole marking. -/
def text : Text := m.spelled ++ '\x7b' :: (m.lead ++ (m.label ++ (m.gap ++ m.fromNumber [])))

/-- How far into the marking its number starts. -/
def numberAt : Nat := m.spelled.length + 1 + m.lead.length + m.label.length + m.gap.length

/-- How far into the marking its title starts, right behind the colon. -/
def titleAt : Nat := m.numberAt + m.number.length + m.tail.length + 1

theorem text_append : m.text ++ r
    = m.spelled ++ '\x7b' :: (m.lead ++ (m.label ++ (m.gap ++ m.fromNumber r))) := by
  simp [text, fromNumber]

theorem length_text : m.text.length = m.titleAt + m.title.length + 1 := by
  simp [text, fromNumber, titleAt, numberAt]
  omega

theorem drop_numberAt : (m.text ++ r).drop m.numberAt = m.fromNumber r := by
  have h : m.text ++ r
      = (m.spelled ++ '\x7b' :: (m.lead ++ (m.label ++ m.gap))) ++ m.fromNumber r := by
    simp [text_append]
  rw [h]
  exact List.drop_left' (by simp [numberAt]; omega)

theorem drop_titleAt : (m.text ++ r).drop m.titleAt = m.title ++ '\x7d' :: r := by
  have h : m.fromNumber r = (m.number ++ (m.tail ++ [':'])) ++ (m.title ++ '\x7d' :: r) := by
    simp [fromNumber]
  rw [titleAt, Nat.add_assoc, Nat.add_assoc, ← List.drop_drop, drop_numberAt, h]
  exact List.drop_left' (by simp)

theorem head_behind_number : ∀ c ∈ (m.tail ++ ':' :: r).head?, isDecimalDigit c = false := by
  rcases htail : m.tail with _ | ⟨x, tail⟩
  · simp; rfl
  · have hblank : isBlank x = true := m.tail_blank x (htail ▸ List.mem_cons_self)
    intro c hc
    obtain rfl : x = c := by simpa using hc
    rw [Bool.eq_false_iff]
    intro hdigit
    rw [isBlank_of_isDecimalDigit hdigit] at hblank
    cases hblank

theorem head_fromNumber : ∀ c ∈ (m.fromNumber r).head?, isBlank c = false := by
  obtain ⟨x, number, hnumber⟩ := List.exists_cons_of_ne_nil m.number_ne_nil
  intro c hc
  obtain rfl : x = c := by simpa [fromNumber, hnumber] using hc
  exact isBlank_of_isDecimalDigit (m.number_digits x (hnumber ▸ List.mem_cons_self))

/-- The number is all the digits that stand there. -/
theorem takeWhile_fromNumber : (m.fromNumber r).takeWhile isDecimalDigit = m.number :=
  takeWhile_append_eq m.number_digits m.head_behind_number

/-- The title is all that stands before the first closing brace. -/
theorem takeWhile_title : (m.title ++ '\x7d' :: r).takeWhile (· != '\x7d') = m.title := by
  refine takeWhile_append_eq (fun c hc => ?_) (by simp)
  rw [bne_iff_ne]
  rintro rfl
  exact m.brace_not_mem_title hc

theorem head_label (hword : ∀ c ∈ word.head?, isBlank c = false) :
    ∀ c ∈ (m.label ++ (m.gap ++ m.fromNumber r)).head?, isBlank c = false := by
  have halike := m.label_alike
  intro c hc
  rcases hlabel : m.label with _ | ⟨x, label⟩ <;> rw [hlabel] at hc halike
  · rw [m.gap_of_no_word (List.forall₂_nil_left_iff.1 halike)] at hc
    exact m.head_fromNumber c hc
  · obtain ⟨y, u, hxy, -, rfl⟩ := List.forall₂_cons_left_iff.1 halike
    obtain rfl : x = c := by simpa using hc
    rw [isBlank_of_alike hxy]
    exact hword y rfl

end Marking

namespace Marker

open Pattern

variable {command word : Text} {s e : Spot} {t r : Text}

/-- The characters that a marker has to spell have no case. -/
theorem uncased_of_mem_marks {x : Char} (h : x ∈ ['\x7b', ':', '\x7d']) : Uncased x := by
  simp only [List.mem_cons, List.not_mem_nil, or_false] at h
  rcases h with rfl | rfl | rfl
  all_goals exact uncased_of_stretch (by decide)

theorem prefers_blanks (hrest : s.rest = t ++ r) (ht : ∀ c ∈ t, isBlank c = true)
    (hr : ∀ c ∈ r.head?, isBlank c = false) : blanks.Prefers s (s.afterText t r) :=
  prefers_again hrest (by simpa [ClassItem.holds, CharKind.holds, isBlank_smallLetter] using ht)
    (by simpa [ClassItem.holds, CharKind.holds, isBlank_smallLetter] using hr) (Nat.zero_le _)

theorem prefers_digits (hrest : s.rest = t ++ r) (hne : t ≠ [])
    (ht : ∀ c ∈ t, isDecimalDigit c = true) (hr : ∀ c ∈ r.head?, isDecimalDigit c = false) :
    digits.Prefers s (s.afterText t r) :=
  prefers_again hrest
    (by simpa [ClassItem.holds, CharKind.holds, isDecimalDigit_smallLetter] using ht)
    (by simpa [ClassItem.holds, CharKind.holds, isDecimalDigit_smallLetter] using hr)
    (List.length_pos_of_ne_nil hne)

/-- A title is read up to the first closing brace. -/
theorem prefers_titleText (hrest : s.rest = t ++ '\x7d' :: r) (ht : '\x7d' ∉ t) :
    titleText.Prefers s (s.afterText t ('\x7d' :: r)) := by
  refine prefers_again hrest (fun c hc => ?_) (by simp [ClassItem.holds, alikeButCase])
    (Nat.zero_le _)
  have hne : ¬ alikeButCase c '\x7d' = true := fun h =>
    ht ((uncased_of_mem_marks (by simp)).eq_of_alike h ▸ hc)
  simpa [ClassItem.holds] using hne

theorem prefers_numberAndTitle (m : Marking command word) (hrest : s.rest = m.fromNumber r) :
    numberAndTitle.Prefers s ⟨s.offset + m.number.length + m.tail.length + 1 + m.title.length + 1,
      some '\x7d', r, (2, m.title) :: (1, m.number) :: s.groups⟩ := by
  refine .seq (.group hrest 1 (prefers_digits hrest m.number_ne_nil m.number_digits
    m.head_behind_number)) ?_
  refine .seq (prefers_blanks rfl m.tail_blank (by simp; rfl)) ?_
  refine .seq (prefers_char rfl (by decide)) ?_
  refine .seq (.group rfl 2 (prefers_titleText rfl m.brace_not_mem_title)) ?_
  exact prefers_char rfl (by decide)

/-- A built marker reads a marking with the number and the title as they are written in it. -/
theorem prefers_build (m : Marking command word) (hword : ∀ c ∈ word.head?, isBlank c = false)
    (hrest : s.rest = m.text ++ r) :
    (build command word).pattern.Prefers s
      ⟨s.offset + m.text.length, some '\x7d', r, (2, m.title) :: (1, m.number) :: s.groups⟩ := by
  rw [m.text_append] at hrest
  have hend : s.offset + m.text.length
      = s.offset + m.spelled.length + 1 + m.lead.length + m.label.length + m.gap.length
        + m.number.length + m.tail.length + 1 + m.title.length + 1 := by
    rw [m.length_text, Marking.titleAt, Marking.numberAt]
    omega
  rw [hend]
  refine prefers_literal hrest m.spelled_alike ?_
  refine .seq (prefers_char rfl (by decide)) ?_
  -- blanks end where the word starts, or where the number does if there is no word
  refine .seq (prefers_blanks rfl m.lead_blank (m.head_label hword)) ?_
  rcases word with _ | ⟨x, word⟩
  · have hlabel : m.label = [] := List.forall₂_nil_right_iff.1 m.label_alike
    rw [hlabel, m.gap_of_no_word rfl]
    exact prefers_numberAndTitle m rfl
  · refine prefers_literal rfl m.label_alike ?_
    refine .seq (prefers_blanks rfl m.gap_blank m.head_fromNumber) ?_
    exact prefers_numberAndTitle m rfl

theorem readsOnly_blanks : blanks.ReadsOnly fun t => ∀ c ∈ t, isBlank c = true :=
  readsOnly_again.imp fun t h => by
    simpa [ClassItem.holds, CharKind.holds, isBlank_smallLetter] using h.1

theorem readsOnly_digits :
    digits.ReadsOnly fun t => t ≠ [] ∧ ∀ c ∈ t, isDecimalDigit c = true :=
  readsOnly_again.imp fun t h => ⟨List.ne_nil_of_length_pos h.2, by
    simpa [ClassItem.holds, CharKind.holds, isDecimalDigit_smallLetter] using h.1⟩

theorem readsOnly_titleText : titleText.ReadsOnly fun t => '\x7d' ∉ t :=
  readsOnly_again.imp fun t h hbrace => by
    have := h.1 _ hbrace
    simp [ClassItem.holds, alikeButCase] at this

theorem readsOnly_mark {x : Char} (hx : x ∈ ['\x7b', ':', '\x7d']) :
    (char true x).ReadsOnly (· = [x]) :=
  (readsOnly_char true x).imp fun t ⟨_, hc, ht⟩ => by
    rw [ht, (uncased_of_mem_marks hx).eq_of_alike hc]

theorem readsOnly_numberAndTitle : numberAndTitle.ReadsOnly fun t =>
    ∃ number tail title, (number ≠ [] ∧ ∀ c ∈ number, isDecimalDigit c = true)
      ∧ (∀ c ∈ tail, isBlank c = true) ∧ '\x7d' ∉ title
      ∧ t = number ++ (tail ++ ':' :: (title ++ ['\x7d'])) := by
  refine ((readsOnly_digits.group 1).seq <| readsOnly_blanks.seq <|
    (readsOnly_mark (by simp)).seq <| (readsOnly_titleText.group 2).seq <|
    readsOnly_mark (by simp)).imp ?_
  rintro _ ⟨number, _, hnumber, ⟨tail, _, htail, ⟨_, _, rfl, ⟨title, _, htitle, rfl, rfl⟩, rfl⟩,
    rfl⟩, rfl⟩
  exact ⟨number, tail, title, hnumber, htail, htitle, rfl⟩

/-- What stands between a marking's first blanks and its number. -/
theorem readsOnly_wordAndNumber {p : Pattern} {P : Text → Prop} (hp : p.ReadsOnly P) (word : Text) :
    ReadsOnly (fun t => ∃ label gap u, AlikeTexts label word ∧ (∀ c ∈ gap, isBlank c = true)
      ∧ (word = [] → gap = []) ∧ P u ∧ t = label ++ (gap ++ u))
      (if word.isEmpty then p else literal true word (seq blanks p)) := by
  rcases word with _ | ⟨x, word⟩
  · exact hp.imp fun t ht => ⟨[], [], t, .nil, by simp, fun _ => rfl, ht, rfl⟩
  · refine ((readsOnly_blanks.seq hp).literal (x :: word)).imp ?_
    rintro _ ⟨label, _, hlabel, ⟨gap, u, hgap, hu, rfl⟩, rfl⟩
    exact ⟨label, gap, u, hlabel, hgap, fun h => absurd h (List.cons_ne_nil _ _), hu, rfl⟩

/-- A built marker reads nothing but markings. -/
theorem readsOnly_build (command word : Text) :
    (build command word).pattern.ReadsOnly fun t => ∃ m : Marking command word, t = m.text := by
  have hbehind := readsOnly_wordAndNumber readsOnly_numberAndTitle word
  -- what the parts of the pattern read are the parts of a marking
  refine (((readsOnly_mark (by simp)).seq (readsOnly_blanks.seq hbehind)).literal
    command).imp ?_
  rintro _ ⟨spelled, _, hspelled, ⟨_, _, rfl, ⟨lead, _, hlead, ⟨label, gap, _, hlabel, hgap, hnone,
    ⟨number, tail, title, ⟨hne, hdigits⟩, htail, htitle, rfl⟩, rfl⟩, rfl⟩, rfl⟩, rfl⟩
  exact ⟨⟨spelled, lead, label, gap, number, tail, title, hspelled, hlead, hlabel, hgap, hnone, hne,
    hdigits, htail, htitle⟩, rfl⟩

end Marker

end ExerciseSheet

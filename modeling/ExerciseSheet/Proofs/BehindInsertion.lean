import ExerciseSheet.Proofs.Landing

/-!
# The mode behind an insertion

A snippet without delimiters changes nothing that is open (`opens_readAll`), and its wrapping closes
what it opens, so reading a wrapped snippet leaves a mode that goes on as the one before it did
(`goesOnLike_readAll_wrap`). Modes that go on alike are told apart by no text read after them, and
what stands behind the caret lies in math exactly when it would without the insertion
(`isInMath_behind_insertion`).
-/

namespace ExerciseSheet

/-- A text that opens and closes no math by itself. -/
structure Text.Plain (t : Text) : Prop where
  no_dollar : '$' ∉ t
  no_opening : ¬ ['\\', '['] <:+: t
  no_closing : ¬ ['\\', ']'] <:+: t

theorem Text.Plain.tail {c : Char} {t : Text} (h : Text.Plain (c :: t)) : Text.Plain t where
  no_dollar := fun hd => h.no_dollar (List.mem_cons_of_mem _ hd)
  no_opening := fun ho => h.no_opening (ho.trans (List.suffix_cons c t).isInfix)
  no_closing := fun hc => h.no_closing (hc.trans (List.suffix_cons c t).isInfix)

namespace Mode

/-- The two modes have the same math open and stand both or neither behind a backslash. -/
def GoesOnLike (m n : Mode) : Prop :=
  m.inInline = n.inInline ∧ m.inBlock = n.inBlock ∧ (m.last = some '\\' ↔ n.last = some '\\')

variable {m n : Mode}

theorem GoesOnLike.read (h : m.GoesOnLike n) (c : Char) : (m.read c).GoesOnLike (n.read c) := by
  obtain ⟨hi, hb, hl⟩ := h
  have hlast : (m.read c).last = some '\\' ↔ (n.read c).last = some '\\' := by
    rw [last_read, last_read]
  by_cases hm : m.last = some '\\'
  · have hn := hl.1 hm
    unfold Mode.read at hlast ⊢
    rw [if_pos hm, if_pos hn] at hlast ⊢
    split_ifs at hlast ⊢
    · exact ⟨rfl, rfl, hlast⟩
    · exact ⟨hi, rfl, hlast⟩
    · exact ⟨hi, hb, hlast⟩
  · have hn := mt hl.2 hm
    unfold Mode.read at hlast ⊢
    rw [if_neg hm, if_neg hn] at hlast ⊢
    exact ⟨by simp only [hi], hb, hlast⟩

theorem GoesOnLike.readAll : ∀ {m n : Mode}, m.GoesOnLike n → ∀ t : Text,
    (m.readAll t).GoesOnLike (n.readAll t)
  | _, _, h, [] => h
  | _, _, h, c :: t => (h.read c).readAll t

theorem GoesOnLike.inMath (h : m.GoesOnLike n) : m.inMath = n.inMath := by
  rw [Mode.inMath, Mode.inMath, h.1, h.2.1]

/-- A plain text keeps what is open, unless it starts with the bracket of a marker. -/
theorem opens_readAll : ∀ {m : Mode} {t : Text}, t.Plain →
    (m.last = some '\\' → t.head? ≠ some '[' ∧ t.head? ≠ some ']') →
    (m.readAll t).inInline = m.inInline ∧ (m.readAll t).inBlock = m.inBlock
  | m, [], _, _ => ⟨rfl, rfl⟩
  | m, c :: t, ht, hm => by
    have hread : (m.read c).inInline = m.inInline ∧ (m.read c).inBlock = m.inBlock := by
      unfold Mode.read
      split_ifs with hl ho hc hd
      · exact absurd (congrArg some ho) (hm hl).1
      · exact absurd (congrArg some hc) (hm hl).2
      · exact ⟨rfl, rfl⟩
      · exact absurd (hd ▸ List.mem_cons_self) ht.no_dollar
      · exact ⟨rfl, rfl⟩
    have hnext : (m.read c).last = some '\\' → t.head? ≠ some '[' ∧ t.head? ≠ some ']' := by
      intro hl
      rw [last_read, Option.some.injEq] at hl
      subst hl
      rcases t with _ | ⟨d, t⟩
      · simp
      · -- a bracket here would make a marker of the two characters
        have hpair : ['\\', d] <:+: '\\' :: d :: t := ⟨[], t, rfl⟩
        simp only [List.head?_cons, ne_eq, Option.some.injEq]
        refine ⟨?_, ?_⟩
        · rintro rfl
          exact ht.no_opening hpair
        · rintro rfl
          exact ht.no_closing hpair
    obtain ⟨hi, hb⟩ := opens_readAll ht.tail hnext
    rw [readAll_cons, hi, hb]
    exact hread

variable {snippet : Text}

theorem last_readAll_ne (hm : m.last ≠ some '\\') (hs : snippet.getLast? ≠ some '\\') :
    (m.readAll snippet).last ≠ some '\\' := by
  rw [last_readAll]
  rcases h : snippet.getLast? with _ | c
  · exact hm
  · rw [h] at hs
    exact hs

theorem readAll_opening_inline (h : m.last ≠ some '\\') :
    m.readAll WrapStyle.inline.opening = ⟨!m.inInline, m.inBlock, some '$'⟩ := by
  rw [WrapStyle.opening_inline, readAll_cons, read_dollar, if_neg h]
  rfl

theorem readAll_closing_inline (h : m.last ≠ some '\\') :
    m.readAll WrapStyle.inline.closing = ⟨!m.inInline, m.inBlock, some '$'⟩ :=
  readAll_opening_inline h

theorem readAll_opening_block (m : Mode) :
    m.readAll WrapStyle.block.opening = ⟨false, true, some ' '⟩ := by
  simp [WrapStyle.opening_block, readAll, read]

theorem readAll_closing_block (h : m.inInline = false) :
    m.readAll WrapStyle.block.closing = ⟨false, false, some ']'⟩ := by
  simp [WrapStyle.closing_block, readAll, read, h]

/-- Reading a plain snippet in its wrapping goes on as without it; display math is opened only where
no math is open. -/
theorem goesOnLike_readAll_wrap (s : WrapStyle) (hm : m.last ≠ some '\\')
    (hblock : s = .block → m.inMath = false) (hs : snippet.Plain)
    (hlast : snippet.getLast? ≠ some '\\') : (m.readAll (s.wrap snippet)).GoesOnLike m := by
  have hdollar : (some '$' : Option Char) ≠ some '\\' := by decide
  rw [WrapStyle.wrap, readAll_append, readAll_append]
  cases s with
  | none =>
    obtain ⟨hi, hb⟩ := opens_readAll (m := m) hs fun h => absurd h hm
    exact ⟨hi, hb, iff_of_false (last_readAll_ne (m := m) hm hlast) hm⟩
  | inline =>
    rw [readAll_opening_inline hm]
    obtain ⟨hi, hb⟩ := opens_readAll (m := ⟨!m.inInline, m.inBlock, some '$'⟩) hs
      fun h => absurd h hdollar
    rw [readAll_closing_inline (last_readAll_ne hdollar hlast), hi, hb]
    exact ⟨Bool.not_not _, rfl, iff_of_false hdollar hm⟩
  | block =>
    obtain ⟨hi, -⟩ := opens_readAll (m := ⟨false, true, some ' '⟩) hs fun h => absurd h (by decide)
    obtain ⟨hmi, hmb⟩ : m.inInline = false ∧ m.inBlock = false := by
      simpa [Mode.inMath] using hblock rfl
    rw [readAll_opening_block, readAll_closing_block hi]
    exact ⟨hmi.symm, hmb.symm, iff_of_false (by decide) hm⟩

end Mode

theorem not_inMath_of_wrapFor {e : Entry} {inMath : Bool} {document : Text} {trigger caret : Int}
    (h : wrapFor e inMath document trigger caret = .block) : inMath = false := by
  cases inMath with
  | false => rfl
  | true =>
    rw [wrapFor_of_inMath] at h
    cases h

namespace InsertionPlan

/-- What stands behind the caret lies in math after the insertion exactly when it does after a mere
deletion of the text from the trigger up to the caret. -/
theorem isInMath_behind_insertion (e : Entry) (document : Text) (trigger caret k : Nat)
    (htc : trigger ≤ caret) (hc : caret ≤ document.length)
    (hb : (document.take trigger).getLast? ≠ some '\\') (hid : e.id.Plain)
    (hlast : e.id.getLast? ≠ some '\\') :
    let plan := InsertionPlan.of e document trigger caret
    isInMath (plan.apply document) (trigger + plan.text.length + k : Nat)
      = isInMath (document.take trigger ++ document.drop caret) (trigger + k : Nat) := by
  intro plan
  have htrigger : (document.take trigger).length = trigger := List.length_take_of_le (by omega)
  have hopen : plan.wrap = .block → (Mode.after (document.take trigger)).inMath = false := by
    intro h
    have := not_inMath_of_wrapFor h
    rwa [isInMath_eq, Int.toNat_natCast] at this
  have hlike := Mode.goesOnLike_readAll_wrap plan.wrap (by rwa [Mode.last_after]) hopen hid hlast
  have happly : plan.apply document
      = document.take trigger ++ plan.text ++ document.drop caret := by
    rw [show plan = given _ e document trigger caret from rfl, apply_given, given_text,
      Nat.max_eq_left htc]
  have hwith : (plan.apply document).take (trigger + plan.text.length + k)
      = document.take trigger ++ plan.text ++ (document.drop caret).take k := by
    have h : (document.take trigger ++ plan.text).length = trigger + plan.text.length := by
      rw [List.length_append, htrigger]
    rw [happly, ← h, List.take_length_add_append]
  have hwithout : (document.take trigger ++ document.drop caret).take (trigger + k)
      = document.take trigger ++ (document.drop caret).take k := by
    have h := @List.take_length_add_append _ (document.take trigger) (document.drop caret) k
    rwa [htrigger] at h
  rw [isInMath_eq, isInMath_eq, Int.toNat_natCast, Int.toNat_natCast, hwith, hwithout,
    Mode.after_append, Mode.after_append, Mode.after_append]
  exact (hlike.readAll _).inMath

theorem isInMath_behind_infinity :
    2 ≤ 4 ∧ 4 ≤ ['a', ' ', '/', 'i', '$', 'x'].length
      ∧ (['a', ' ', '/', 'i', '$', 'x'].take 2).getLast? ≠ some '\\'
      ∧ infinity.id.Plain ∧ infinity.id.getLast? ≠ some '\\'
      ∧ isInMath ((InsertionPlan.of infinity ['a', ' ', '/', 'i', '$', 'x'] 2 4).apply
          ['a', ' ', '/', 'i', '$', 'x'])
        (2 + (InsertionPlan.of infinity ['a', ' ', '/', 'i', '$', 'x'] 2 4).text.length + 2 : Nat)
        = true := by
  have hplain : infinity.id.Plain := ⟨by decide, by decide, by decide⟩
  refine ⟨by decide, by decide, by decide, hplain, by decide, ?_⟩
  have h := isInMath_behind_insertion infinity ['a', ' ', '/', 'i', '$', 'x'] 2 4 2 (by decide)
    (by decide) (by decide) hplain (by decide)
  exact h.trans (by decide)

end InsertionPlan

end ExerciseSheet

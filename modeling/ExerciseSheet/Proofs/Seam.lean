import ExerciseSheet.Proofs.Occurrence

/-!
# Occurrences across a seam

A search stops at the first occurrence (`not_infix_head_of_cutAt?`). No occurrence of `pat` crosses
the seam between two texts when the second one opens with a character that `pat` has nowhere but in
front (`cutAt?_append_bar`). A text that opens like this and in which `pat` never begins, whatever
follows, is `Apart` from it: the search for `pat` steps over it (`cutAt?_over_apart`).
-/

namespace ExerciseSheet

variable {pat s t r : Text}

section First

theorem not_infix_head_of_cutAt? (hpat : pat ≠ []) : ∀ {t head tail : Text},
    Text.cutAt? pat t = some (head, tail) → ¬ pat <:+: head
  | [], head, tail, h => by
    have ht : [] = head ++ pat ++ tail := cutAt?_eq_some h
    simp [hpat] at ht
  | c :: t, head, tail, h => by
    have ht : c :: t = head ++ pat ++ tail := cutAt?_eq_some h
    unfold Text.cutAt? at h
    split_ifs at h with hp
    · obtain ⟨rfl, -⟩ : [] = head ∧ _ := by simpa using h
      simpa using hpat
    · obtain ⟨⟨head', tail'⟩, hcut, heq⟩ := Option.map_eq_some_iff.1 h
      obtain ⟨rfl, rfl⟩ : c :: head' = head ∧ tail' = tail := by simpa using heq
      rw [List.infix_cons_iff, not_or]
      refine ⟨fun hhead => hp ?_, not_infix_head_of_cutAt? hpat hcut⟩
      rw [ht, List.append_assoc]
      exact List.isPrefixOf_iff_prefix.2 (hhead.trans (List.prefix_append _ _))

/-- What follows a text does not move the first occurrence in it. -/
theorem cutAt?_append_of_some (hpat : pat ≠ []) (r : Text) : ∀ {t head tail : Text},
    Text.cutAt? pat t = some (head, tail) → Text.cutAt? pat (t ++ r) = some (head, tail ++ r)
  | [], head, tail, h => by
    have ht : [] = head ++ pat ++ tail := cutAt?_eq_some h
    simp [hpat] at ht
  | c :: t, head, tail, h => by
    unfold Text.cutAt? at h
    rw [List.cons_append, Text.cutAt?]
    split_ifs at h with hp
    · obtain ⟨rfl, rfl⟩ : [] = head ∧ (c :: t).drop pat.length = tail := by simpa using h
      have hstarts : pat <+: c :: t := List.isPrefixOf_iff_prefix.1 hp
      have hlong : pat <+: c :: (t ++ r) := hstarts.trans (List.prefix_append (c :: t) r)
      rw [if_pos (List.isPrefixOf_iff_prefix.2 hlong), ← List.cons_append,
        List.drop_append_of_le_length hstarts.length_le]
    · obtain ⟨⟨head', tail'⟩, hcut, heq⟩ := Option.map_eq_some_iff.1 h
      obtain ⟨rfl, rfl⟩ : c :: head' = head ∧ tail' = tail := by simpa using heq
      have hle : pat.length ≤ (c :: t).length := by
        rw [List.length_cons, cutAt?_eq_some hcut]
        simp only [List.length_append]
        omega
      have hlong : ¬ pat.isPrefixOf (c :: (t ++ r)) = true := fun h =>
        hp (List.isPrefixOf_iff_prefix.2 (List.prefix_of_prefix_length_le
          (List.isPrefixOf_iff_prefix.1 h) (List.prefix_append (c :: t) r) hle))
      rw [if_neg hlong, cutAt?_append_of_some hpat r hcut]
      rfl

end First

section Count

theorem countFrom_eq_count_drop : ∀ (k : Nat) (t : Text),
    Text.countFrom pat k t = Text.count pat (t.drop k)
  | 0, _ => rfl
  | _ + 1, [] => rfl
  | k + 1, _ :: t => countFrom_eq_count_drop k t

/-- The occurrences are the first one and those in what follows it. -/
theorem count_eq (hpat : pat ≠ []) : ∀ t : Text, Text.count pat t =
    match Text.cutAt? pat t with
    | none => 0
    | some (_, tail) => 1 + Text.count pat tail
  | [] => by
    have hcut : Text.cutAt? pat [] = none := by simp [Text.cutAt?, hpat]
    rw [hcut]
    rfl
  | c :: t => by
    have hlength : pat.length = pat.length - 1 + 1 := by
      have := List.length_pos_of_ne_nil hpat
      omega
    have hdrop : (c :: t).drop pat.length = t.drop (pat.length - 1) :=
      congrArg (List.drop · (c :: t)) hlength
    rw [Text.count, Text.countFrom, Text.cutAt?, hdrop, countFrom_eq_count_drop,
      countFrom_eq_count_drop, List.drop_zero, count_eq hpat t]
    split_ifs
    · rfl
    · rcases Text.cutAt? pat t with _ | ⟨head, tail⟩ <;> rfl

theorem count_eq_zero_iff (hpat : pat ≠ []) : Text.count pat t = 0 ↔ ¬ pat <:+: t := by
  rw [count_eq hpat, ← cutAt?_eq_none_iff]
  rcases Text.cutAt? pat t with _ | ⟨head, tail⟩ <;> simp

theorem has_iff_count_ne_zero (hpat : pat ≠ []) :
    Text.has pat t = true ↔ Text.count pat t ≠ 0 := by
  rw [has_iff, ne_eq, count_eq_zero_iff hpat, not_not]

theorem count_eq_one_iff (hpat : pat ≠ []) : Text.count pat t = 1 ↔
    ∃ head tail, Text.cutAt? pat t = some (head, tail) ∧ ¬ pat <:+: tail := by
  rw [count_eq hpat]
  rcases Text.cutAt? pat t with _ | ⟨head, tail⟩
  · simp
  · simp [count_eq_zero_iff hpat]

end Count

section Seam

/-- The text opens with a character that `pat` has nowhere but in front. -/
def Barred (pat s : Text) : Prop := ∃ c, s.head? = some c ∧ c ∉ pat.tail

instance : Decidable (Barred pat s) :=
  match s with
  | [] => .isFalse fun ⟨_, h, _⟩ => nomatch h
  | c :: _ => decidable_of_iff (c ∉ pat.tail) ⟨fun h => ⟨c, rfl, h⟩, fun ⟨_, rfl, h⟩ => h⟩

/-- Wherever in the text a search stands, `pat` does not begin there, whatever follows the text. -/
def Passes (pat s : Text) : Prop :=
  ∀ r, Text.cutAt? pat (s ++ r) = (Text.cutAt? pat r).map (Prod.map (s ++ ·) id)

/-- No occurrence of `pat` shares a character with the text, whatever stands around it. -/
structure Apart (pat s : Text) : Prop where
  barred : Barred pat s
  passes : Passes pat s

/-- An occurrence that begins before a bar ends before it. -/
theorem not_prefix_of_barred {c : Char} (hbar : Barred pat s) (h : ¬ pat <+: c :: t) :
    ¬ pat <+: c :: (t ++ (s ++ r)) := by
  obtain ⟨x, hx, hnot⟩ := hbar
  intro hlong
  obtain ⟨d, pat', rfl⟩ : ∃ d pat', pat = d :: pat' :=
    List.exists_cons_of_ne_nil fun hnil => h (hnil ▸ List.nil_prefix)
  obtain ⟨rfl, htail⟩ := List.cons_prefix_cons.1 hlong
  rcases Nat.lt_or_ge t.length pat'.length with hlt | hge
  · -- the pattern reaches the bar, so the bar is in its tail
    refine hnot (List.mem_of_getElem? (i := t.length) ?_)
    obtain ⟨tail, htail⟩ := htail
    rw [List.tail_cons, ← List.getElem?_append_left hlt, htail,
      List.getElem?_append_right (Nat.le_refl _), Nat.sub_self, ← List.head?_eq_getElem?,
      List.head?_append, hx, Option.some_or]
  · exact h (List.cons_prefix_cons.2
      ⟨rfl, List.prefix_of_prefix_length_le htail (List.prefix_append _ _) hge⟩)

/-- A search that finds nothing before a bar goes on at the bar. -/
theorem cutAt?_append_bar (hbar : Barred pat s) : ∀ {t : Text}, ¬ pat <:+: t →
    Text.cutAt? pat (t ++ (s ++ r)) = (Text.cutAt? pat (s ++ r)).map (Prod.map (t ++ ·) id)
  | [], _ => by
    rw [List.nil_append, show Prod.map (([] : Text) ++ ·) id = id from rfl, Option.map_id, id]
  | c :: t, h => by
    rw [List.infix_cons_iff, not_or] at h
    have hnot := mt List.isPrefixOf_iff_prefix.1 (not_prefix_of_barred (r := r) hbar h.1)
    rw [List.cons_append, Text.cutAt?, if_neg hnot, cutAt?_append_bar hbar h.2, Option.map_map]
    rfl

theorem passes_nil : Passes pat [] := fun r => by
  rw [List.nil_append, show Prod.map (([] : Text) ++ ·) id = id from rfl, Option.map_id, id]

theorem Passes.cons {c : Char} (hs : Passes pat s) (h : ∀ r, ¬ pat <+: c :: (s ++ r)) :
    Passes pat (c :: s) := fun r => by
  have hnot := mt List.isPrefixOf_iff_prefix.1 (h r)
  rw [List.cons_append, Text.cutAt?, if_neg hnot, hs r, Option.map_map]
  rfl

theorem Passes.append (hs : Passes pat s) (ht : Passes pat t) : Passes pat (s ++ t) := fun r => by
  rw [List.append_assoc, hs, ht, Option.map_map]
  congr 1
  funext p
  simp [Prod.map]

/-- A text without the first character of `pat` is passed. -/
theorem passes_of_head_not_mem {x : Char} : ∀ {s : Text}, x ∉ s → Passes (x :: pat) s
  | [], _ => passes_nil
  | c :: s, h => by
    have hc : x ≠ c := fun heq => h (heq ▸ List.mem_cons_self)
    refine Passes.cons (passes_of_head_not_mem fun hs => h (List.mem_cons_of_mem _ hs)) fun r => ?_
    rw [List.cons_prefix_cons]
    exact fun hp => hc hp.1

theorem cutAt?_over_apart (hs : Apart pat s) (ht : ¬ pat <:+: t) :
    Text.cutAt? pat (t ++ (s ++ r)) = (Text.cutAt? pat r).map (Prod.map (t ++ s ++ ·) id) := by
  rw [cutAt?_append_bar hs.barred ht, hs.passes, Option.map_map]
  congr 1
  funext p
  simp [Prod.map]

/-- Between two texts that it has no part in, a pattern is found where it is in the text alone. -/
theorem find?_between {opening closing : Text} (hpat : pat ≠ []) (hopening : Passes pat opening)
    (hclosing : Apart pat closing) (t : Text) :
    Text.find? pat (opening ++ t ++ closing) = (Text.find? pat t).map (opening.length + ·) := by
  unfold Text.find?
  rw [List.append_assoc, hopening]
  rcases hcut : Text.cutAt? pat t with _ | ⟨head, tail⟩
  · have hnil : Text.cutAt? pat [] = none := cutAt?_eq_none_iff.2 (by simpa using hpat)
    rw [← List.append_nil closing, cutAt?_over_apart hclosing (cutAt?_eq_none_iff.1 hcut), hnil]
    rfl
  · rw [cutAt?_append_of_some hpat closing hcut]
    simp

/-- A pattern whose first character does not come back in it is found where it is put. -/
theorem cutAt?_at_own (hown : Barred pat pat) (ht : ¬ pat <:+: t) :
    Text.cutAt? pat (t ++ (pat ++ r)) = some (t, r) := by
  have hfront : Text.cutAt? pat (pat ++ r) = some ([], r) := by
    obtain ⟨x, hx, -⟩ := hown
    obtain ⟨pat', rfl⟩ := List.head?_eq_some_iff.1 hx
    have hstarts : (x :: pat').isPrefixOf (x :: (pat' ++ r)) = true :=
      List.isPrefixOf_iff_prefix.2 (List.prefix_append (x :: pat') r)
    rw [List.cons_append, Text.cutAt?, if_pos hstarts, ← List.cons_append, List.drop_left]
  rw [cutAt?_append_bar hown ht, hfront]
  simp

end Seam

end ExerciseSheet

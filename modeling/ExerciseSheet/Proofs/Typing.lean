import ExerciseSheet.Proofs.Editing

/-!
# Typing

A typed character is no key, so an open palette lets it through and a closed one opens at most
(`press_of_char`). Typing therefore puts the text in at the caret, whatever the palette shows, and
can be broken off and resumed anywhere (`type_puts_in`). What is typed behind the trigger is the
query until it has a line feed or two blanks in a row; the shortest stretch of it that has them
closes the palette, and the rest is typed past a closed one (`type_behind_trigger`).
-/

namespace ExerciseSheet

theorem Press.not_actsAs_char (c : Char) (k : Key) : ¬ (Press.text [c]).actsAs k = true := by
  intro h
  have hlen := k.one_lt_length_name
  rw [← (beq_iff_eq.1 h : [c] = k.name)] at hlen
  exact absurd hlen (Nat.lt_irrefl 1)

theorem Press.not_commits_char (c : Char) : ¬ (Press.text [c]).commits = true := fun h =>
  ((Bool.or_eq_true _ _).mp h).elim (not_actsAs_char c .enter) (not_actsAs_char c .tab)

namespace Palette

variable {p : Palette} {s : Session} {c : Char} {document : Text} {caret : Nat}

/-- The palette after a character is typed: it opens on its trigger if it was closed. -/
def heard (p : Palette) (c : Char) (caret : Nat) : Palette :=
  match p.session with
  | none => if [c] = p.trigger then p.openAt caret else p
  | some _ => p

/-- A typed character is let through. -/
theorem press_of_char (p : Palette) (c : Char) (document : Text) (caret : Nat) :
    p.press (.text [c]) document caret = (p.heard c caret).pass := by
  unfold heard
  obtain ⟨hs, hp⟩ | ⟨s, hs, ⟨hk, -⟩ | ⟨_, hk, -⟩ | ⟨hk, -⟩ | ⟨hk, -⟩ | ⟨-, hp⟩⟩ :=
    p.press_cases (.text [c]) document caret
  · rw [hp, hs]
    exact (apply_ite pass _ _ _).symm
  · exact absurd hk (Press.not_actsAs_char c _)
  · rcases hk with ⟨-, hk⟩ | ⟨-, hk⟩ <;> exact absurd hk (Press.not_actsAs_char c _)
  · exact absurd hk (Press.not_commits_char c)
  · exact absurd hk (Press.not_actsAs_char c _)
  · rw [hp, hs]

end Palette

namespace Buffer

variable {b : Buffer} {c : Char}

/-- A typed character is put in at the caret, whatever the palette shows. -/
theorem press_of_char (b : Buffer) (c : Char) :
    b.press (.text [c]) = { b with palette := b.palette.heard c b.caret }.insert [c] := by
  rw [press_of_passed (b.palette.press_of_char c b.text b.caret) rfl rfl, applyPress,
    if_neg (Press.not_actsAs_char c _)]
  rfl

theorem type_cons (b : Buffer) (c : Char) (t : Text) :
    (b.type (c :: t)).buffer = ((b.press (.text [c])).buffer.type t).buffer := rfl

theorem type_append : ∀ (t u : Text) (b : Buffer),
    (b.type (t ++ u)).buffer = ((b.type t).buffer.type u).buffer
  | [], _, _ => rfl
  | _ :: t, u, _ => type_append t u _

theorem insert_text (b : Buffer) (t : Text) :
    (b.insert t).buffer.text = b.text.take b.caret ++ t ++ b.text.drop b.caret :=
  splice_natCast _ _ _ _

theorem insert_caret (b : Buffer) (t : Text) :
    (b.insert t).buffer.caret = b.caret + t.length := rfl

/-- What stands around the caret when a text has been put in before it. -/
theorem take_drop_put_in (t u : Text) (n : Nat) :
    (t.take n ++ u ++ t.drop n).take (n + u.length) = t.take n ++ u
      ∧ (t.take n ++ u ++ t.drop n).drop (n + u.length) = t.drop n := by
  rcases Nat.le_total n t.length with h | h
  · have hlen : (t.take n ++ u).length = n + u.length := by simp [h]
    exact ⟨List.take_left' hlen, List.drop_left' hlen⟩
  · have hlen : (t.take n ++ u).length ≤ n + u.length := by
      rw [List.length_append]
      exact Nat.add_le_add_right (List.length_take_le n t) _
    simp only [List.drop_of_length_le h, List.append_nil]
    exact ⟨List.take_of_length_le hlen, List.drop_of_length_le hlen⟩

theorem type_text_caret : ∀ (t : Text) (b : Buffer),
    (b.type t).buffer.text = b.text.take b.caret ++ t ++ b.text.drop b.caret
      ∧ (b.type t).buffer.caret = b.caret + t.length
  | [], b => by simp [type]
  | c :: t, b => by
    obtain ⟨htext, hcaret⟩ := type_text_caret t (b.press (.text [c])).buffer
    obtain ⟨htake, hdrop⟩ := take_drop_put_in b.text [c] b.caret
    rw [type_cons, htext, hcaret, press_of_char, insert_text, insert_caret, htake, hdrop]
    simp; omega

/-- In every state, whatever the palette shows and whatever its trigger is, typing puts the text in
at the caret and leaves the caret behind it. So a text typed in two parts leaves the same text,
caret and palette as typed at once. -/
theorem type_puts_in (b : Buffer) (t u : Text) :
    (b.type t).buffer.text = b.text.take b.caret ++ t ++ b.text.drop b.caret
      ∧ (b.type t).buffer.caret = b.caret + t.length
      ∧ (b.type (t ++ u)).buffer = ((b.type t).buffer.type u).buffer :=
  ⟨(type_text_caret t b).1, (type_text_caret t b).2, type_append t u b⟩

end Buffer

section Query

variable {q w : Text} {x : Char}

/-- A text with a line feed or two blanks in a row is no query. -/
def EndsQuery (q : Text) : Prop :=
  '\n' ∈ q ∨ ∃ x y, [x, y] <:+: q ∧ isBlank x = true ∧ isBlank y = true

/-- The shortest part of `q` from its start on that is no query. -/
def FirstEnd (w q : Text) : Prop :=
  w <+: q ∧ EndsQuery w ∧ ∀ v, v <+: q → EndsQuery v → w.length ≤ v.length

theorem endsQuery_iff : EndsQuery q ↔ '\n' ∈ q ∨ q.hasBlankRun = true := by
  rw [EndsQuery, hasBlankRun_iff]

theorem not_endsQuery_nil : ¬ EndsQuery [] := by
  simp [endsQuery_iff, Text.hasBlankRun]

theorem EndsQuery.of_prefix (h : EndsQuery w) (hw : w <+: q) : EndsQuery q := by
  rcases h with h | ⟨x, y, h, hx, hy⟩
  · exact .inl (hw.subset h)
  · exact .inr ⟨x, y, h.trans hw.isInfix, hx, hy⟩

/-- What ends a query ends every query that goes on from there. -/
theorem FirstEnd.append (h : FirstEnd w q) (t : Text) : FirstEnd w (q ++ t) := by
  obtain ⟨hw, hends, hleast⟩ := h
  refine ⟨hw.trans (List.prefix_append q t), hends, fun v hv hvends => ?_⟩
  rcases List.prefix_or_prefix_of_prefix hv (List.prefix_append q t) with hvq | hqv
  · exact hleast v hvq hvends
  · exact Nat.le_trans hw.length_le hqv.length_le

theorem firstEnd_append_singleton (hq : ¬ EndsQuery q) (h : EndsQuery (q ++ [x])) :
    FirstEnd (q ++ [x]) (q ++ [x]) := by
  refine ⟨List.prefix_rfl, h, fun v hv hvends => ?_⟩
  rcases List.prefix_concat_iff.1 hv with rfl | hvq
  · simp
  · exact absurd (hvends.of_prefix hvq) hq

/-- A line feed ends a query where it stands. -/
theorem FirstEnd.newline_iff (h : FirstEnd w q) : '\n' ∈ w ↔ w.getLast? = some '\n' := by
  refine ⟨fun hmem => ?_, List.mem_of_getLast?⟩
  obtain ⟨hw, -, hleast⟩ := h
  obtain ⟨v, r, rfl⟩ := List.append_of_mem hmem
  have hline : v ++ ['\n'] <+: v ++ '\n' :: r := ⟨r, by simp⟩
  have hle := hleast _ (hline.trans hw) (.inl (by simp))
  obtain rfl : r = [] := by simpa using hle
  simp

end Query

namespace Palette

variable {p : Palette} {c : Char} {q v before : Text}

/-- What a palette shows after `q` is typed behind a trigger at `t`: a session as it is opened, with
the query `q`, or why it closed. -/
structure Shows (p : Palette) (t : Nat) (q : Text) : Prop where
  session_eq : ¬ EndsQuery q → p.session = some ⟨t, q, rank q p.catalog.entries, 0⟩
  session_none : EndsQuery q → p.session = none
  lastClose_eq : EndsQuery q → ∃ w, FirstEnd w q
    ∧ p.lastClose = some (if w.getLast? = some '\n' then .newline else .blankRun)

theorem Shows.notifyEdit {t : Nat} (h : p.Shows t q) (position : Int) :
    (p.notifyEdit position).Shows t q :=
  ⟨h.session_eq, h.session_none, h.lastClose_eq⟩

theorem Shows.append {t : Nat} (h : p.Shows t q) (hq : EndsQuery q) (r : Text) :
    p.Shows t (q ++ r) := by
  obtain ⟨w, hw, hclose⟩ := h.lastClose_eq hq
  have hends : EndsQuery (q ++ r) := hq.of_prefix (List.prefix_append q r)
  exact ⟨absurd hends, fun _ => h.session_none hq, fun _ => ⟨w, hw.append r, hclose⟩⟩

theorem readQuery_behind_trigger {s : Session} (hs : s.trigger = before.length) (after : Text) :
    readQuery [c] s (before ++ c :: q ++ after) (before.length + (c :: q).length)
      = if '\n' ∈ q then .error .newline
        else if q.hasBlankRun then .error .blankRun else .ok q := by
  have hslice : (before ++ c :: q ++ after).slice (before.length + 1)
      (before.length + (c :: q).length) = q := by
    unfold Text.slice
    rw [List.take_left' (by simp), List.drop_append]
    simp
  have hget : (before ++ c :: q ++ after)[before.length]? = some c := by simp
  have hcaret : ¬ before.length + (c :: q).length < before.length := by omega
  unfold readQuery
  rw [hs, hget, List.length_singleton, hslice, if_neg hcaret]
  simp

/-- With the caret behind `q`, and `q` behind the trigger, a change has the palette show `q`, if no
shorter query had to end. -/
theorem textChanged_shows (hc : p.trigger = [c])
    (hs : p.session = some ⟨before.length, v, rank v p.catalog.entries, 0⟩)
    (hq : EndsQuery q → FirstEnd q q) (after : Text) :
    (p.textChanged (before ++ c :: q ++ after) (before.length + (c :: q).length)).Shows
      before.length q := by
  unfold textChanged
  simp only [hs, hc, readQuery_behind_trigger]
  by_cases hline : '\n' ∈ q
  · have hends : EndsQuery q := .inl hline
    simp only [if_pos hline]
    exact ⟨absurd hends, fun _ => rfl,
      fun _ => ⟨q, hq hends, by rw [if_pos ((hq hends).newline_iff.1 hline)]; rfl⟩⟩
  · simp only [if_neg hline]
    split_ifs with hrun
    · have hends : EndsQuery q := endsQuery_iff.2 (.inr hrun)
      exact ⟨absurd hends, fun _ => rfl,
        fun _ => ⟨q, hq hends, by rw [if_neg (mt (hq hends).newline_iff.2 hline)]; rfl⟩⟩
    · have hends : ¬ EndsQuery q := by simp [endsQuery_iff, hline, hrun]
      refine ⟨fun _ => ?_, fun h => absurd h hends, fun h => absurd h hends⟩
      simp only
      split_ifs with hsame
      · rw [hs, hsame]
      · rfl

end Palette

namespace Buffer

variable {b : Buffer} {catalog : Catalog} {c x : Char} {q before after : Text}

/-- `q` has been typed behind a trigger that was put in between `before` and `after`. -/
structure Typed (b : Buffer) (catalog : Catalog) (c : Char) (before q after : Text) : Prop where
  text_eq : b.text = before ++ c :: q ++ after
  caret_eq : b.caret = before.length + (c :: q).length
  lists : b.palette.Lists catalog [c]
  shows_query : b.palette.Shows before.length q

theorem insert_palette (b : Buffer) (t : Text) :
    (b.insert t).buffer.palette = (b.palette.notifyEdit b.caret).textChanged
      (b.text.take b.caret ++ t ++ b.text.drop b.caret) (b.caret + t.length) := by
  rw [← splice_natCast]
  rfl

/-- The trigger, typed into a closed palette, opens it with an empty query. -/
theorem typed_trigger (h : b.Inv catalog c) (hs : b.palette.session = none) :
    (b.press (.text [c])).buffer.Typed catalog c (b.text.take b.caret) []
      (b.text.drop b.caret) := by
  have hlen : (b.text.take b.caret).length = b.caret := List.length_take_of_le h.caret_le
  have hheard : b.palette.heard c b.caret = b.palette.openAt b.caret := by
    unfold Palette.heard
    rw [hs]
    exact if_pos h.lists.trigger_eq.symm
  have hlists : ((b.palette.openAt b.caret).notifyEdit b.caret).Lists catalog [c] :=
    (h.lists.openAt _).notifyEdit _
  rw [press_of_char, hheard]
  refine ⟨insert_text _ _, by rw [hlen]; rfl, ?_, ?_⟩
  · rw [insert_palette]
    exact hlists.textChanged _ _
  · have hshows := Palette.textChanged_shows (v := []) (q := []) hlists.trigger_eq
      (by rw [hlen]; rfl) (fun h => absurd h not_endsQuery_nil) (b.text.drop b.caret)
    rw [hlen] at hshows
    rw [insert_palette, hlen]
    exact hshows

/-- Another character goes on the query, or is typed past a closed palette. -/
theorem Typed.press (h : b.Typed catalog c before q after) (hx : x ≠ c) :
    (b.press (.text [x])).buffer.Typed catalog c before (q ++ [x]) after := by
  have htake : b.text.take b.caret = before ++ c :: q := by
    rw [h.text_eq, h.caret_eq, List.take_left' (by simp)]
  have hdrop : b.text.drop b.caret = after := by
    rw [h.text_eq, h.caret_eq, List.drop_left' (by simp)]
  have htext : before ++ c :: q ++ [x] ++ after = before ++ c :: (q ++ [x]) ++ after := by simp
  have hcaret : b.caret + [x].length = before.length + (c :: (q ++ [x])).length := by
    rw [h.caret_eq]
    simp; omega
  have hheard : b.palette.heard x b.caret = b.palette := by
    unfold Palette.heard
    rw [h.lists.trigger_eq]
    split
    · exact if_neg (by simpa using hx)
    · rfl
  have hpress : b.press (.text [x]) = b.insert [x] := by rw [press_of_char, hheard]
  have hlists : (b.palette.notifyEdit b.caret).Lists catalog [c] := h.lists.notifyEdit _
  rw [hpress]
  refine ⟨?_, hcaret, ?_, ?_⟩
  · rw [insert_text, htake, hdrop, htext]
  · rw [insert_palette]
    exact hlists.textChanged _ _
  · rw [insert_palette, htake, hdrop, htext, hcaret]
    by_cases hq : EndsQuery q
    · have hshows := h.shows_query.notifyEdit b.caret
      rw [Palette.textChanged_of_closed (hshows.session_none hq)]
      exact hshows.append hq [x]
    · exact Palette.textChanged_shows hlists.trigger_eq (h.shows_query.session_eq hq)
        (firstEnd_append_singleton hq) after

theorem Typed.type : ∀ {t q : Text} {b : Buffer}, b.Typed catalog c before q after → c ∉ t →
    (b.type t).buffer.Typed catalog c before (q ++ t) after
  | [], q, _, h, _ => by rwa [List.append_nil]
  | x :: t, q, _, h, ht => by
    rw [List.mem_cons, not_or] at ht
    rw [← List.singleton_append, ← List.append_assoc]
    exact (h.press (Ne.symm ht.1)).type ht.2

/-- The trigger and a text without another trigger, typed in any state of a run in which the palette
is closed. It is open afterwards exactly when the text is one line without two blanks in a row, and
then it shows the matches for that text from the first row on. Else the shortest part of the text
that is no query has closed it, for its line feed or for its blanks. -/
theorem type_behind_trigger (catalog : Catalog) (text : Text) (c : Char) (as : List Action)
    (b : Buffer) (hb : b ∈ (new catalog text [c]).states as) (hs : b.palette.session = none)
    (q : Text) (hq : c ∉ q) :
    let p := (b.type (c :: q)).buffer.palette
    (p.isOpen = true
        ↔ '\n' ∉ q ∧ ¬ ∃ x y, [x, y] <:+: q ∧ isBlank x = true ∧ isBlank y = true)
      ∧ (∀ s, p.session = some s → s = ⟨b.caret, q, rank q catalog.entries, 0⟩)
      ∧ (p.session = none → ∃ w, FirstEnd w q
        ∧ p.lastClose = some (if w.getLast? = some '\n' then .newline else .blankRun)) := by
  intro p
  have h := inv_of_mem_states hb
  have htyped : (b.type (c :: q)).buffer.Typed catalog c (b.text.take b.caret) q
      (b.text.drop b.caret) := (typed_trigger h hs).type hq
  have hshows : p.Shows b.caret q := by
    rw [← List.length_take_of_le h.caret_le]
    exact htyped.shows_query
  have hopen : ¬ EndsQuery q → p.session = some ⟨b.caret, q, rank q catalog.entries, 0⟩ := by
    rw [← htyped.lists.catalog_eq]
    exact hshows.session_eq
  rw [← not_or]
  by_cases hends : EndsQuery q
  · have hnone := hshows.session_none hends
    refine ⟨iff_of_false (by simp [Palette.isOpen, hnone]) fun hnot => hnot hends, ?_, ?_⟩
    · intro s hsome
      cases hnone.symm.trans hsome
    · exact fun _ => hshows.lastClose_eq hends
  · have hsome := hopen hends
    refine ⟨iff_of_true (by simp [Palette.isOpen, hsome]) hends, ?_, ?_⟩
    · intro s hs'
      exact Option.some.inj (hs'.symm.trans hsome)
    · intro hnone
      cases hnone.symm.trans hsome

theorem type_behind_trigger_of_two_blanks :
    ∃ b ∈ (new ⟨[infinity], by decide, by decide⟩ ['a', 'b'] ['/']).states [.move 1],
      b.palette.session = none ∧ '/' ∉ ['i', ' ', '\t', 'n']
        ∧ (b.type ['/', 'i', ' ', '\t', 'n']).buffer.palette.isOpen = false
        ∧ ∃ w, FirstEnd w ['i', ' ', '\t', 'n']
          ∧ (b.type ['/', 'i', ' ', '\t', 'n']).buffer.palette.lastClose
            = some (if w.getLast? = some '\n' then .newline else .blankRun) := by
  refine ⟨_, List.mem_cons_of_mem _ (List.mem_singleton.2 rfl), rfl, by decide, by decide, ?_⟩
  exact (type_behind_trigger ⟨[infinity], by decide, by decide⟩ ['a', 'b'] '/' [.move 1] _
    (List.mem_cons_of_mem _ (List.mem_singleton.2 rfl)) rfl ['i', ' ', '\t', 'n']
    (by decide)).2.2 (by decide)

end Buffer

end ExerciseSheet

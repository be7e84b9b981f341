import ExerciseSheet.Proofs.Decimal
import ExerciseSheet.Proofs.Exporting
import ExerciseSheet.Proofs.Seam
import Mathlib.Logic.Function.Basic

/-!
# The layout of a carrier

A valid carrier is texts with marks between them (`exists_laidOut`). Every replacement is made at
its own mark and leaves the rest (`replaceFirst_render`), because the texts hold no mark and what
stands at the other marks is apart from the one that is looked for. The content goes in last, so it
need not be apart from anything (`embed_renders_layout`).
-/

namespace ExerciseSheet

/-- A span of a carrier that is filled. -/
inductive Mark where
  | content
  | number
  | switch
  deriving DecidableEq, Repr

namespace Mark

/-- What an unfilled carrier has at the mark. -/
def place : Mark → Text
  | content => Carrier.contentPlace
  | number => Carrier.numberPlace
  | switch => Carrier.reviewOff

/-- What a carrier filled with a content and a sheet number has at the mark. -/
def filling (text sheet : Text) (review : Bool) : Mark → Text
  | content => text
  | number => Carrier.numberCommand sheet
  | switch => if review then Carrier.reviewOn else Carrier.reviewOff

/-- The marks, the one seen last in front. -/
def all : List Mark := [switch, content, number]

theorem mem_all (m : Mark) : m ∈ all := by
  cases m <;> decide

theorem place_ne_nil (m : Mark) : m.place ≠ [] := by
  cases m <;> exact List.cons_ne_nil _ _

end Mark

/-- Texts with a mark between neighbours. -/
inductive Layout where
  | last (t : Text)
  | before (t : Text) (m : Mark) (rest : Layout)
  deriving Repr

namespace Layout

/-- The text of a layout with `f m` at each mark `m`. -/
def render (f : Mark → Text) : Layout → Text
  | last t => t
  | before t m rest => t ++ (f m ++ rest.render f)

/-- The marks of a layout, in order. -/
def marks : Layout → List Mark
  | last _ => []
  | before _ m rest => m :: rest.marks

/-- The texts of a layout, in order. -/
def texts : Layout → List Text
  | last t => [t]
  | before t _ rest => t :: rest.texts

variable {f g : Mark → Text} {k : Mark} {new : Text}

theorem render_congr : ∀ {l : Layout}, (∀ m ∈ l.marks, f m = g m) → l.render f = l.render g
  | last _, _ => rfl
  | before t m rest, h => by
    have hrest : rest.render f = rest.render g :=
      render_congr fun m hm => h m (List.mem_cons_of_mem _ hm)
    rw [render, render, h m List.mem_cons_self, hrest]

theorem infix_render_of_mem_marks : ∀ {l : Layout}, k ∈ l.marks → f k <:+: l.render f
  | before t m rest, h => by
    rcases List.mem_cons.1 h with rfl | h
    · exact ⟨t, rest.render f, by rw [render, List.append_assoc]⟩
    · have hrest : f k <:+: rest.render f := infix_render_of_mem_marks h
      exact hrest.trans ⟨t ++ f m, [], by simp [render]⟩

theorem infix_render_of_mem_texts {t : Text} : ∀ {l : Layout}, t ∈ l.texts → t <:+: l.render f
  | last _, h => List.mem_singleton.1 h ▸ List.infix_refl _
  | before t' m rest, h => by
    rcases List.mem_cons.1 h with rfl | h
    · exact ⟨[], f m ++ rest.render f, by rw [render, List.nil_append]⟩
    · have hrest : t <:+: rest.render f := infix_render_of_mem_texts h
      exact hrest.trans ⟨t' ++ f m, [], by simp [render]⟩

/-- Where the only mark of a kind stands, and nowhere else, a replacement is made. -/
theorem replaceFirst_render (hown : Barred (f k) (f k)) : ∀ {l : Layout},
    (∀ t ∈ l.texts, ¬ f k <:+: t) → (∀ m ∈ l.marks, m ≠ k → Apart (f k) (f m)) →
    l.marks.count k ≤ 1 →
    Text.replaceFirst (f k) new (l.render f) = l.render (Function.update f k new)
  | last t, hfree, _, _ => by
    have hcut : Text.cutAt? (f k) t = none := cutAt?_eq_none_iff.2 (hfree t List.mem_cons_self)
    rw [render, render, Text.replaceFirst, hcut]
  | before t m rest, hfree, hapart, hcount => by
    have ht : ¬ f k <:+: t := hfree t List.mem_cons_self
    by_cases hm : m = k
    · subst hm
      have hnot : m ∉ rest.marks := by
        rw [marks, List.count_cons_self] at hcount
        exact List.count_eq_zero.1 (by omega)
      have hrest : rest.render f = rest.render (Function.update f m new) :=
        render_congr fun m' hm' => by
          have hne : m' ≠ m := fun h => hnot (h.symm ▸ hm')
          rw [Function.update_of_ne hne]
      rw [render, render, Text.replaceFirst, cutAt?_at_own hown ht, Function.update_self, ← hrest]
      exact List.append_assoc _ _ _
    · have ih := replaceFirst_render hown (l := rest)
        (fun t h => hfree t (List.mem_cons_of_mem _ h))
        (fun m h => hapart m (List.mem_cons_of_mem _ h))
        (by rwa [marks, List.count_cons_of_ne hm] at hcount)
      rw [render, render, Function.update_of_ne hm, ← ih, Text.replaceFirst, Text.replaceFirst,
        cutAt?_over_apart (hapart m List.mem_cons_self hm) ht]
      rcases Text.cutAt? (f k) (rest.render f) with _ | ⟨head, tail⟩
      · rfl
      · simp [List.append_assoc]

/-- A text that occurs once is made a mark where it stands. -/
theorem exists_split_at (hne : f k ≠ []) : ∀ {l : Layout} {head tail : Text},
    (∀ m ∈ l.marks, Apart (f k) (f m)) → Text.cutAt? (f k) (l.render f) = some (head, tail) →
    ¬ f k <:+: tail →
    ∃ l' : Layout, (∀ g, g k = f k → l'.render g = l.render g) ∧ l'.marks.Perm (k :: l.marks)
      ∧ ∀ t ∈ l'.texts, ¬ f k <:+: t ∧ ∃ t' ∈ l.texts, t <:+: t'
  | last t, head, tail, _, hcut, htail => by
    have ht : t = head ++ f k ++ tail := cutAt?_eq_some hcut
    refine ⟨before head k (last tail), fun g hg => ?_, List.Perm.refl _, fun s hs => ?_⟩
    · rw [render, render, render, ht, hg, List.append_assoc]
    · have hs : s = head ∨ s = tail := by simpa [texts] using hs
      rcases hs with rfl | rfl
      · exact ⟨not_infix_head_of_cutAt? hne hcut, t, List.mem_cons_self,
          [], f k ++ tail, by simp [ht]⟩
      · exact ⟨htail, t, List.mem_cons_self, head ++ f k, [], by simp [ht]⟩
  | before t m rest, head, tail, hapart, hcut, htail => by
    rcases ht : Text.cutAt? (f k) t with _ | ⟨head', tail'⟩
    · -- the text holds none, so the occurrence lies behind the mark
      have hfree : ¬ f k <:+: t := cutAt?_eq_none_iff.1 ht
      rw [render, cutAt?_over_apart (hapart m List.mem_cons_self) hfree] at hcut
      obtain ⟨⟨head', tail'⟩, hrest, heq⟩ := Option.map_eq_some_iff.1 hcut
      obtain ⟨rfl, rfl⟩ : t ++ f m ++ head' = head ∧ tail' = tail := by simpa using heq
      obtain ⟨l', hrender, hmarks, htexts⟩ := exists_split_at hne
        (fun m h => hapart m (List.mem_cons_of_mem _ h)) hrest htail
      refine ⟨before t m l', fun g hg => ?_, ?_, fun s hs => ?_⟩
      · rw [render, render, hrender g hg]
      · exact (hmarks.cons m).trans (List.Perm.swap k m rest.marks)
      · rcases List.mem_cons.1 hs with rfl | hs
        · exact ⟨hfree, s, List.mem_cons_self, List.infix_refl _⟩
        · obtain ⟨hs, t', ht', hwithin⟩ := htexts s hs
          exact ⟨hs, t', List.mem_cons_of_mem _ ht', hwithin⟩
    · -- the text is cut in two, and what follows it is behind the only occurrence
      rw [render, cutAt?_append_of_some hne _ ht] at hcut
      obtain ⟨rfl, rfl⟩ : head' = head ∧ tail' ++ (f m ++ rest.render f) = tail := by
        simpa using hcut
      have hpieces : t = head' ++ f k ++ tail' := cutAt?_eq_some ht
      refine ⟨before head' k (before tail' m rest), fun g hg => ?_, List.Perm.refl _,
        fun s hs => ?_⟩
      · simp only [render, hpieces, hg, List.append_assoc]
      · have hs : s = head' ∨ s = tail' ∨ s ∈ rest.texts := by simpa [texts] using hs
        rcases hs with rfl | rfl | hs
        · exact ⟨not_infix_head_of_cutAt? hne ht, t, List.mem_cons_self,
            [], f k ++ tail', by simp [hpieces]⟩
        · exact ⟨fun h => htail (h.trans ⟨[], _, rfl⟩), t, List.mem_cons_self,
            head' ++ f k, [], by simp [hpieces]⟩
        · have hwithin : s <:+: rest.render f := infix_render_of_mem_texts hs
          exact ⟨fun h => htail ((h.trans hwithin).trans ⟨tail' ++ f m, [], by simp⟩), s,
            List.mem_cons_of_mem _ hs, List.infix_refl _⟩

/-- A text that occurs at most once becomes a mark, if it occurs, and is nowhere else. -/
theorem exists_split (hne : f k ≠ []) {l : Layout} (hapart : ∀ m ∈ l.marks, Apart (f k) (f m))
    (hcount : Text.count (f k) (l.render f) ≤ 1) :
    ∃ l' : Layout, (∀ g, g k = f k → l'.render g = l.render g)
      ∧ l'.marks.Perm (List.replicate (Text.count (f k) (l.render f)) k ++ l.marks)
      ∧ ∀ t ∈ l'.texts, ¬ f k <:+: t ∧ ∃ t' ∈ l.texts, t <:+: t' := by
  have hcases : Text.count (f k) (l.render f) = 0 ∨ Text.count (f k) (l.render f) = 1 := by omega
  rcases hcases with h | h
  · refine ⟨l, fun _ _ => rfl, by rw [h]; exact List.Perm.refl _, fun t ht => ⟨?_, t, ht, ?_⟩⟩
    · exact fun hwithin =>
        (count_eq_zero_iff hne).1 h (hwithin.trans (infix_render_of_mem_texts ht))
    · exact List.infix_refl t
  · obtain ⟨head, tail, hcut, htail⟩ := (count_eq_one_iff hne).1 h
    rw [h]
    exact exists_split_at hne hapart hcut htail

end Layout

namespace Carrier

variable {carrier s w : Text}

theorem contentPlace_barred : Barred contentPlace contentPlace := ⟨'%', rfl, by decide⟩

theorem reviewOff_barred : Barred reviewOff reviewOff := ⟨'\\', rfl, by decide⟩

/-- The content's place has no backslash, and a percent sign in front only. -/
theorem apart_contentPlace (hhead : s.head? = some '\\') (hnot : '%' ∉ s) :
    Apart contentPlace s where
  barred := ⟨'\\', hhead, by decide⟩
  passes := passes_of_head_not_mem hnot

theorem numberCommand_eq (w : Text) : numberCommand w = '\\' :: ("newcommand\x7b".toList
    ++ '\\' :: ("exercisenum\x7d\x7b".toList ++ (w ++ ['\x7d']))) := by
  have hopen : "\\newcommand\x7b\\exercisenum\x7d\x7b".toList
      = '\\' :: ("newcommand\x7b".toList ++ '\\' :: "exercisenum\x7d\x7b".toList) := by decide
  unfold numberCommand
  rw [hopen, List.append_assoc, List.cons_append, List.append_assoc, List.cons_append]

theorem apart_contentPlace_numberCommand (hw : '%' ∉ w) :
    Apart contentPlace (numberCommand w) := by
  have hopen : '%' ∉ "\\newcommand\x7b\\exercisenum\x7d\x7b".toList := by decide
  have hclose : '%' ∉ ['\x7d'] := by decide
  refine apart_contentPlace (by rw [numberCommand_eq, List.head?_cons]) ?_
  unfold numberCommand
  rw [List.mem_append, List.mem_append]
  rintro ((h | h) | h)
  · exact hopen h
  · exact hw h
  · exact hclose h

/-- A command that is not the switch's is passed, whatever follows its first letter. -/
theorem passes_reviewOff_cons {c : Char} (hc : c ≠ 'r') (hs : Passes reviewOff (c :: s)) :
    Passes reviewOff ('\\' :: c :: s) :=
  hs.cons fun r h => by
    have h : '\\' :: 'r' :: "eviewmodefalse".toList <+: '\\' :: c :: (s ++ r) := h
    rw [List.cons_prefix_cons, List.cons_prefix_cons] at h
    exact hc h.2.1.symm

theorem apart_reviewOff_numberCommand (hw : '\\' ∉ w) :
    Apart reviewOff (numberCommand w) := by
  rw [numberCommand_eq]
  refine ⟨⟨'\\', rfl, by decide⟩, passes_reviewOff_cons (by decide) ?_⟩
  have hname : '\\' ∉ "newcommand\x7b".toList := by decide
  have hnumber : '\\' ∉ "exercisenum\x7d\x7b".toList ++ (w ++ ['\x7d']) := by
    have hopen : '\\' ∉ "exercisenum\x7d\x7b".toList := by decide
    have hclose : '\\' ∉ ['\x7d'] := by decide
    rw [List.mem_append, List.mem_append]
    rintro (h | h | h)
    · exact hopen h
    · exact hw h
    · exact hclose h
  exact (passes_of_head_not_mem hname).append
    (passes_reviewOff_cons (by decide) (passes_of_head_not_mem hnumber))

theorem apart_reviewOff_contentPlace : Apart reviewOff contentPlace where
  barred := ⟨'%', rfl, by decide⟩
  passes := passes_of_head_not_mem (by decide)

theorem placeIssues_eq_nil_iff {name : String} {place : Text} :
    placeIssues carrier name place = [] ↔ Text.count place carrier = 1 := by
  unfold placeIssues
  split <;> simp_all

theorem switchIssues_eq_nil_iff :
    switchIssues carrier = [] ↔ Text.count reviewOff carrier ≤ 1 := by
  unfold switchIssues
  split_ifs <;> simp_all

theorem issues_eq_nil_iff : issues carrier = [] ↔ Text.count contentPlace carrier = 1
    ∧ Text.count numberPlace carrier = 1 ∧ Text.count reviewOff carrier ≤ 1 := by
  rw [issues, List.append_eq_nil_iff, List.append_eq_nil_iff, placeIssues_eq_nil_iff,
    placeIssues_eq_nil_iff, switchIssues_eq_nil_iff, and_assoc]

/-- A valid carrier takes every content. -/
theorem lack?_of_issues (h : issues carrier = []) : lack? carrier = none := by
  obtain ⟨hcontent, hnumber, -⟩ := issues_eq_nil_iff.1 h
  have hhas : ∀ m : Mark, Text.count m.place carrier = 1 → Text.has m.place carrier = true :=
    fun m hone => (has_iff_count_ne_zero m.place_ne_nil).2 fun hzero =>
      Nat.one_ne_zero (hone.symm.trans hzero)
  exact lack?_eq_none_iff.2 ⟨hhas .content hcontent, hhas .number hnumber⟩

/-- The seen marks of the layout are all their places in the carrier, its texts hold none of these,
and the sheet's number is set at its mark. -/
structure LaidOut (carrier : Text) (seen : List Mark) (l : Layout) : Prop where
  render : l.render Mark.place = carrier
  count : ∀ m ∈ seen, l.marks.count m = Text.count m.place carrier
  mem_seen : ∀ m ∈ l.marks, m ∈ seen
  free : ∀ t ∈ l.texts, ∀ m ∈ seen, ¬ m.place <:+: t
  numbered : ∀ sheet, Text.replaceFirst numberPlace (numberCommand sheet) carrier
    = l.render (Function.update Mark.place .number (numberCommand sheet))

/-- The number's place is a mark where its search finds it. -/
theorem laidOut_number (h : Text.count numberPlace carrier = 1) :
    ∃ l, LaidOut carrier [.number] l := by
  have hne : numberPlace ≠ [] := Mark.place_ne_nil .number
  obtain ⟨head, tail, hcut, htail⟩ := (count_eq_one_iff hne).1 h
  have hhead : ¬ numberPlace <:+: head := not_infix_head_of_cutAt? hne hcut
  refine ⟨.before head .number (.last tail), ?_, ?_, fun _ hm => hm, ?_, fun sheet => ?_⟩
  · exact (List.append_assoc _ _ _).symm.trans (cutAt?_eq_some hcut).symm
  · intro m hm
    obtain rfl : m = .number := List.mem_singleton.1 hm
    exact h.symm
  · intro t ht m hm
    obtain rfl : m = .number := List.mem_singleton.1 hm
    have ht : t = head ∨ t = tail := by simpa [Layout.texts] using ht
    rcases ht with rfl | rfl
    · exact hhead
    · exact htail
  · rw [Text.replaceFirst, hcut]
    exact List.append_assoc _ _ _

/-- One more mark is seen in the texts between the marks that it is apart from. -/
theorem LaidOut.see {seen : List Mark} {l : Layout} {k : Mark} (h : LaidOut carrier seen l)
    (hk : k ∉ seen) (hnumber : .number ∈ seen) (hapart : ∀ m ∈ seen, Apart k.place m.place)
    (hcount : Text.count k.place carrier ≤ 1) :
    ∃ l', LaidOut carrier (k :: seen) l' := by
  obtain ⟨l', hrender, hmarks, htexts⟩ := Layout.exists_split (f := Mark.place) (k := k) (l := l)
    k.place_ne_nil (fun m hm => hapart m (h.mem_seen m hm)) (h.render.symm ▸ hcount)
  rw [h.render] at hmarks
  have hnot : k ∉ l.marks := fun hm => hk (h.mem_seen k hm)
  refine ⟨l', (hrender _ rfl).trans h.render, ?_, ?_, ?_, fun sheet => ?_⟩
  · intro m hm
    rw [hmarks.count_eq, List.count_append, List.count_replicate]
    rcases List.mem_cons.1 hm with rfl | hm
    · simp [List.count_eq_zero.2 hnot]
    · have hne : k ≠ m := fun heq => hk (heq ▸ hm)
      simp [hne, h.count m hm]
  · intro m hm
    rcases List.mem_append.1 (hmarks.mem_iff.1 hm) with hm | hm
    · exact List.eq_of_mem_replicate hm ▸ List.mem_cons_self
    · exact List.mem_cons_of_mem _ (h.mem_seen m hm)
  · intro t ht m hm
    obtain ⟨hfree, t', ht', hwithin⟩ := htexts t ht
    rcases List.mem_cons.1 hm with rfl | hm
    · exact hfree
    · exact fun hplace => h.free t' ht' m hm (hplace.trans hwithin)
  · have hk : k ≠ .number := by
      rintro rfl
      exact hk hnumber
    have hkeeps : Function.update Mark.place .number (numberCommand sheet) k = k.place :=
      Function.update_of_ne hk _ _
    rw [h.numbered, hrender _ hkeeps]

theorem exists_laidOut (h : issues carrier = []) :
    ∃ l, LaidOut carrier Mark.all l := by
  obtain ⟨hcontent, hnumber, hswitch⟩ := issues_eq_nil_iff.1 h
  obtain ⟨l₀, h₀⟩ := laidOut_number hnumber
  have hapart₀ : ∀ m ∈ [Mark.number], Apart contentPlace m.place := fun m hm => by
    obtain rfl : m = .number := List.mem_singleton.1 hm
    exact apart_contentPlace_numberCommand (by decide)
  obtain ⟨l₁, h₁⟩ := h₀.see (k := .content) (by decide) (by decide) hapart₀ (le_of_eq hcontent)
  have hapart₁ : ∀ m ∈ [Mark.content, .number], Apart reviewOff m.place := fun m hm => by
    have hm : m = .content ∨ m = .number := by simpa using hm
    rcases hm with rfl | rfl
    · exact apart_reviewOff_contentPlace
    · exact apart_reviewOff_numberCommand (by decide)
  exact h₁.see (k := .switch) (by decide) (by decide) hapart₁ hswitch

theorem kind?_of_written {number : SheetNumber} {f : Fault} (h : number.written = .error f) :
    f.kind? = none := by
  cases number with
  | whole n =>
    rw [writeWhole_eq_error h]
    rfl
  | text t => cases h

theorem filled_eq_replaceFirst {content document : Text} (h : contentPlace <:+: document) :
    filled content document = Text.replaceFirst contentPlace content document := by
  unfold filled Text.replaceFirst
  rcases hcut : Text.cutAt? contentPlace document with _ | ⟨head, tail⟩
  · exact absurd h (cutAt?_eq_none_iff.1 hcut)
  · rfl

section Embedding

variable {l : Layout} {sheet content : Text}

theorem LaidOut.prepared (h : LaidOut carrier Mark.all l)
    (hswitch : Text.count reviewOff carrier ≤ 1) (hsheet : '\\' ∉ sheet) (review : Bool) :
    prepared carrier sheet review = l.render (Mark.filling contentPlace sheet review) := by
  let f : Mark → Text := Function.update Mark.place .number (numberCommand sheet)
  have hoff : f = Mark.filling contentPlace sheet false := by
    funext m
    cases m <;> rfl
  have hon : Function.update f .switch reviewOn = Mark.filling contentPlace sheet true := by
    funext m
    cases m <;> rfl
  unfold Carrier.prepared
  rw [h.numbered sheet]
  cases review with
  | false => exact congrArg l.render hoff
  | true =>
    have hfree : ∀ t ∈ l.texts, ¬ reviewOff <:+: t :=
      fun t ht => h.free t ht .switch (Mark.mem_all _)
    have hapart : ∀ m ∈ l.marks, m ≠ .switch → Apart reviewOff (f m) := fun m _ hm => by
      cases m with
      | content => exact apart_reviewOff_contentPlace
      | number => exact apart_reviewOff_numberCommand hsheet
      | switch => exact absurd rfl hm
    have hcount : l.marks.count .switch ≤ 1 := h.count .switch (Mark.mem_all _) ▸ hswitch
    rw [← hon]
    exact Layout.replaceFirst_render (f := f) (k := .switch) reviewOff_barred hfree hapart hcount

theorem LaidOut.filled (h : LaidOut carrier Mark.all l)
    (hcontent : Text.count contentPlace carrier = 1) (hsheet : '%' ∉ sheet) (review : Bool) :
    filled content (l.render (Mark.filling contentPlace sheet review))
      = l.render (Mark.filling content sheet review) := by
  let f : Mark → Text := Mark.filling contentPlace sheet review
  have hcount : l.marks.count .content = 1 := (h.count .content (Mark.mem_all _)).trans hcontent
  have hmem : .content ∈ l.marks := List.count_pos_iff.1 (hcount ▸ Nat.one_pos)
  have hplace : contentPlace <:+: l.render f := Layout.infix_render_of_mem_marks (f := f) hmem
  have hfree : ∀ t ∈ l.texts, ¬ contentPlace <:+: t :=
    fun t ht => h.free t ht .content (Mark.mem_all _)
  have hapart : ∀ m ∈ l.marks, m ≠ .content → Apart contentPlace (f m) := fun m _ hm => by
    cases m with
    | content => exact absurd rfl hm
    | number => exact apart_contentPlace_numberCommand hsheet
    | switch =>
      cases review with
      | false => exact apart_contentPlace (s := reviewOff) (by decide) (by decide)
      | true => exact apart_contentPlace (s := reviewOn) (by decide) (by decide)
  have hset : Function.update f .content content = Mark.filling content sheet review := by
    funext m
    cases m <;> rfl
  rw [filled_eq_replaceFirst hplace, ← hset]
  exact Layout.replaceFirst_render (f := f) (k := .content) contentPlace_barred hfree hapart
    (le_of_eq hcount)

end Embedding

/-- A valid carrier is texts with one content mark, one number mark and, if it has the switch, a
switch mark between them, and no place occurs in the texts. Embedding puts the content, the number's
command and the switch at the marks and keeps the texts, whatever the content holds; only a number
too long to be written down is refused. Any carrier is refused as a carrier exactly when the
content's place or the number's does not occur. -/
theorem embed_renders_layout (carrier : Text) :
    (issues carrier = [] → ∃ layout : Layout, layout.render Mark.place = carrier
      ∧ layout.marks.count .content = 1 ∧ layout.marks.count .number = 1
      ∧ layout.marks.count .switch = (if Text.has reviewOff carrier then 1 else 0)
      ∧ (∀ t ∈ layout.texts, ∀ m : Mark, ¬ m.place <:+: t)
      ∧ ∀ content n review, embed carrier content (.whole n) review
        = if Nat.pow 10 digitLimit ≤ n.natAbs then .error .writeTooLong
          else .ok (layout.render (Mark.filling content (wholeText n) review)))
    ∧ ∀ content number review,
      (∃ f, embed carrier content number review = .error f ∧ f.kind? = some .template)
        ↔ ¬ contentPlace <:+: carrier ∨ ¬ numberPlace <:+: carrier := by
  constructor
  · intro h
    obtain ⟨hcontent, hnumber, hswitch⟩ := issues_eq_nil_iff.1 h
    obtain ⟨l, hl⟩ := exists_laidOut h
    refine ⟨l, hl.render, ?_, ?_, ?_, fun t ht m => hl.free t ht m m.mem_all,
      fun content n review => ?_⟩
    · exact (hl.count .content (Mark.mem_all _)).trans hcontent
    · exact (hl.count .number (Mark.mem_all _)).trans hnumber
    · refine (hl.count .switch (Mark.mem_all _)).trans ?_
      have hiff := has_iff_count_ne_zero (t := carrier) (Mark.place_ne_nil .switch)
      split_ifs with hhas
      · exact le_antisymm hswitch (Nat.one_le_iff_ne_zero.2 (hiff.1 hhas))
      · exact not_not.1 (mt hiff.2 hhas)
    · have hslash : '\\' ∉ wholeText n := not_mem_wholeText (by decide) (by decide) n
      have hpercent : '%' ∉ wholeText n := not_mem_wholeText (by decide) (by decide) n
      rw [embed_eq, lack?_of_issues h]
      simp only [SheetNumber.written, writeWhole]
      split_ifs
      · rfl
      · rw [Except.map, hl.prepared hswitch hslash review, hl.filled hcontent hpercent review]
  · intro content number review
    rw [embed_eq, ← not_and_or, ← has_iff, ← has_iff, ← lack?_eq_none_iff]
    cases hlack : lack? carrier with
    | some f => simp [kind?_of_lack? hlack]
    | none =>
      rcases hwritten : number.written with f | sheet
      · have hkind : f.kind? = none := kind?_of_written hwritten
        simp [Except.map, hkind]
      · simp [Except.map]

/-- A content that spells the number's place is embedded as it is. -/
theorem embed_renders_layout_of_place_in_content :
    let carrier := reviewOff ++ '\n' :: (contentPlace ++ '\n' :: numberPlace)
    issues carrier = [] ∧ ∃ layout : Layout, layout.render Mark.place = carrier
      ∧ embed carrier numberPlace (.whole 3) true
        = .ok (layout.render (Mark.filling numberPlace ['3'] true)) := by
  intro carrier
  have hissues : issues carrier = [] := by decide
  obtain ⟨layout, hrender, -, -, -, -, hembed⟩ := (embed_renders_layout carrier).1 hissues
  have hwritten : ∀ k, 1 ≤ k → ¬ Nat.pow 10 k ≤ (3 : Int).natAbs := fun k hk => by
    have hpow : 10 ^ 1 ≤ 10 ^ k := Nat.pow_le_pow_right (by decide) hk
    exact Nat.not_le.2 (Nat.lt_of_lt_of_le (by decide) hpow)
  refine ⟨hissues, layout, hrender, ?_⟩
  rw [hembed, if_neg (hwritten digitLimit (by decide))]
  rfl

/-- A number with too many digits is not embedded, though the carrier is valid. -/
theorem embed_fails_of_long_number :
    let carrier := contentPlace ++ numberPlace
    let n : Int := Nat.pow 10 digitLimit
    issues carrier = [] ∧ embed carrier [] (.whole n) false = .error .writeTooLong := by
  intro carrier n
  have hissues : issues carrier = [] := by decide
  refine ⟨hissues, ?_⟩
  have hlong : ¬ IsWritten n := by rw [isWritten_iff, Int.natAbs_natCast, not_not]
  rw [embed_eq, lack?_of_issues hissues]
  simp only [SheetNumber.written, writeWhole_of_not_isWritten hlong]
  rfl

end Carrier

end ExerciseSheet

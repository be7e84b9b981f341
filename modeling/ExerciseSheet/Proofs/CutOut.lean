import ExerciseSheet.Proofs.LeftmostMatches

/-!
# Matching in a part of a text

A pattern that looks at nothing but the characters it reads has the same ways in a part of a text as
in the whole, in the same order, but for those that go on past the part (`Pattern.Local`). So the
leftmost matches in a part are those of the whole that lie in it, as long as the part starts where
one of them may and ends where no match goes across (`Leftmost.cut`).
-/

namespace ExerciseSheet

variable {before behind t : Text} {s : Spot} {limit : Nat} {l l' m m' : List Spot}

namespace Spot

/-- The spot in the whole text of a spot in the part of it between `before` and `behind`. -/
def within (before behind : Text) (s : Spot) : Spot :=
  ⟨before.length + s.offset, s.before.or before.getLast?, s.rest ++ behind, s.groups⟩

/-- Where the text of the spot ends. -/
def stop (s : Spot) : Nat := s.offset + s.rest.length

theorem LeadsTo.stop_eq {e : Spot} (h : s.LeadsTo e) : e.stop = s.stop := h.offset_le.2

theorem within_keep {d : Spot} (h : s.LeadsTo d) (number : Nat) :
    (d.keep number s).within before behind
      = (d.within before behind).keep number (s.within before behind) := by
  have hle := h.offset_le
  have hread : d.offset - s.offset ≤ s.rest.length := by omega
  simp only [within, keep, Nat.add_sub_add_left, List.take_append_of_le_length hread]

theorem within_ofOffset {i : Nat} (h : i ≤ t.length) :
    (ofOffset t i).within before behind
      = ofOffset (before ++ t ++ behind) (before.length + i) := by
  have hdrop : (before ++ t ++ behind).drop (before.length + i) = t.drop i ++ behind := by
    rw [List.append_assoc, List.drop_length_add_append, List.drop_append_of_le_length h]
  have htake : (before ++ t ++ behind).take (before.length + i) = before ++ t.take i := by
    rw [List.append_assoc, List.take_length_add_append, List.take_append_of_le_length h]
  simp only [within, ofOffset, hdrop, htake, List.getLast?_append]

/-- The spots of a list that do not lie behind `limit`. -/
def upTo (limit : Nat) (l : List Spot) : List Spot := l.filter fun e => e.offset ≤ limit

theorem upTo_eq_nil (h : ∀ e ∈ l, limit < e.offset) : upTo limit l = [] :=
  List.filter_eq_nil_iff.2 fun e he => by simpa using h e he

theorem upTo_cons_of_le (h : s.offset ≤ limit) : upTo limit (s :: l) = s :: upTo limit l :=
  List.filter_cons_of_pos (by simpa using h)

theorem upTo_cons_of_not_le (h : ¬ s.offset ≤ limit) : upTo limit (s :: l) = upTo limit l :=
  List.filter_cons_of_neg (by simpa using h)

/-- Of what is reached from a list nothing up to `limit` is reached from behind it. -/
theorem upTo_flatMap {g : Spot → List Spot} (h : ∀ d ∈ l, ∀ e ∈ g d, d.offset ≤ e.offset) :
    upTo limit (l.flatMap g) = (upTo limit l).flatMap fun d => upTo limit (g d) := by
  induction l with
  | nil => rfl
  | cons d l ih =>
    obtain ⟨hd, hl⟩ := List.forall_mem_cons.1 h
    have hsplit : upTo limit ((d :: l).flatMap g)
        = upTo limit (g d) ++ upTo limit (l.flatMap g) := by
      rw [List.flatMap_cons, upTo, List.filter_append]
      rfl
    rw [hsplit, ih hl]
    by_cases hle : d.offset ≤ limit
    · rw [upTo_cons_of_le hle, List.flatMap_cons]
    · rw [upTo_cons_of_not_le hle,
        upTo_eq_nil fun e he => Nat.lt_of_lt_of_le (Nat.not_le.1 hle) (hd e he),
        List.nil_append]

/-- Of the spots `l'` in the whole text those that do not lie behind `limit` are the spots `l` in
the part. -/
def Restricts (before behind : Text) (limit : Nat) (l l' : List Spot) : Prop :=
  l.map (within before behind) = upTo (before.length + limit) l'

theorem restricts_nil : Restricts before behind limit [] [] := rfl

theorem restricts_singleton (h : s.offset ≤ limit) :
    Restricts before behind limit [s] [s.within before behind] := by
  have hle : (s.within before behind).offset ≤ before.length + limit := Nat.add_le_add_left h _
  rw [Restricts, upTo_cons_of_le hle]
  rfl

theorem Restricts.append (h : Restricts before behind limit l l')
    (h' : Restricts before behind limit m m') :
    Restricts before behind limit (l ++ m) (l' ++ m') := by
  unfold Restricts upTo at h h' ⊢
  rw [List.map_append, List.filter_append, h, h']

theorem Restricts.flatMap {f g : Spot → List Spot} (h : Restricts before behind limit l l')
    (hfg : ∀ d ∈ l, Restricts before behind limit (f d) (g (d.within before behind)))
    (hmono : ∀ d ∈ l', ∀ e ∈ g d, d.offset ≤ e.offset) :
    Restricts before behind limit (l.flatMap f) (l'.flatMap g) :=
  calc (l.flatMap f).map (within before behind)
    _ = l.flatMap fun d => upTo (before.length + limit) (g (d.within before behind)) := by
        rw [List.map_flatMap]
        exact List.flatMap_congr hfg
    _ = (upTo (before.length + limit) l').flatMap fun d => upTo (before.length + limit) (g d) := by
        rw [← h, List.flatMap_map]
    _ = upTo (before.length + limit) (l'.flatMap g) := (upTo_flatMap hmono).symm

theorem Restricts.keep (h : Restricts before behind limit l l') (hl : ∀ d ∈ l, s.LeadsTo d)
    (number : Nat) : Restricts before behind limit (l.map (·.keep number s))
      (l'.map (·.keep number (s.within before behind))) :=
  calc (l.map (·.keep number s)).map (within before behind)
    _ = (l.map (within before behind)).map (·.keep number (s.within before behind)) := by
        rw [List.map_map, List.map_map]
        exact List.map_congr_left fun d hd => within_keep (hl d hd) number
    _ = upTo (before.length + limit) (l'.map (·.keep number (s.within before behind))) := by
        rw [h, upTo, upTo, List.filter_map]
        rfl

theorem restricts_readIf (test : Char → Bool) (s : Spot) :
    Restricts before behind s.stop (s.readIf test) ((s.within before behind).readIf test) := by
  unfold readIf within
  rcases hrest : s.rest with _ | ⟨c, rest⟩
  · -- at its end the part reads nothing, and what the whole reads there lies behind it
    refine (upTo_eq_nil fun e he => ?_).symm
    rcases behind with _ | ⟨d, behind⟩
    · simp at he
    · simp only [List.nil_append] at he
      split_ifs at he
      · rw [List.mem_singleton.1 he]
        simp only [after, stop, hrest, List.length_nil]
        omega
      · simp at he
  · simp only [List.cons_append]
    split_ifs
    · refine restricts_singleton ?_
      simp only [after, stop, hrest, List.length_cons]
      omega
    · exact restricts_nil

end Spot

open Spot

/-- A repetition of single characters reads as far in a part as in the whole, or to its end. -/
theorem restricts_waysAgain {test : Char → Bool} {least : Nat} {most : Option Nat} {eager : Bool} :
    ∀ {fuel fuel' count : Nat} (last : Option Nat) {s : Spot}, s.rest.length < fuel →
      s.rest.length + behind.length < fuel' →
      Restricts before behind s.stop (waysAgain (·.readIf test) least most eager fuel count last s)
        (waysAgain (·.readIf test) least most eager fuel' count (last.map (before.length + ·))
          (s.within before behind))
  | 0, _, _, _, _, hfuel, _ => absurd hfuel (Nat.not_lt_zero _)
  | _, 0, _, _, _, _, hfuel' => absurd hfuel' (Nat.not_lt_zero _)
  | fuel + 1, fuel' + 1, count, last, s, hfuel, hfuel' => by
    -- the fuel is counted from the length of the text, so the part and the whole have their own
    have hmore : ∀ last : Option Nat, Restricts before behind s.stop
        ((s.readIf test).flatMap
          (waysAgain (·.readIf test) least most eager fuel (count + 1) last))
        (((s.within before behind).readIf test).flatMap
          (waysAgain (·.readIf test) least most eager fuel' (count + 1)
            (last.map (before.length + ·)))) := by
      intro last
      refine (restricts_readIf test s).flatMap (fun d hd => ?_) fun d _ e he => ?_
      · obtain ⟨c, hrest, -, -⟩ := exists_of_mem_readIf hd
        have hlen : s.rest.length = d.rest.length + 1 := congrArg List.length hrest
        have hlead : s.LeadsTo d := Pattern.respected_leadsTo.of_mem_readIf hd
        rw [← hlead.stop_eq]
        exact restricts_waysAgain last (by omega) (by omega)
      · have hlead : d.LeadsTo e := Pattern.respected_leadsTo.of_mem_waysAgain
          (fun _ _ => Pattern.respected_leadsTo.of_mem_readIf) he
        exact hlead.offset_le.1
    have hdone : Restricts before behind s.stop [s] [s.within before behind] :=
      restricts_singleton (Nat.le_add_right _ _)
    have hsame : (last.map (before.length + ·) != some (s.within before behind).offset)
        = (last != some s.offset) := by
      cases last <;> simp [within, bne]
    unfold waysAgain
    simp only [hsame]
    split_ifs with hleast heager hgo hgo
    · exact hmore last
    · exact (hmore (some s.offset)).append hdone
    · exact restricts_nil.append hdone
    · exact hdone.append (hmore (some s.offset))
    · exact hdone

namespace Pattern

variable {p q : Pattern} {i : Nat}

/-- The pattern has the ways in a part of a text that it has in the whole and that do not go on past
the part. -/
def Local (p : Pattern) : Prop :=
  ∀ before behind s, Restricts before behind s.stop (p.ways s) (p.ways (s.within before behind))

theorem local_oneOf (fold negated : Bool) (items : List ClassItem) :
    Local (oneOf fold negated items) :=
  fun _ _ s => restricts_readIf _ s

theorem Local.seq (hp : p.Local) (hq : q.Local) : Local (seq p q) := by
  intro before behind s
  refine (hp before behind s).flatMap (fun d hd => ?_) fun d _ e he =>
    (leadsTo_of_mem_ways he).offset_le.1
  rw [← (leadsTo_of_mem_ways hd).stop_eq]
  exact hq before behind d

theorem Local.group (hp : p.Local) (number : Nat) : Local (group number p) :=
  fun before behind s => (hp before behind s).keep (fun _ => leadsTo_of_mem_ways) number

theorem local_again (least : Nat) (most : Option Nat) (eager fold negated : Bool)
    (items : List ClassItem) : Local (again least most eager (oneOf fold negated items)) := by
  intro before behind s
  refine restricts_waysAgain none (by omega) ?_
  simp only [within, List.length_append]
  omega

theorem Local.literal {fold : Bool} (hp : p.Local) : ∀ u : Text, Local (literal fold u p)
  | [] => hp
  | x :: u => (local_oneOf fold false [.one x]).seq (hp.literal u)

theorem firstWay?_false (p : Pattern) (s : Spot) : p.firstWay? false s = (p.ways s).head? := by
  rw [firstWay?, search_eq_findSome?]
  cases p.ways s <;> rfl

theorem Local.matchAt?_eq_none (hp : p.Local) (hi : i ≤ t.length)
    (h : p.matchAt? (before ++ t ++ behind) (before.length + i) = none) :
    p.matchAt? t i = none := by
  rw [matchAt?, Option.map_eq_none_iff, firstWay?_false, List.head?_eq_none_iff] at h ⊢
  have hways := hp before behind (ofOffset t i)
  rw [within_ofOffset hi, h] at hways
  exact List.map_eq_nil_iff.1 hways

end Pattern

/-- The match, `k` characters further on. -/
def Match.shift (k : Nat) (q : Match) : Match := ⟨k + q.start, k + q.stop, q.groups⟩

variable {p : Pattern} {i k : Nat} {q : Match} {qs rs : List Match}

namespace Pattern

/-- A match that does not go on past the part is one in the part. -/
theorem Local.exists_matchAt? (hp : p.Local) (hi : i ≤ t.length)
    (h : p.matchAt? (before ++ t ++ behind) (before.length + i) = some q)
    (hstop : q.stop ≤ before.length + t.length) :
    ∃ x, p.matchAt? t i = some x ∧ x.shift before.length = q := by
  obtain ⟨e, he, rfl⟩ := Option.map_eq_some_iff.1 h
  rw [firstWay?_false] at he
  obtain ⟨es, hes⟩ := List.head?_eq_some_iff.1 he
  have hways := hp before behind (ofOffset t i)
  have hend : (ofOffset t i).stop = t.length := by
    simp only [ofOffset, Spot.stop, List.length_drop]
    omega
  rw [within_ofOffset hi, hes, hend, Restricts, upTo_cons_of_le hstop] at hways
  obtain ⟨d, ds, hd, rfl, -⟩ := List.map_eq_cons_iff.1 hways
  refine ⟨⟨i, d.offset, d.groups⟩, ?_, rfl⟩
  rw [matchAt?, firstWay?_false, hd]
  rfl

theorem start_lt_of_matchAt? (hreads : ∀ s e, e ∈ p.ways s → s.offset < e.offset)
    (h : p.matchAt? t i = some q) : q.start = i ∧ i < q.stop := by
  obtain ⟨e, he, rfl⟩ := matchAt?_eq_some h
  exact ⟨rfl, hreads _ e he⟩

end Pattern

namespace Leftmost

theorem eq_none_of_lt {b : Nat} (h : Leftmost p t k qs) (hqs : ∀ q ∈ qs.head?, b ≤ q.start) :
    ∀ i, k ≤ i → i < b → p.matchAt? t i = none := by
  intro i hi hlt
  cases h with
  | done hnone => exact hnone i hi
  | next _ hnone _ _ => exact hnone i hi (Nat.lt_of_lt_of_le hlt (hqs _ rfl))

/-- The leftmost matches from some offset on that do not go on past a part of the text are those in
the part, if nothing that comes after them starts in it. -/
theorem cut (hp : p.Local) (hreads : ∀ s e, e ∈ p.ways s → s.offset < e.offset) :
    ∀ {qs : List Match} {k : Nat},
      Leftmost p (before ++ t ++ behind) (before.length + k) (qs ++ rs) →
      (∀ q ∈ qs, q.stop ≤ before.length + t.length) →
      (∀ q ∈ rs.head?, before.length + t.length ≤ q.start) →
      ∃ xs, Leftmost p t k xs ∧ xs.map (Match.shift before.length) = qs
  | [], k, h, _, hrs => by
    refine ⟨[], .done fun i hi => ?_, rfl⟩
    -- at the end of the part the whole may have a match, but one in the part would read something
    by_cases hlt : i < t.length
    · exact hp.matchAt?_eq_none (Nat.le_of_lt hlt) (h.eq_none_of_lt hrs _ (by omega) (by omega))
    · exact Pattern.matchAt?_of_length_le hreads (Nat.not_lt.1 hlt)
  | q :: qs, k, .next hle hnone hq h, hall, hrs => by
    obtain ⟨hstop, hqs⟩ := List.forall_mem_cons.1 hall
    obtain ⟨i, hi⟩ : ∃ i, q.start = before.length + i := Nat.exists_eq_add_of_le (by omega)
    have hlt := (Pattern.start_lt_of_matchAt? hreads hq).2
    rw [hi] at hq
    obtain ⟨x, hx, rfl⟩ := hp.exists_matchAt? (by omega) hq hstop
    obtain ⟨hstart, -⟩ := Pattern.start_lt_of_matchAt? hreads hx
    obtain ⟨xs, hxs, rfl⟩ := cut hp hreads h hqs hrs
    refine ⟨x :: xs, .next (by omega) (fun j hj hlt => ?_) (hstart ▸ hx) hxs, rfl⟩
    exact hp.matchAt?_eq_none (by omega) (hnone _ (by omega) (by omega))

end Leftmost

end ExerciseSheet

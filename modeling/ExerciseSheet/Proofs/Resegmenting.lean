import ExerciseSheet.Proofs.CutOut
import ExerciseSheet.Proofs.MarkerGrammar

/-!
# Segments of segments

A built marker looks at nothing but the characters it reads, and segments start where one of its
matches does and end where none goes across. So a run of consecutive segments, taken as a document,
has the matches it had (`places_cut`), and is cut into the same segments again (`split_run`).
-/

namespace ExerciseSheet

namespace Marker

open Pattern

theorem local_numberAndTitle : Local numberAndTitle :=
  ((local_again _ _ _ _ _ _).group 1).seq <| (local_again _ _ _ _ _ _).seq <|
    (local_oneOf _ _ _).seq <| ((local_again _ _ _ _ _ _).group 2).seq (local_oneOf _ _ _)

/-- A built marker looks neither behind nor ahead. -/
theorem local_build (command word : Text) : Local (build command word).pattern := by
  have htail : Local (if word.isEmpty then numberAndTitle
      else .literal true word (.seq blanks numberAndTitle)) := by
    split_ifs
    · exact local_numberAndTitle
    · exact ((local_again _ _ _ _ _ _).seq local_numberAndTitle).literal word
  exact ((local_oneOf _ _ _).seq <| (local_again _ _ _ _ _ _).seq htail).literal command

end Marker

theorem Match.LeftToRight.sublist {a b : Nat} {ps qs : List Match} (h : LeftToRight a b qs)
    (hsub : ps.Sublist qs) : LeftToRight a b ps :=
  ⟨fun p hp => h.1 p (hsub.subset hp), h.2.sublist hsub⟩

namespace Segment

variable {command word document before behind t : Text} {m : Marker} {ordinal ahead : Nat}
  {earlier run later ps qs : List Match} {first : Segment} {ss front others back : List Segment}

/-- The segment, in a document that has `ahead` segments and `offset` characters more before it. -/
def moved (ahead offset : Nat) (s : Segment) : Segment :=
  { s with ordinal := ahead + s.ordinal, start := offset + s.start }

theorem exists_of_ofMatches_append : ∀ {ordinal : Nat} {ps : List Match} {front : List Segment},
    ofMatches m document ordinal ps = .ok (front ++ back) →
    ∃ earlier later, ps = earlier ++ later ∧ earlier.length = front.length
      ∧ ofMatches m document (front.length + ordinal) later = .ok back
  | ordinal, ps, [], h => ⟨[], ps, rfl, rfl, by rwa [List.length_nil, Nat.zero_add]⟩
  | _, [], s :: front, h => by simp [ofMatches] at h
  | ordinal, p :: ps, s :: front, h => by
    obtain ⟨s', rest, -, hrest, heq⟩ := ofMatches_cons_eq_ok.1 h
    obtain ⟨rfl, rfl⟩ := List.cons.inj heq
    obtain ⟨earlier, later, rfl, hlen, hlater⟩ := exists_of_ofMatches_append hrest
    refine ⟨p :: earlier, later, rfl, by rw [List.length_cons, hlen, List.length_cons], ?_⟩
    rwa [List.length_cons, Nat.add_assoc, Nat.add_comm 1]

theorem nextStart_le (h : Match.LeftToRight 0 document.length ps) :
    nextStart document ps ≤ document.length := by
  rcases ps with _ | ⟨q, ps⟩
  · exact Nat.le_refl _
  · have := h.1 q List.mem_cons_self
    exact Nat.le_trans this.2.1 this.2.2

theorem leftToRight_places (m : Marker) (document : Text) :
    Match.LeftToRight 0 document.length (m.places document) :=
  leftToRight_filter (m.pattern.allMatches_leftToRight document)

theorem split_nil (m : Marker) : split m [] = .ok [] := by
  have hnone : m.places [] = [] := by
    refine List.eq_nil_iff_forall_not_mem.2 fun q hq => ?_
    have hlt := start_lt_of_mem_filter q hq
    have hend := ((leftToRight_places m []).1 q hq).2.2
    exact absurd (Nat.lt_of_lt_of_le hlt hend) (Nat.not_lt_zero _)
  rw [split, hnone]
  rfl

theorem stop_le_nextStart (h : Match.LeftToRight 0 document.length (run ++ later)) :
    ∀ q ∈ run, q.stop ≤ nextStart document later := by
  intro q hq
  rcases later with _ | ⟨r, later⟩
  · exact (h.1 q (List.mem_append_left _ hq)).2.2
  · exact (List.pairwise_append.1 h.2).2.2 q hq r List.mem_cons_self

theorem leftmost_nextStart {p : Pattern} (hreads : ∀ s e, e ∈ p.ways s → s.offset < e.offset) :
    ∀ {earlier : List Match} {k : Nat}, Leftmost p document k (earlier ++ later) →
      Leftmost p document (nextStart document later) later
  | [], _, h => by
    rw [List.nil_append] at h
    cases h with
    | done => exact .done fun _ => Pattern.matchAt?_of_length_le hreads
    | next _ _ hq hqs =>
      exact .next (Nat.le_refl _) (fun _ hi hlt => absurd hlt (Nat.not_lt.2 hi)) hq hqs
  | _ :: _, _, .next _ _ _ hqs => leftmost_nextStart hreads hqs

theorem tiles_of_ofMatches (h : ofMatches m document ordinal qs = .ok ss)
    (hqs : qs.Sublist (m.places document)) : Tiles document ordinal (nextStart document qs) ss :=
  ofMatches_tiles ((leftToRight_places m document).sublist hqs)
    (fun _ hp => start_lt_of_mem_filter _ (hqs.subset hp)) h

/-- The texts of the segments in front of others fill the document between the starts of both. -/
theorem Tiles.exists_around {a b ordinal' : Nat} (h : Tiles document ordinal a (ss ++ back))
    (h' : Tiles document ordinal' b back) (ha : a ≤ document.length) (hb : b ≤ document.length) :
    ∃ before behind, document = before ++ Segment.joined ss ++ behind ∧ a = before.length
      ∧ b = before.length + (Segment.joined ss).length := by
  have hcut : Segment.joined ss ++ document.drop b = document.drop a := by
    rw [← h.joined, ← h'.joined, Segment.joined, Segment.joined, Segment.joined,
      List.flatMap_append]
  have hlength := congrArg List.length hcut
  rw [List.length_append, List.length_drop, List.length_drop] at hlength
  refine ⟨document.take a, document.drop b, ?_, (List.length_take_of_le ha).symm, ?_⟩
  · rw [List.append_assoc, hcut, List.take_append_drop]
  · rw [List.length_take_of_le ha]
    omega

theorem slice_within {a b : Nat} (hb : b ≤ t.length) :
    (before ++ t ++ behind).slice (before.length + a) (before.length + b) = t.slice a b := by
  rw [Text.slice, List.append_assoc, List.take_length_add_append, List.take_append_of_le_length hb,
    List.drop_length_add_append]
  rfl

theorem ofMatch_within {q : Match} {stop : Nat} (hstop : stop ≤ t.length) :
    ofMatch m (before ++ t ++ behind) (ahead + ordinal) (q.shift before.length)
        (before.length + stop)
      = (ofMatch m t ordinal q stop).map (moved ahead before.length) := by
  have hnumber : numberOf m (q.shift before.length) = numberOf m q := rfl
  unfold ofMatch
  rw [hnumber, Match.shift, slice_within hstop]
  cases numberOf m q <;> rfl

theorem nextStart_shift (hlater : nextStart (before ++ t ++ behind) later
      = before.length + t.length) :
    nextStart (before ++ t ++ behind) (qs.map (Match.shift before.length) ++ later)
      = before.length + nextStart t qs := by
  cases qs
  · exact hlater
  · rfl

/-- The matches in a part of a document that ends where the next match starts give the segments that
they give in the document. -/
theorem ofMatches_within
    (hlater : nextStart (before ++ t ++ behind) later = before.length + t.length) :
    ∀ {ordinal : Nat} {qs : List Match} {ss : List Segment}, (∀ q ∈ qs, q.start ≤ t.length) →
      ss.length = qs.length →
      ofMatches m (before ++ t ++ behind) (ahead + ordinal)
        (qs.map (Match.shift before.length) ++ later) = .ok (ss ++ back) →
      ∃ again, ofMatches m t ordinal qs = .ok again
        ∧ again.map (moved ahead before.length) = ss
  | _, [], ss, _, hlen, _ => by
    obtain rfl := List.length_eq_zero_iff.1 hlen
    exact ⟨[], rfl, rfl⟩
  | ordinal, q :: qs, [], _, hlen, _ => by simp at hlen
  | ordinal, q :: qs, s :: ss, hin, hlen, h => by
    obtain ⟨-, hqs⟩ := List.forall_mem_cons.1 hin
    rw [List.map_cons, List.cons_append] at h
    obtain ⟨s', rest, hs, hrest, heq⟩ := ofMatches_cons_eq_ok.1 h
    obtain ⟨rfl, rfl⟩ := List.cons.inj heq
    have hstop : nextStart t qs ≤ t.length := by
      rcases qs with _ | ⟨r, qs⟩
      · exact Nat.le_refl _
      · exact hqs r List.mem_cons_self
    rw [nextStart_shift hlater, ofMatch_within hstop] at hs
    rcases hx : ofMatch m t ordinal q (nextStart t qs) with f | x <;> rw [hx] at hs <;> cases hs
    rw [Nat.add_assoc] at hrest
    obtain ⟨again, hagain, rfl⟩ := ofMatches_within hlater hqs (Nat.succ.inj hlen) hrest
    exact ⟨x :: again, ofMatches_cons_eq_ok.2 ⟨x, again, hx, hagain, rfl⟩, rfl⟩

/-- A part of a document from one match of a built marker up to another has the matches it has in
the document. -/
theorem places_cut
    (hplaces : (Marker.build command word).places (before ++ t ++ behind)
      = earlier ++ (run ++ later))
    (hrun : nextStart (before ++ t ++ behind) (run ++ later) = before.length)
    (hlater : nextStart (before ++ t ++ behind) later = before.length + t.length) :
    ((Marker.build command word).places t).map (Match.shift before.length) = run := by
  have hreads : ∀ s e, e ∈ (Marker.build command word).pattern.ways s → s.offset < e.offset :=
    fun _ _ => Marker.lt_of_mem_ways_build
  have hinside : Match.LeftToRight 0 (before ++ t ++ behind).length (run ++ later) :=
    (leftToRight_places _ _).sublist (hplaces ▸ List.sublist_append_right _ _)
  have hleft := Marker.leftmost_build command word (before ++ t ++ behind)
  rw [hplaces] at hleft
  have hfrom := leftmost_nextStart hreads hleft
  rw [hrun, ← Nat.add_zero before.length] at hfrom
  have hnext : ∀ q ∈ later.head?, before.length + t.length ≤ q.start := by
    intro q hq
    obtain ⟨r, rfl⟩ := List.head?_eq_some_iff.1 hq
    exact hlater.ge
  obtain ⟨xs, hxs, hmap⟩ := hfrom.cut (Marker.local_build command word) hreads
    (hlater ▸ stop_le_nextStart hinside) hnext
  rw [(Marker.leftmost_build command word t).unique hxs, hmap]

/-- Consecutive segments, taken as a document, are its segments. -/
theorem split_run
    (h : split (Marker.build command word) document = .ok (front ++ (first :: others ++ back))) :
    ∃ again, split (Marker.build command word) (joined (first :: others)) = .ok again
      ∧ again.map (moved front.length first.start) = first :: others := by
  obtain ⟨earlier, rest, hplaces, -, hrest⟩ := exists_of_ofMatches_append h
  obtain ⟨run, later, rfl, hlen, hlater⟩ := exists_of_ofMatches_append hrest
  have hsub : (run ++ later).Sublist ((Marker.build command word).places document) :=
    hplaces ▸ List.sublist_append_right _ _
  have hsub' : later.Sublist ((Marker.build command word).places document) :=
    (List.sublist_append_right _ _).trans hsub
  have htiles := tiles_of_ofMatches hrest hsub
  have htiles' := tiles_of_ofMatches hlater hsub'
  obtain ⟨before, behind, rfl, hbefore, hbehind⟩ := htiles.exists_around htiles'
    (nextStart_le ((leftToRight_places _ _).sublist hsub))
    (nextStart_le ((leftToRight_places _ _).sublist hsub'))
  rw [htiles.head_start first rfl, hbefore]
  obtain rfl := places_cut hplaces hbefore hbehind
  refine ofMatches_within hbehind (fun q hq => ?_) ?_ hrest
  · have := (leftToRight_places _ _).1 q hq
    omega
  · rw [← hlen, List.length_map]

/-- Each segment that a built marker starts is, taken as a document, its only segment, and the
joined segments are cut as they were. -/
theorem segments_stand_alone (h : split (Marker.build command word) document = .ok ss) :
    (∀ s ∈ ss, split (Marker.build command word) s.text = .ok [{ s with ordinal := 1, start := 0 }])
      ∧ ∃ again, split (Marker.build command word) (joined ss) = .ok again
        ∧ again.map (moved 0 (ss.head?.elim 0 (·.start))) = ss := by
  constructor
  · intro s hs
    obtain ⟨front, back, rfl⟩ := List.append_of_mem hs
    have hsplit : split (Marker.build command word) document = .ok (front ++ ([s] ++ back)) := h
    obtain ⟨again, hagain, hmap⟩ := split_run hsplit
    obtain ⟨x, rfl, hx⟩ := List.map_eq_singleton_iff.1 hmap
    have hordinal : x.ordinal = 1 := (tiles_of_ofMatches hagain (List.Sublist.refl _)).1
    have hstart : x.start = 0 := Nat.left_eq_add.1 (congrArg Segment.start hx).symm
    rw [joined, List.flatMap_singleton] at hagain
    rw [hagain, ← hx, moved, ← hordinal, ← hstart]
  · rcases ss with _ | ⟨first, others⟩
    · exact ⟨[], split_nil _, rfl⟩
    · have hsplit : split (Marker.build command word) document
          = .ok ([] ++ (first :: others ++ [])) := by rwa [List.append_nil]
      exact split_run hsplit

/-- A marker inside the title of another, one that breaks off, and one that is never closed. -/
def nestedMarkers : Text :=
  ['x', 'M', '\x7b', '1', ':', 'M', '\x7b', '2', ':', 'a', '\x7d', 'M', '\x7b', '3', ' ', 'M',
    '\x7b', '4', ':', ' ', 'b', '\x7d', 'M', '\x7b', '5', ':', 'c']

/-- The segments of `nestedMarkers`. -/
def nestedSegments : List Segment :=
  [⟨1, ['M', '\x7b', '1', ':', 'M', '\x7b', '2', ':', 'a', '\x7d', 'M', '\x7b', '3', ' '], 1,
      some 1, ['M', '\x7b', '2', ':', 'a']⟩,
    ⟨2, ['M', '\x7b', '4', ':', ' ', 'b', '\x7d', 'M', '\x7b', '5', ':', 'c'], 15, some 4, ['b']⟩]

theorem segments_stand_alone_of_nested_markers :
    split (Marker.build ['M'] []) nestedMarkers = .ok nestedSegments
      ∧ (∀ s ∈ nestedSegments,
        split (Marker.build ['M'] []) s.text = .ok [{ s with ordinal := 1, start := 0 }])
      ∧ ∃ again, split (Marker.build ['M'] []) (joined nestedSegments) = .ok again
        ∧ again.map (moved 0 1) = nestedSegments := by
  have h : split (Marker.build ['M'] []) nestedMarkers = .ok nestedSegments := rfl
  exact ⟨h, segments_stand_alone h⟩

end Segment

end ExerciseSheet

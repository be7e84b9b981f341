import ExerciseSheet.Proofs.Matching
import ExerciseSheet.Proofs.Sequencing
import Mathlib.Data.List.Chain

/-!
# Segments partition a document

Matches from left to right cut the document from the first of them on into segments that follow one
another without a gap (`ofMatches_tiles`): each starts at its match and stops where the next one
starts, the last one at the end, so their texts together are that part of the document
(`Tiles.joined`). The matches of every pattern go from left to right, whatever it is, and so the
segments of a document partition it (`split_partitions`).
-/

namespace ExerciseSheet

namespace Segment

variable {m : Marker} {document : Text} {ordinal start : Nat} {p : Match} {ps found : List Match}
  {s : Segment} {ss : List Segment}

/-- The segments that some matches cut, those that read nothing being left out. -/
def ofFound (m : Marker) (document : Text) (found : List Match) : Except Fault (List Segment) :=
  ofMatches m document 1 (found.filter fun p => p.start < p.stop)

theorem split_eq_ofFound (m : Marker) (document : Text) :
    split m document = ofFound m document (m.pattern.allMatches document) := rfl

/-- Where the first of the matches starts, or else the document ends. -/
def nextStart (document : Text) : List Match → Nat
  | q :: _ => q.start
  | [] => document.length

/-- Segments numbered from `ordinal` on that follow one another without a gap, from `start` up to
the end of the document. -/
def Tiles (document : Text) : (ordinal start : Nat) → List Segment → Prop
  | _, start, [] => start = document.length
  | ordinal, start, s :: ss =>
    s.ordinal = ordinal ∧ s.start = start ∧ s.text ≠ [] ∧ document.slice start s.stop = s.text
      ∧ Tiles document (ordinal + 1) s.stop ss

theorem ofMatch_eq_ok {stop : Nat} (h : ofMatch m document ordinal p stop = .ok s) :
    numberOf m p = .ok s.number ∧ s.ordinal = ordinal ∧ s.start = p.start
      ∧ s.text = document.slice p.start stop := by
  unfold ofMatch at h
  rcases hn : numberOf m p with f | number <;> rw [hn] at h
  · cases h
  · cases h
    exact ⟨rfl, rfl, rfl, rfl⟩

theorem ofMatch_isOk (m : Marker) (document : Text) (ordinal : Nat) (p : Match) (stop : Nat) :
    (∃ s, ofMatch m document ordinal p stop = .ok s) ↔ ∃ n, numberOf m p = .ok n := by
  constructor
  · rintro ⟨s, h⟩
    exact ⟨_, (ofMatch_eq_ok h).1⟩
  · rintro ⟨n, hn⟩
    unfold ofMatch
    rw [hn]
    exact ⟨_, rfl⟩

theorem ofMatches_cons :
    ofMatches m document ordinal (p :: ps) = do
      let s ← ofMatch m document ordinal p (nextStart document ps)
      return s :: (← ofMatches m document (ordinal + 1) ps) := by
  cases ps <;> rfl

theorem ofMatches_cons_eq_ok :
    ofMatches m document ordinal (p :: ps) = .ok ss ↔
      ∃ s rest, ofMatch m document ordinal p (nextStart document ps) = .ok s
        ∧ ofMatches m document (ordinal + 1) ps = .ok rest ∧ ss = s :: rest := by
  simp only [ofMatches_cons, bind_eq_ok_iff, pure, Except.pure, Except.ok.injEq, exists_and_left,
    eq_comm (a := ss)]

theorem ofMatches_isOk (m : Marker) (document : Text) : ∀ (ordinal : Nat) (ps : List Match),
    (∃ ss, ofMatches m document ordinal ps = .ok ss) ↔ ∀ p ∈ ps, ∃ n, numberOf m p = .ok n
  | _, [] => by simp [ofMatches]
  | ordinal, p :: ps => by
    rw [List.forall_mem_cons, ← ofMatches_isOk m document (ordinal + 1),
      ← ofMatch_isOk m document ordinal p (nextStart document ps)]
    constructor
    · rintro ⟨ss, h⟩
      obtain ⟨s, rest, hs, hrest, -⟩ := ofMatches_cons_eq_ok.1 h
      exact ⟨⟨s, hs⟩, rest, hrest⟩
    · rintro ⟨⟨s, hs⟩, rest, hrest⟩
      exact ⟨s :: rest, ofMatches_cons_eq_ok.2 ⟨s, rest, hs, hrest, rfl⟩⟩

theorem starts_ofMatches : ∀ {ordinal : Nat} {ps : List Match} {ss : List Segment},
    ofMatches m document ordinal ps = .ok ss → ss.map (·.start) = ps.map (·.start)
  | _, [], _, h => by
    cases h
    rfl
  | ordinal, p :: ps, ss, h => by
    obtain ⟨s, rest, hs, hrest, rfl⟩ := ofMatches_cons_eq_ok.1 h
    rw [List.map_cons, List.map_cons, starts_ofMatches hrest, (ofMatch_eq_ok hs).2.2.1]

theorem numberOf_of_mem_ofMatches : ∀ {ordinal : Nat} {ps : List Match} {ss : List Segment},
    ofMatches m document ordinal ps = .ok ss → s ∈ ss → ∃ p ∈ ps, numberOf m p = .ok s.number
  | _, [], _, h, hs => by
    cases h
    simp at hs
  | ordinal, p :: ps, ss, h, hs => by
    obtain ⟨t, rest, ht, hrest, rfl⟩ := ofMatches_cons_eq_ok.1 h
    rcases List.mem_cons.1 hs with rfl | hs
    · exact ⟨p, List.mem_cons_self, (ofMatch_eq_ok ht).1⟩
    · obtain ⟨q, hq, hnumber⟩ := numberOf_of_mem_ofMatches hrest hs
      exact ⟨q, List.mem_cons_of_mem _ hq, hnumber⟩

/-- Every segment that a built marker starts has a number. -/
theorem number_isSome_of_build {command word : Text}
    (h : split (Marker.build command word) document = .ok ss) (hs : s ∈ ss) :
    s.number.isSome = true := by
  obtain ⟨p, hp, hnumber⟩ := numberOf_of_mem_ofMatches h hs
  rw [Option.isSome_iff_ne_none]
  intro hnone
  rw [hnone] at hnumber
  exact numberOf_build_ne_none hp hnumber

theorem nextStart_bounds (h : Match.LeftToRight start document.length (p :: ps)) :
    p.stop ≤ nextStart document ps ∧ nextStart document ps ≤ document.length := by
  obtain ⟨hin, hpair⟩ := h
  rcases ps with _ | ⟨q, ps⟩
  · exact ⟨(hin p List.mem_cons_self).2.2, Nat.le_refl _⟩
  · have hq := hin q (List.mem_cons_of_mem _ List.mem_cons_self)
    exact ⟨(List.pairwise_cons.1 hpair).1 q List.mem_cons_self, Nat.le_trans hq.2.1 hq.2.2⟩

/-- Matches from left to right, each of which reads something, cut the document from the first of
them on without a gap. -/
theorem ofMatches_tiles : ∀ {ordinal : Nat} {ps : List Match} {ss : List Segment},
    Match.LeftToRight start document.length ps → (∀ p ∈ ps, p.start < p.stop) →
    ofMatches m document ordinal ps = .ok ss → Tiles document ordinal (nextStart document ps) ss
  | _, [], _, _, _, h => by
    cases h
    rfl
  | ordinal, p :: ps, ss, hps, hne, h => by
    obtain ⟨s, rest, hs, hrest, rfl⟩ := ofMatches_cons_eq_ok.1 h
    obtain ⟨-, hordinal, hstart, htext⟩ := ofMatch_eq_ok hs
    obtain ⟨hle, hend⟩ := nextStart_bounds hps
    have hlt : p.start < nextStart document ps :=
      Nat.lt_of_lt_of_le (hne p List.mem_cons_self) hle
    have hlen : s.text.length = nextStart document ps - p.start := by
      rw [htext, length_slice hend]
    have hstop : s.stop = nextStart document ps := by
      rw [stop, hstart, hlen]
      omega
    refine ⟨hordinal, hstart, ?_, ?_, ?_⟩
    · intro hnil
      rw [hnil, List.length_nil] at hlen
      omega
    · rw [hstop]
      exact htext.symm
    · rw [hstop]
      exact ofMatches_tiles ⟨fun q hq => hps.1 q (List.mem_cons_of_mem _ hq),
        (List.pairwise_cons.1 hps.2).2⟩ (fun q hq => hne q (List.mem_cons_of_mem _ hq)) hrest

theorem Tiles.ordinals : ∀ {ordinal start : Nat} {ss : List Segment},
    Tiles document ordinal start ss → ss.map (·.ordinal) = List.range' ordinal ss.length
  | _, _, [], _ => rfl
  | _, _, _ :: _, ⟨hordinal, _, _, _, hss⟩ => by
    rw [List.map_cons, hss.ordinals, hordinal, List.length_cons, List.range'_succ]

theorem Tiles.joined : ∀ {ordinal start : Nat} {ss : List Segment},
    Tiles document ordinal start ss → joined ss = document.drop start
  | _, start, [], h => by
    rw [show start = document.length from h, List.drop_length]
    rfl
  | _, start, s :: ss, ⟨_, hstart, _, hcut, hss⟩ => by
    have hstop : s.stop - start + start = s.stop := by
      rw [Segment.stop, hstart]
      omega
    have hrest : Segment.joined ss = (document.drop start).drop (s.stop - start) := by
      rw [hss.joined, List.drop_drop, Nat.add_comm, hstop]
    rw [Segment.joined, List.flatMap_cons, ← Segment.joined, hrest, ← hcut, slice_eq_take_drop,
      List.take_append_drop]

theorem Tiles.head_start (h : Tiles document ordinal start ss) :
    ∀ s ∈ ss.head?, s.start = start := by
  rintro s hs
  rcases ss with _ | ⟨t, ss⟩
  · simp at hs
  · obtain rfl : t = s := by simpa using hs
    exact h.2.1

theorem Tiles.adjacent : ∀ {ordinal start : Nat} {ss : List Segment},
    Tiles document ordinal start ss → ss.IsChain fun s t => s.stop = t.start
  | _, _, [], _ => .nil
  | _, _, _ :: _, ⟨_, _, _, _, hss⟩ =>
    List.isChain_cons.2 ⟨fun t ht => (hss.head_start t ht).symm, hss.adjacent⟩

theorem Tiles.ends : ∀ {ordinal start : Nat} {ss : List Segment},
    Tiles document ordinal start ss → ∀ s ∈ ss.getLast?, s.stop = document.length
  | _, _, [], _, _, h => by simp at h
  | _, _, [t], ⟨_, _, _, _, hnil⟩, s, h => by
    obtain rfl : t = s := by simpa using h
    exact hnil
  | _, _, _ :: t :: ss, ⟨_, _, _, _, hss⟩, s, h => by
    rw [List.getLast?_cons_cons] at h
    exact hss.ends s h

theorem Tiles.cuts : ∀ {ordinal start : Nat} {ss : List Segment},
    Tiles document ordinal start ss →
    ∀ s ∈ ss, document.slice s.start s.stop = s.text ∧ s.text ≠ []
  | _, _, [], _, _, h => by simp at h
  | _, _, _ :: _, ⟨_, hstart, hne, hcut, hss⟩, s, h => by
    rcases List.mem_cons.1 h with rfl | h
    · rw [hstart]
      exact ⟨hcut, hne⟩
    · exact hss.cuts s h

/-- The segments partition the document from the first match on that reads something. -/
structure Partitions (document : Text) (found : List Match) (ss : List Segment) : Prop where
  ordinals : ss.map (·.ordinal) = List.range' 1 ss.length
  starts : ss.map (·.start) = (found.filter fun p => p.start < p.stop).map (·.start)
  increasing : (ss.map (·.start)).Pairwise (· < ·)
  adjacent : ss.IsChain fun s t => s.stop = t.start
  ends : ∀ s ∈ ss.getLast?, s.stop = document.length
  cuts : ∀ s ∈ ss, document.slice s.start s.stop = s.text ∧ s.text ≠ []
  covers : ∀ s ∈ ss.head?, document.take s.start ++ joined ss = document

theorem leftToRight_filter (h : Match.LeftToRight 0 document.length found) :
    Match.LeftToRight 0 document.length (found.filter fun p => p.start < p.stop) :=
  ⟨fun p hp => h.1 p (List.mem_filter.1 hp).1, h.2.filter _⟩

theorem start_lt_of_mem_filter : ∀ p ∈ found.filter fun p => p.start < p.stop,
    p.start < p.stop := fun p hp => by simpa using (List.mem_filter.1 hp).2

theorem ofFound_tiles (hfound : Match.LeftToRight 0 document.length found)
    (h : ofFound m document found = .ok ss) :
    Tiles document 1 (nextStart document (found.filter fun p => p.start < p.stop)) ss :=
  ofMatches_tiles (leftToRight_filter hfound) start_lt_of_mem_filter h

theorem ofFound_partitions (hfound : Match.LeftToRight 0 document.length found)
    (h : ofFound m document found = .ok ss) : Partitions document found ss := by
  have htiles := ofFound_tiles hfound h
  have hstarts := starts_ofMatches h
  refine ⟨htiles.ordinals, hstarts, ?_, htiles.adjacent, htiles.ends, htiles.cuts, ?_⟩
  · rw [hstarts, List.pairwise_map]
    refine (leftToRight_filter hfound).2.imp_of_mem fun hp _ hpq => ?_
    exact Nat.lt_of_lt_of_le (start_lt_of_mem_filter _ hp) hpq
  · intro s hs
    rw [htiles.joined, htiles.head_start s hs, List.take_append_drop]

/-- The segments of a document partition it from the first match on, for every pattern and for
whatever finds its matches from left to right. They are all there as soon as the numbers in the
matches can be read, and there is none exactly when no match reads anything. -/
theorem split_partitions (m : Marker) (document : Text) :
    split m document = ofFound m document (m.pattern.allMatches document)
      ∧ Match.LeftToRight 0 document.length (m.pattern.allMatches document)
      ∧ ∀ found, Match.LeftToRight 0 document.length found →
        (∀ ss, ofFound m document found = .ok ss → Partitions document found ss)
        ∧ ((∃ ss, ofFound m document found = .ok ss)
          ↔ ∀ p ∈ found, p.start < p.stop → ∃ n, numberOf m p = .ok n)
        ∧ (ofFound m document found = .ok [] ↔ ∀ p ∈ found, ¬ p.start < p.stop) := by
  refine ⟨split_eq_ofFound m document, m.pattern.allMatches_leftToRight document,
    fun found hfound => ⟨?_, ?_, ?_⟩⟩
  · exact fun ss => ofFound_partitions hfound
  · rw [ofFound, ofMatches_isOk]
    simp only [List.mem_filter, decide_eq_true_eq, and_imp]
  · have hnone : (found.filter fun p => decide (p.start < p.stop)) = []
        ↔ ∀ p ∈ found, ¬ p.start < p.stop := by simp [List.filter_eq_nil_iff]
    rw [← hnone]
    constructor
    · intro h
      simpa using (starts_ofMatches h).symm
    · intro h
      rw [ofFound, h]
      rfl

theorem split_partitions_between_empty_matches :
    Match.LeftToRight 0 5 [⟨0, 0, []⟩, ⟨1, 2, []⟩, ⟨2, 2, []⟩, ⟨3, 4, []⟩]
      ∧ ofFound ⟨.char false 'M', none, none⟩ ['a', 'M', 'b', 'M', 'c']
          [⟨0, 0, []⟩, ⟨1, 2, []⟩, ⟨2, 2, []⟩, ⟨3, 4, []⟩]
        = .ok [⟨1, ['M', 'b'], 1, none, []⟩, ⟨2, ['M', 'c'], 3, none, []⟩]
      ∧ Partitions ['a', 'M', 'b', 'M', 'c'] [⟨0, 0, []⟩, ⟨1, 2, []⟩, ⟨2, 2, []⟩, ⟨3, 4, []⟩]
          [⟨1, ['M', 'b'], 1, none, []⟩, ⟨2, ['M', 'c'], 3, none, []⟩] := by
  have hfound : Match.LeftToRight 0 5 [⟨0, 0, []⟩, ⟨1, 2, []⟩, ⟨2, 2, []⟩, ⟨3, 4, []⟩] :=
    ⟨by decide, by decide⟩
  refine ⟨hfound, rfl, ?_⟩
  exact ((split_partitions ⟨.char false 'M', none, none⟩ ['a', 'M', 'b', 'M', 'c']).2.2 _
    hfound).1 _ rfl

end Segment

end ExerciseSheet

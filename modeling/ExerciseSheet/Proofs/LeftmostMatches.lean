import ExerciseSheet.Proofs.Matching

/-!
# The leftmost match, again and again

A search only ever stands at an offset of its text with what precedes it there (`Spot.LiesIn`). So
for a pattern that never matches without reading, it takes the leftmost match at or behind the end
of the match before, until there is none (`leftmost_allMatches`): an attempt that fails on the way
hides no later match.
-/

namespace ExerciseSheet

variable {t : Text} {s e : Spot} {p : Pattern} {i k : Nat} {q : Match} {qs : List Match}

/-- The spot at an offset of a text, before anything is read from there. -/
def Spot.ofOffset (t : Text) (i : Nat) : Spot := ⟨i, (t.take i).getLast?, t.drop i, []⟩

namespace Spot

/-- The spot is where reading some first part of the text leads. -/
def LiesIn (t : Text) (s : Spot) : Prop :=
  ∃ read, t = read ++ s.rest ∧ s.offset = read.length ∧ s.before = read.getLast?

theorem liesIn_ofOffset (h : i ≤ t.length) : (ofOffset t i).LiesIn t :=
  ⟨t.take i, (List.take_append_drop i t).symm, (List.length_take_of_le h).symm, rfl⟩

theorem LiesIn.offset_le (h : s.LiesIn t) : s.offset ≤ t.length := by
  obtain ⟨read, rfl, hoffset, -⟩ := h
  rw [List.length_append, hoffset]
  exact Nat.le_add_right _ _

theorem LiesIn.eq_ofOffset (h : s.LiesIn t) : { s with groups := [] } = ofOffset t s.offset := by
  obtain ⟨read, rfl, hoffset, hbefore⟩ := h
  rw [ofOffset, hoffset, List.take_left, List.drop_left, hbefore]

theorem LiesIn.after {c : Char} {rest : Text} (h : s.LiesIn t) (hrest : s.rest = c :: rest) :
    (s.after c rest).LiesIn t := by
  obtain ⟨read, rfl, hoffset, -⟩ := h
  refine ⟨read ++ [c], by simp [Spot.after, hrest], by simp [Spot.after, hoffset], ?_⟩
  rw [List.getLast?_concat]
  rfl

theorem respected_liesIn (t : Text) : Respected fun s e => s.LiesIn t → e.LiesIn t where
  refl _ h := h
  trans h h' hs := h' (h hs)
  after hrest h := h.after hrest
  keep _ h hs := h hs
  ahead _ hs := hs

theorem LiesIn.of_mem_ways (h : s.LiesIn t) (he : e ∈ p.ways s) : e.LiesIn t :=
  (respected_liesIn t).of_mem_ways he h

end Spot

/-- The match that starts at an offset of a text, if one does. -/
def Pattern.matchAt? (p : Pattern) (t : Text) (i : Nat) : Option Match :=
  (p.firstWay? false (.ofOffset t i)).map fun e => ⟨i, e.offset, e.groups⟩

/-- The matches in a text from an offset on: the leftmost that starts there or behind, then those
from its end on. -/
inductive Leftmost (p : Pattern) (t : Text) : (k : Nat) → List Match → Prop where
  | done {k : Nat} : (∀ i, k ≤ i → p.matchAt? t i = none) → Leftmost p t k []
  | next {k : Nat} {q : Match} {qs : List Match} : k ≤ q.start →
      (∀ i, k ≤ i → i < q.start → p.matchAt? t i = none) → p.matchAt? t q.start = some q →
      Leftmost p t q.stop qs → Leftmost p t k (q :: qs)

namespace Leftmost

theorem of_succ (h : Leftmost p t (k + 1) qs) (hk : p.matchAt? t k = none) :
    Leftmost p t k qs := by
  have hfirst : ∀ {i}, k ≤ i → i = k ∨ k + 1 ≤ i := by omega
  cases h with
  | done hnone =>
    refine .done fun i hi => ?_
    rcases hfirst hi with rfl | hi
    · exact hk
    · exact hnone i hi
  | next hle hnone hq hqs =>
    refine .next (Nat.le_of_succ_le hle) (fun i hi hlt => ?_) hq hqs
    rcases hfirst hi with rfl | hi
    · exact hk
    · exact hnone i hi hlt

theorem matchAt?_of_mem (h : Leftmost p t k qs) : ∀ q ∈ qs, p.matchAt? t q.start = some q := by
  induction h with
  | done => simp
  | next _ _ hq _ ih => exact List.forall_mem_cons.2 ⟨hq, ih⟩

/-- A leftmost match stands at one offset only, so there is no choice among the matches. -/
theorem unique {qs' : List Match} (h : Leftmost p t k qs) (h' : Leftmost p t k qs') : qs = qs' := by
  induction h generalizing qs' with
  | done hnone =>
    cases h' with
    | done => rfl
    | next hle _ hq => exact absurd hq (by simp [hnone _ hle])
  | @next k q qs hle hnone hq hqs ih =>
    cases h' with
    | done hnone' => exact absurd hq (by simp [hnone' _ hle])
    | @next _ q' qs' hle' hnone' hq' hqs' =>
      have hstart : q.start = q'.start := by
        rcases Nat.lt_trichotomy q.start q'.start with hlt | heq | hlt
        · exact absurd hq (by simp [hnone' _ hle hlt])
        · exact heq
        · exact absurd hq' (by simp [hnone _ hle' hlt])
      obtain rfl : q = q' := Option.some.inj (hq.symm.trans (hstart ▸ hq'))
      rw [ih hqs']

end Leftmost

namespace Pattern

theorem matchAt?_eq_some (h : p.matchAt? t i = some q) :
    ∃ e ∈ p.ways (.ofOffset t i), q = ⟨i, e.offset, e.groups⟩ := by
  obtain ⟨e, he, hq⟩ := Option.map_eq_some_iff.1 h
  exact ⟨e, mem_ways_of_firstWay? he, hq.symm⟩

section Reads

variable (hreads : ∀ s e, e ∈ p.ways s → s.offset < e.offset)
include hreads

theorem matchAt?_of_length_le (h : t.length ≤ i) : p.matchAt? t i = none := by
  rcases hq : p.matchAt? t i with _ | q
  · rfl
  · obtain ⟨e, he, -⟩ := matchAt?_eq_some hq
    have hend := (leadsTo_of_mem_ways he).offset_le.2
    have := hreads _ e he
    simp only [Spot.ofOffset, List.drop_of_length_le h, List.length_nil] at hend this
    omega

theorem leftmost_matchesFrom : ∀ {fuel i : Nat}, i ≤ t.length → t.length - i < fuel →
    Leftmost p t i (p.matchesFrom fuel false (.ofOffset t i))
  | 0, _, _, hfuel => absurd hfuel (Nat.not_lt_zero _)
  | fuel + 1, i, hi, hfuel => by
    have hlies := Spot.liesIn_ofOffset hi
    rw [matchesFrom]
    rcases he : p.firstWay? false (.ofOffset t i) with _ | e
    · have hnone : p.matchAt? t i = none := by rw [matchAt?, he, Option.map_none]
      rcases hrest : (Spot.ofOffset t i).rest with _ | ⟨c, rest⟩
      · have hend : t.length ≤ i := List.drop_eq_nil_iff.1 hrest
        exact .done fun j hj => matchAt?_of_length_le hreads (Nat.le_trans hend hj)
      · have hlt : i < t.length := by
          rw [← Nat.not_le, ← List.drop_eq_nil_iff]
          exact fun hnil => List.cons_ne_nil _ _ (hrest.symm.trans hnil)
        have hafter := (hlies.after hrest).eq_ofOffset
        simp only
        rw [show (Spot.ofOffset t i).after c rest = .ofOffset t (i + 1) from hafter]
        exact (leftmost_matchesFrom hlt (by omega)).of_succ hnone
    · have hways := mem_ways_of_firstWay? he
      have hmoved : i < e.offset := hreads _ e hways
      have hend := (hlies.of_mem_ways hways).offset_le
      have hstays : (e.offset == i) = false := beq_eq_false_iff_ne.2 (Nat.ne_of_gt hmoved)
      refine .next (Nat.le_refl i) (fun j hj hlt => absurd hlt (Nat.not_lt.2 hj)) ?_ ?_
      · exact congrArg (Option.map fun e => (⟨i, e.offset, e.groups⟩ : Match)) he
      · simp only [(hlies.of_mem_ways hways).eq_ofOffset]
        rw [show (e.offset == (Spot.ofOffset t i).offset) = false from hstays]
        exact leftmost_matchesFrom hend (by omega)

/-- The matches of a pattern that always reads something are the leftmost ones, each from the end of
the one before on. -/
theorem leftmost_allMatches (t : Text) : Leftmost p t 0 (p.allMatches t) :=
  leftmost_matchesFrom hreads (Nat.zero_le _) (by omega)

end Reads

end Pattern

end ExerciseSheet

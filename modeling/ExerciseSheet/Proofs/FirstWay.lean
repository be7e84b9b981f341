import ExerciseSheet.Proofs.CaseVariants
import ExerciseSheet.Proofs.Matching

/-!
# The way that a pattern prefers

A search takes the first way of a pattern (`firstWay?_of_prefers`), and that is put together from
the first ways of its parts: an eager run of characters reads as many as there are
(`prefers_again`), and what follows goes on behind them (`Prefers.seq`). Where a pattern has no way,
the search moves on, so a built marker is found nowhere in a text that never spells its command
(`matchesFrom_build_eq_nil`).
-/

namespace ExerciseSheet

namespace Spot

variable {s : Spot} {t u r : Text}

/-- The spot after reading `t`, which stands before `rest`. -/
def afterText (s : Spot) (t rest : Text) : Spot :=
  ⟨s.offset + t.length, t.getLast?.or s.before, rest, s.groups⟩

theorem afterText_nil (h : s.rest = r) : s.afterText [] r = s := by
  cases h
  rfl

theorem afterText_afterText (s : Spot) (t u v r : Text) :
    (s.afterText t v).afterText u r = s.afterText (t ++ u) r := by
  simp only [afterText, List.length_append, List.getLast?_append, Option.or_assoc, Nat.add_assoc]

theorem after_eq_afterText (s : Spot) (c : Char) (r : Text) : s.after c r = s.afterText [c] r := rfl

/-- The spot after a group has read `t`, which stands before `rest`. -/
def afterGroup (s : Spot) (number : Nat) (t rest : Text) : Spot :=
  { s.afterText t rest with groups := (number, t) :: s.groups }

theorem keep_afterText (h : s.rest = t ++ r) (number : Nat) :
    (s.afterText t r).keep number s = s.afterGroup number t r := by
  simp only [keep, afterGroup, afterText, h, Nat.add_sub_cancel_left, List.take_left]

end Spot

theorem waysAgain_eager_succ {body : Spot → List Spot} {least fuel count : Nat}
    {last : Option Nat} {s : Spot} (hlast : ∀ o ∈ last, o < s.offset) :
    waysAgain body least none true (fuel + 1) count last s
      = if count < least then
          (body s).flatMap (waysAgain body least none true fuel (count + 1) last)
        else (body s).flatMap (waysAgain body least none true fuel (count + 1) (some s.offset))
          ++ [s] := by
  have hnew : last ≠ some s.offset := fun h => Nat.lt_irrefl _ (hlast _ h)
  simp [waysAgain, hnew]

/-- An eager run of a set's characters is first read to its end. -/
theorem head?_waysAgain {test : Char → Bool} {least : Nat} {r : Text}
    (hr : ∀ c ∈ r.head?, test c = false) : ∀ {t : Text} {fuel count : Nat} {last : Option Nat}
    {s : Spot}, s.rest = t ++ r → (∀ c ∈ t, test c = true) → least ≤ count + t.length →
    t.length < fuel → (∀ o ∈ last, o < s.offset) →
    (waysAgain (·.readIf test) least none true fuel count last s).head? = some (s.afterText t r)
  | _, 0, _, _, _, _, _, _, hfuel, _ => absurd hfuel (Nat.not_lt_zero _)
  | [], fuel + 1, count, last, s, hrest, _, hleast, _, hlast => by
    have hread : s.readIf test = [] := by
      unfold Spot.readIf
      rw [hrest, List.nil_append]
      rcases r with _ | ⟨c, r⟩
      · rfl
      · simp [hr c rfl]
    have hdone : ¬ count < least := Nat.not_lt.2 hleast
    rw [waysAgain_eager_succ hlast, if_neg hdone, hread, Spot.afterText_nil (r := r) hrest]
    rfl
  | c :: t, fuel + 1, count, last, s, hrest, ht, hleast, hfuel, hlast => by
    obtain ⟨hc, ht⟩ := List.forall_mem_cons.1 ht
    have hread : s.readIf test = [s.afterText [c] (t ++ r)] := by
      unfold Spot.readIf
      rw [hrest, List.cons_append]
      exact if_pos hc
    have hnext : ∀ {last' : Option Nat}, (∀ o ∈ last', o ≤ s.offset) →
        (waysAgain (·.readIf test) least none true fuel (count + 1) last'
          (s.afterText [c] (t ++ r))).head? = some (s.afterText (c :: t) r) := by
      intro last' hlast'
      rw [List.length_cons] at hleast
      rw [head?_waysAgain hr rfl ht (by omega) (Nat.lt_of_succ_lt_succ hfuel)
        (fun o ho => Nat.lt_succ_of_le (hlast' o ho)), Spot.afterText_afterText,
        List.singleton_append]
    rw [waysAgain_eager_succ hlast, hread]
    simp only [List.flatMap_cons, List.flatMap_nil, List.append_nil]
    split_ifs
    · exact hnext fun o ho => Nat.le_of_lt (hlast o ho)
    · rw [List.head?_append, hnext (by simp), Option.some_or]

namespace Pattern

/-- The first way of the pattern from `s` leads to `e`. -/
def Prefers (p : Pattern) (s e : Spot) : Prop := (p.ways s).head? = some e

variable {p q : Pattern} {s d e : Spot} {t r : Text}

theorem Prefers.seq (h : p.Prefers s d) (h' : q.Prefers d e) : (seq p q).Prefers s e := by
  obtain ⟨ds, hds⟩ := List.head?_eq_some_iff.1 h
  unfold Prefers ways
  rw [hds, List.flatMap_cons, List.head?_append, h', Option.some_or]

theorem Prefers.group (hrest : s.rest = t ++ r) (number : Nat) (h : p.Prefers s (s.afterText t r)) :
    (group number p).Prefers s (s.afterGroup number t r) := by
  unfold Prefers ways
  rw [List.head?_map, h, Option.map_some, Spot.keep_afterText hrest]

theorem prefers_char {fold : Bool} {c x : Char} (hrest : s.rest = c :: r)
    (h : ClassItem.holds fold c (.one x) = true) :
    (char fold x).Prefers s (s.afterText [c] r) := by
  unfold Prefers char ways Spot.readIf
  rw [hrest]
  simp [h, Spot.after_eq_afterText]

/-- A text is read wherever it is spelled, and what follows goes on behind it. -/
theorem prefers_literal {fold : Bool} : ∀ {t u : Text} {s : Spot}, s.rest = t ++ r →
    List.Forall₂ (fun c x => ClassItem.holds fold c (.one x) = true) t u →
    p.Prefers (s.afterText t r) e → (literal fold u p).Prefers s e
  | [], _, s, hrest, .nil, h => by rwa [Spot.afterText_nil (r := r) hrest] at h
  | c :: t, _, s, hrest, .cons hc ht, h => by
    refine (prefers_char hrest hc).seq (prefers_literal rfl ht ?_)
    rwa [Spot.afterText_afterText]

/-- An eager run of a set's characters is read to its end, if that is far enough. -/
theorem prefers_again {fold negated : Bool} {items : List ClassItem} {least : Nat}
    (hrest : s.rest = t ++ r) (ht : ∀ c ∈ t, (items.any (·.holds fold c) != negated) = true)
    (hr : ∀ c ∈ r.head?, (items.any (·.holds fold c) != negated) = false)
    (hleast : least ≤ t.length) :
    (again least none true (oneOf fold negated items)).Prefers s (s.afterText t r) := by
  refine head?_waysAgain hr hrest ht (by omega) ?_ (by simp)
  rw [hrest, List.length_append]
  omega

theorem firstWay?_of_prefers (h : p.Prefers s e) : p.firstWay? false s = some e := by
  obtain ⟨es, hes⟩ := List.head?_eq_some_iff.1 h
  rw [firstWay?, search_eq_findSome?, hes]
  rfl

theorem firstWay?_of_no_way {advance : Bool} (h : p.ways s = []) :
    p.firstWay? advance s = none := by
  rw [firstWay?, search_eq_findSome?, h]
  rfl

/-- The way that is preferred becomes a match, and the search goes on where it ends. -/
theorem matchesFrom_of_prefers {fuel : Nat} (h : p.Prefers s e) (hlt : s.offset < e.offset) :
    p.matchesFrom (fuel + 1) false s
      = ⟨s.offset, e.offset, e.groups⟩ :: p.matchesFrom fuel false { e with groups := [] } := by
  have hmoved : (e.offset == s.offset) = false := beq_eq_false_iff_ne.2 (Nat.ne_of_gt hlt)
  rw [matchesFrom, firstWay?_of_prefers h]
  simp only [hmoved]

theorem matchesFrom_of_no_way {fuel : Nat} {advance : Bool} {c : Char} (h : p.ways s = [])
    (hrest : s.rest = c :: r) :
    p.matchesFrom (fuel + 1) advance s = p.matchesFrom fuel false (s.after c r) := by
  rw [matchesFrom, firstWay?_of_no_way h, hrest]

/-- A pattern that has no way from any spot behind `s` matches nothing from there on. -/
theorem matchesFrom_eq_nil : ∀ {fuel : Nat} {advance : Bool} {s : Spot},
    (∀ d, s.LeadsTo d → p.ways d = []) → p.matchesFrom fuel advance s = []
  | 0, _, _, _ => rfl
  | fuel + 1, advance, s, h => by
    unfold matchesFrom
    rw [firstWay?_of_no_way (h s (.refl s))]
    rcases hrest : s.rest with _ | ⟨c, rest⟩
    · rfl
    · exact matchesFrom_eq_nil fun d hd => h d ((Spot.leadsTo_after hrest).trans hd)

end Pattern

theorem Pattern.ways_literal_eq_nil {tail : Pattern} : ∀ {u : Text} {s : Spot},
    startsLike u s.rest = false → (literal true u tail).ways s = []
  | [], _, h => by cases h
  | x :: u, s, h => by
    rw [show literal true (x :: u) tail = seq (char true x) (literal true u tail) from rfl, ways,
      char, ways, Spot.readIf]
    rcases hrest : s.rest with _ | ⟨c, r⟩
    · rfl
    · rw [hrest, startsLike, Bool.and_eq_false_iff] at h
      simp only [List.any_cons, List.any_nil, ClassItem.holds, if_true, Bool.or_false,
        Bool.bne_false]
      split_ifs with hc
      · have hu : startsLike u r = false := h.resolve_left (by simp [hc])
        rw [List.flatMap_singleton]
        exact ways_literal_eq_nil hu
      · rfl

namespace Marker

variable {s : Spot} {command word : Text}

open Pattern

theorem ways_build_eq_nil (h : startsLike command s.rest = false) :
    (build command word).pattern.ways s = [] :=
  ways_literal_eq_nil h

/-- Nothing is matched in a text that never spells the marker's command. -/
theorem matchesFrom_build_eq_nil {fuel : Nat} {advance : Bool} (h : spells command s.rest = false) :
    (build command word).pattern.matchesFrom fuel advance s = [] := by
  refine matchesFrom_eq_nil fun d ⟨read, _, hrest, _, _⟩ => ways_build_eq_nil ?_
  exact startsLike_of_suffix h ⟨read, hrest.symm⟩

end Marker

end ExerciseSheet

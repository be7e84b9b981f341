import ExerciseSheet.Proofs.Gaps
import ExerciseSheet.Proofs.Occurrence
import Mathlib.Data.List.Forall2
import Mathlib.Data.List.Pairwise

/-!
# The least places at which a needle is spelled

The characters of a needle can be sought in a text one after the other, each from behind the place
of the one before. The characters skipped are those between the places found (`gaps?_eq_sought`). No
place found lies behind the one that any other spelling has for it, so the search fails only where
there is no spelling at all (`exists_sought_le`), and a spelling that begins at the same place skips
no fewer characters, since what is skipped is what lies between its first and its last place less
the characters of the needle (`getLast_eq_add_skipped`).
-/

namespace ExerciseSheet

/-- Places in a text, from the left to the right, at which the characters of the needle stand. -/
structure SpelledAt (needle text : Text) (places : List Nat) : Prop where
  increasing : places.Pairwise (· < ·)
  reads : places.map (text[·]?) = needle.map some

/-- No place lies behind the one that another spelling has for the same character. -/
structure LeastSpelledAt (needle text : Text) (places : List Nat) : Prop
    extends SpelledAt needle text places where
  least : ∀ others, SpelledAt needle text others → List.Forall₂ (· ≤ ·) places others

/-- The offsets between neighbouring places, all places together. -/
def skipped : List Nat → Nat
  | i :: j :: places => j - (i + 1) + skipped (j :: places)
  | _ => 0

/-- The places of a needle's characters, each sought from behind the one before, the first from
`start` on. -/
def sought (text : Text) : (start : Nat) → (needle : Text) → Option (List Nat)
  | _, [] => some []
  | start, n :: ns =>
    (Text.findFrom? [n] text start).bind fun i => (sought text (i + 1) ns).map (i :: ·)

section Find

variable {n : Char} {text : Text} {start i : Nat}

theorem singleton_prefix_drop_iff : [n] <+: text.drop i ↔ text[i]? = some n := by
  rw [← List.head?_drop]
  rcases text.drop i with _ | ⟨c, t⟩
  · simp
  · simp [eq_comm]

theorem findFrom?_eq : Text.findFrom? [n] text start
    = (Text.find? [n] (text.drop start)).map (start + ·) := by
  unfold Text.findFrom?
  split_ifs with h
  · rw [List.drop_of_length_le (Nat.le_of_lt h)]
    rfl
  · rfl

theorem findFrom?_eq_some_iff : Text.findFrom? [n] text start = some i
    ↔ IsLeast {j | start ≤ j ∧ text[j]? = some n} i := by
  rw [findFrom?_eq, Option.map_eq_some_iff]
  simp only [find?_eq_some_iff, List.drop_drop, singleton_prefix_drop_iff]
  constructor
  · rintro ⟨k, ⟨hk, hleast⟩, rfl⟩
    refine ⟨⟨Nat.le_add_right _ _, hk⟩, fun j hj => ?_⟩
    obtain ⟨k', rfl⟩ := Nat.exists_eq_add_of_le hj.1
    exact Nat.add_le_add_left (hleast hj.2) start
  · rintro ⟨⟨hi, hn⟩, hleast⟩
    obtain ⟨k, rfl⟩ := Nat.exists_eq_add_of_le hi
    refine ⟨k, ⟨hn, fun k' hk' => ?_⟩, rfl⟩
    exact Nat.le_of_add_le_add_left (hleast ⟨Nat.le_add_right start k', hk'⟩)

theorem exists_findFrom?_le (hi : start ≤ i) (h : text[i]? = some n) :
    ∃ j ≤ i, Text.findFrom? [n] text start = some j := by
  obtain ⟨k, rfl⟩ := Nat.exists_eq_add_of_le hi
  rw [← singleton_prefix_drop_iff, ← List.drop_drop] at h
  obtain ⟨j, hj, hfind⟩ := exists_find?_le h
  exact ⟨start + j, Nat.add_le_add_left hj start, by rw [findFrom?_eq, hfind, Option.map_some]⟩

end Find

variable {n : Char} {ns needle text : Text} {start i : Nat} {places others : List Nat}

theorem sought_cons_eq_some_iff : sought text start (n :: ns) = some places
    ↔ ∃ i rest, Text.findFrom? [n] text start = some i ∧ sought text (i + 1) ns = some rest
      ∧ i :: rest = places := by
  simp [sought, Option.bind_eq_some_iff]

theorem spelledAt_cons_iff : SpelledAt (n :: ns) text places
    ↔ ∃ i rest, places = i :: rest ∧ text[i]? = some n ∧ (∀ j ∈ rest, i < j)
      ∧ SpelledAt ns text rest := by
  constructor
  · rintro ⟨hinc, hreads⟩
    rcases places with _ | ⟨i, rest⟩
    · cases hreads
    · obtain ⟨hi, hrest⟩ := List.cons.inj hreads
      rw [List.pairwise_cons] at hinc
      exact ⟨i, rest, rfl, hi, hinc.1, hinc.2, hrest⟩
  · rintro ⟨i, rest, rfl, hi, hlt, hinc, hreads⟩
    exact ⟨List.pairwise_cons.2 ⟨hlt, hinc⟩, congrArg₂ _ hi hreads⟩

theorem spelledAt_of_sought : ∀ {needle : Text} {start : Nat} {places : List Nat},
    sought text start needle = some places →
    SpelledAt needle text places ∧ ∀ i ∈ places, start ≤ i
  | [], _, _, h => by
    cases h
    exact ⟨⟨List.Pairwise.nil, rfl⟩, by simp⟩
  | n :: ns, start, _, h => by
    obtain ⟨i, rest, hfound, hrest, rfl⟩ := sought_cons_eq_some_iff.1 h
    obtain ⟨⟨hstart, hi⟩, -⟩ := findFrom?_eq_some_iff.1 hfound
    obtain ⟨hspelled, hlt⟩ := spelledAt_of_sought hrest
    refine ⟨spelledAt_cons_iff.2 ⟨i, rest, rfl, hi, hlt, hspelled⟩, ?_⟩
    rintro j (_ | ⟨_, hj⟩)
    · exact hstart
    · exact Nat.le_trans hstart (Nat.le_of_lt (hlt j hj))

/-- Wherever a needle is spelled from `start` on, the search finds it too, and each of its
characters no later. -/
theorem exists_sought_le : ∀ {needle : Text} {start : Nat} {others : List Nat},
    SpelledAt needle text others → (∀ j ∈ others, start ≤ j) →
    ∃ places, sought text start needle = some places ∧ List.Forall₂ (· ≤ ·) places others
  | [], _, others, h, _ => by
    obtain rfl : others = [] := List.map_eq_nil_iff.1 h.reads
    exact ⟨[], rfl, List.Forall₂.nil⟩
  | n :: ns, start, _, h, hstart => by
    obtain ⟨j, rest, rfl, hj, hlt, hspelled⟩ := spelledAt_cons_iff.1 h
    obtain ⟨i, hij, hfound⟩ := exists_findFrom?_le (hstart j List.mem_cons_self) hj
    -- the rest of the other spelling lies behind the place found
    have hbehind : ∀ k ∈ rest, i + 1 ≤ k := fun k hk => Nat.lt_of_le_of_lt hij (hlt k hk)
    obtain ⟨places, hsought, hle⟩ := exists_sought_le hspelled hbehind
    exact ⟨i :: places, sought_cons_eq_some_iff.2 ⟨i, places, hfound, hsought, rfl⟩, .cons hij hle⟩

theorem gapsAfter?_cons {begun : Bool} : gapsAfter? begun (n :: ns) text
    = (Text.find? [n] text).bind fun i =>
      (gapsAfter? true ns (text.drop (i + 1))).map (· + if begun then i else 0) := by
  induction text with
  | nil => rfl
  | cons c t ih =>
    rw [find?_cons]
    by_cases hc : n = c
    · subst hc
      rw [gapsAfter?_taken, if_pos (by simp)]
      cases begun <;> simp
    · rw [gapsAfter?_skipped hc, ih, if_neg (by simpa using hc), Option.bind_map, Option.map_bind]
      congr 1
      funext i
      rw [Function.comp, Function.comp, List.drop_succ_cons, Option.map_map]
      congr 1
      funext g
      cases begun <;> rfl

/-- From behind a place on, the characters skipped are those between it and the places sought. -/
theorem gapsAfter?_eq_sought : ∀ {needle : Text} {last : Nat},
    gapsAfter? true needle (text.drop (last + 1))
      = (sought text (last + 1) needle).map fun places => skipped (last :: places)
  | [], _ => by simp [gapsAfter?, sought, skipped]
  | n :: ns, last => by
    rw [gapsAfter?_cons, sought, findFrom?_eq, Option.bind_map, Option.map_bind]
    congr 1
    funext k
    have hbehind : last + 1 + (k + 1) = last + 1 + k + 1 := (Nat.add_assoc _ _ _).symm
    simp only [Function.comp, List.drop_drop, hbehind, gapsAfter?_eq_sought, Option.map_map]
    congr 1
    funext places
    simp only [Function.comp, skipped, if_true]
    omega

theorem gaps?_eq_sought (n : Char) (ns text : Text) :
    gaps? (n :: ns) text = (sought text 0 (n :: ns)).map skipped := by
  rw [gaps?, gapsAfter?_cons, sought, findFrom?_eq, Option.bind_map, Option.map_bind]
  congr 1
  funext k
  simp only [Function.comp, gapsAfter?_eq_sought, Option.map_map, Nat.zero_add]
  rfl

theorem getLast_eq_add_skipped : ∀ {i : Nat} {places : List Nat},
    (i :: places).Pairwise (· < ·) →
    (i :: places).getLast (List.cons_ne_nil _ _) = i + skipped (i :: places) + places.length
  | _, [], _ => rfl
  | i, j :: places, h => by
    have hij : i < j := List.rel_of_pairwise_cons h List.mem_cons_self
    have ih := getLast_eq_add_skipped h.of_cons
    rw [List.getLast_cons (List.cons_ne_nil _ _), ih, skipped, List.length_cons]
    omega

theorem getLast_le_of_forall₂ : ∀ {i j : Nat} {is js : List Nat},
    List.Forall₂ (· ≤ ·) (i :: is) (j :: js) →
    (i :: is).getLast (List.cons_ne_nil _ _) ≤ (j :: js).getLast (List.cons_ne_nil _ _)
  | _, _, [], [], .cons h _ => h
  | _, _, _ :: _, _ :: _, .cons _ h => by
    rw [List.getLast_cons (List.cons_ne_nil _ _), List.getLast_cons (List.cons_ne_nil _ _)]
    exact getLast_le_of_forall₂ h

/-- From one place on, the spelling that lies nowhere behind another skips no more than it. -/
theorem skipped_le_of_forall₂ {is js : List Nat} (his : (i :: is).Pairwise (· < ·))
    (hjs : (i :: js).Pairwise (· < ·)) (h : List.Forall₂ (· ≤ ·) (i :: is) (i :: js)) :
    skipped (i :: is) ≤ skipped (i :: js) := by
  have hlast := getLast_le_of_forall₂ h
  have hlength := h.length_eq
  rw [getLast_eq_add_skipped his, getLast_eq_add_skipped hjs] at hlast
  simp only [List.length_cons] at hlength
  omega

theorem SpelledAt.exists_sought (h : SpelledAt needle text others) :
    ∃ places, sought text 0 needle = some places ∧ List.Forall₂ (· ≤ ·) places others :=
  exists_sought_le h fun j _ => Nat.zero_le j

theorem leastSpelledAt_of_sought (h : sought text 0 needle = some places) :
    LeastSpelledAt needle text places where
  toSpelledAt := (spelledAt_of_sought h).1
  least others hothers := by
    obtain ⟨places', hplaces', hle⟩ := hothers.exists_sought
    rwa [Option.some.inj (h.symm.trans hplaces')]

/-- A needle that is not empty is not found exactly when it is spelled nowhere in the text.
Otherwise there is a spelling with the least place for each character, and the characters skipped
are those between its first and its last place that are not the needle's. No spelling that begins at
the first occurrence of the first character skips fewer. Nothing is skipped only if the needle
stands in the text as it is. -/
theorem gaps?_of_least_spelling (n : Char) (ns text : Text) :
    (gaps? (n :: ns) text = none ↔ ∀ places, ¬ SpelledAt (n :: ns) text places)
    ∧ ∀ g, gaps? (n :: ns) text = some g →
      ∃ places first last, LeastSpelledAt (n :: ns) text places
        ∧ places.head? = some first ∧ places.getLast? = some last
        ∧ (g : Int) = last - first - ((n :: ns).length - 1)
        ∧ IsLeast {i | text[i]? = some n} first
        ∧ IsLeast {total | ∃ others, SpelledAt (n :: ns) text others
            ∧ others.head? = some first ∧ skipped others = total} g
        ∧ (g = 0 → n :: ns <:+: text) := by
  rw [gaps?_eq_sought]
  refine ⟨⟨fun h others hothers => ?_, fun h => ?_⟩, fun g h => ?_⟩
  · obtain ⟨places, hplaces, -⟩ := hothers.exists_sought
    simp [hplaces] at h
  · rcases hsought : sought text 0 (n :: ns) with _ | places
    · rfl
    · exact absurd (spelledAt_of_sought hsought).1 (h places)
  · obtain ⟨places, hsought, rfl⟩ := Option.map_eq_some_iff.1 h
    have hleast := leastSpelledAt_of_sought hsought
    obtain ⟨first, rest, hfound, -, rfl⟩ := sought_cons_eq_some_iff.1 hsought
    have hlast := getLast_eq_add_skipped hleast.increasing
    have hlength : (first :: rest).length = (n :: ns).length := by
      simpa using congrArg List.length hleast.reads
    refine ⟨first :: rest, first, _, hleast, rfl,
      List.getLast?_eq_some_getLast (List.cons_ne_nil _ _), ?_, ?_, ?_, ?_⟩
    · rw [hlast, ← hlength, List.length_cons]
      omega
    · simpa using findFrom?_eq_some_iff.1 hfound
    · refine ⟨⟨_, hleast.toSpelledAt, rfl, rfl⟩, ?_⟩
      rintro _ ⟨others, hothers, hhead, rfl⟩
      obtain ⟨rest', rfl⟩ := List.head?_eq_some_iff.1 hhead
      exact skipped_le_of_forall₂ hleast.increasing hothers.increasing (hleast.least _ hothers)
    · intro hzero
      refine infix_of_gaps?_eq_zero ?_
      rw [gaps?_eq_sought, hsought, Option.map_some, hzero]

/-- A spelling that begins at a later occurrence may skip fewer characters. -/
example : gaps? "ab".toList "aab".toList = some 1 ∧ SpelledAt "ab".toList "aab".toList [1, 2] :=
  ⟨by decide, by decide, by decide⟩

end ExerciseSheet

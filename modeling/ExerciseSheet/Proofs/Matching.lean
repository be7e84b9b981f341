import ExerciseSheet.Proofs.TextCut
import ExerciseSheet.Segment
import Mathlib.Data.List.Forall2

/-!
# What a pattern matches

What reading a character, keeping a group and looking ahead respect, every way of a pattern respects
(`Spot.Respected.of_mem_ways`). So it reads on from its spot, takes nothing back that a group has
read (`leadsTo_of_mem_ways`), and ends at or behind its start. The next search goes on from there,
so the matches in a text follow one another from left to right (`allMatches_leftToRight`). A pattern
sets a group when each of its ways leads through it; a built marker always sets its number
(`numberOf_build_ne_none`). Which texts a pattern reads is put together from what its parts read
(`ReadsOnly`).
-/

namespace ExerciseSheet

namespace Spot

/-- Reading on from `s` leads to `e`, and groups may be set on the way. -/
def LeadsTo (s e : Spot) : Prop :=
  ∃ read set, s.rest = read ++ e.rest ∧ e.offset = s.offset + read.length
    ∧ e.groups = set ++ s.groups

variable {s e : Spot}

theorem LeadsTo.refl (s : Spot) : s.LeadsTo s := ⟨[], [], rfl, rfl, rfl⟩

theorem LeadsTo.trans {d : Spot} (h : s.LeadsTo e) (h' : e.LeadsTo d) : s.LeadsTo d := by
  obtain ⟨t, gs, hrest, hoffset, hgroups⟩ := h
  obtain ⟨t', gs', hrest', hoffset', hgroups'⟩ := h'
  refine ⟨t ++ t', gs' ++ gs, ?_, ?_, ?_⟩
  · rw [hrest, hrest', List.append_assoc]
  · rw [hoffset', hoffset, List.length_append, Nat.add_assoc]
  · rw [hgroups', hgroups, List.append_assoc]

theorem leadsTo_after {c : Char} {rest : Text} (h : s.rest = c :: rest) :
    s.LeadsTo (s.after c rest) := ⟨[c], [], h, rfl, rfl⟩

theorem LeadsTo.keep (h : s.LeadsTo e) (number : Nat) : s.LeadsTo (e.keep number s) :=
  h.trans ⟨[], [_], rfl, rfl, rfl⟩

theorem LeadsTo.offset_le (h : s.LeadsTo e) :
    s.offset ≤ e.offset ∧ e.offset + e.rest.length = s.offset + s.rest.length := by
  obtain ⟨t, gs, hrest, hoffset, -⟩ := h
  rw [hrest, hoffset, List.length_append]
  omega

theorem LeadsTo.lookup_isSome (h : s.LeadsTo e) {number : Nat}
    (hs : (s.groups.lookup number).isSome) : (e.groups.lookup number).isSome := by
  obtain ⟨t, gs, -, -, hgroups⟩ := h
  rw [hgroups, List.lookup_append, Option.isSome_or, hs, Bool.or_true]

theorem exists_of_mem_readIf {test : Char → Bool} (h : e ∈ s.readIf test) :
    ∃ c, s.rest = c :: e.rest ∧ e = s.after c e.rest ∧ test c = true := by
  unfold readIf at h
  split at h
  · next c rest hrest =>
    split_ifs at h with hc
    · rw [List.mem_singleton.1 h]
      exact ⟨c, hrest, rfl, hc⟩
    · simp at h
  · simp at h

end Spot

/-- A relation between spots that reading a character, keeping a group and looking ahead respect. -/
structure Spot.Respected (R : Spot → Spot → Prop) : Prop where
  refl : ∀ s, R s s
  trans : ∀ {s d e}, R s d → R d e → R s e
  after : ∀ {s c rest}, s.rest = c :: rest → R s (s.after c rest)
  keep : ∀ {s e} number, R s e → R s (e.keep number s)
  ahead : ∀ {s e}, R s e → R s { s with groups := e.groups }

section Respected

variable {R : Spot → Spot → Prop} (hR : Spot.Respected R) {s e : Spot}
include hR

theorem Spot.Respected.of_mem_readIf {test : Char → Bool} (h : e ∈ s.readIf test) : R s e := by
  obtain ⟨c, hrest, he, -⟩ := exists_of_mem_readIf h
  rw [he]
  exact hR.after hrest

theorem Spot.Respected.of_mem_readText {fold : Bool} : ∀ {t : Text} {s : Spot},
    e ∈ s.readText fold t → R s e
  | [], s, h => by
    rw [List.mem_singleton.1 h]
    exact hR.refl s
  | d :: ds, s, h => by
    unfold readText at h
    split at h
    · next c rest hrest =>
      split_ifs at h
      · exact hR.trans (hR.after hrest) (of_mem_readText h)
      · simp at h
    · simp at h

theorem Spot.Respected.of_mem_waysAgain {body : Spot → List Spot} {least : Nat}
    {most : Option Nat} {eager : Bool} (hbody : ∀ s e, e ∈ body s → R s e) :
    ∀ {fuel count : Nat} {last : Option Nat} {s e : Spot},
      e ∈ waysAgain body least most eager fuel count last s → R s e
  | 0, _, _, _, _, h => by simp [waysAgain] at h
  | fuel + 1, count, last, s, e, h => by
    have hmore : ∀ {last}, e ∈ (body s).flatMap
        (waysAgain body least most eager fuel (count + 1) last) → R s e := by
      intro last he
      obtain ⟨d, hd, hde⟩ := List.mem_flatMap.1 he
      exact hR.trans (hbody s d hd) (of_mem_waysAgain hbody hde)
    unfold waysAgain at h
    split_ifs at h with hleast hgo heager heager
    · exact hmore h
    · rcases List.mem_append.1 h with h | h
      · exact hmore h
      · exact List.mem_singleton.1 h ▸ hR.refl s
    · rcases List.mem_cons.1 h with rfl | h
      · exact hR.refl _
      · exact hmore h
    all_goals
      obtain rfl : e = s := by simpa using h
      exact hR.refl e

/-- Every way of a pattern respects the relation. -/
theorem Spot.Respected.of_mem_ways {p : Pattern} (h : e ∈ p.ways s) : R s e := by
  induction p generalizing s e with
  | empty => exact List.mem_singleton.1 h ▸ hR.refl s
  | oneOf fold negated items => exact hR.of_mem_readIf h
  | any lines => exact hR.of_mem_readIf h
  | seq first second ih₁ ih₂ =>
    obtain ⟨d, hd, hde⟩ := List.mem_flatMap.1 h
    exact hR.trans (ih₁ hd) (ih₂ hde)
  | alt first second ih₁ ih₂ =>
    rcases List.mem_append.1 h with h | h
    · exact ih₁ h
    · exact ih₂ h
  | group number body ih =>
    obtain ⟨d, hd, rfl⟩ := List.mem_map.1 h
    exact hR.keep number (ih hd)
  | again least most eager body ih => exact hR.of_mem_waysAgain (fun _ _ => ih) h
  | only body ih => exact ih (List.mem_of_mem_take h)
  | anchor a =>
    unfold Pattern.ways at h
    split_ifs at h
    · exact List.mem_singleton.1 h ▸ hR.refl s
    · simp at h
  | ahead wanted body ih =>
    unfold Pattern.ways at h
    rcases hbody : body.ways s with _ | ⟨d, ds⟩ <;> rw [hbody] at h <;>
      simp only [] at h <;> split_ifs at h
    · simp at h
    · exact List.mem_singleton.1 h ▸ hR.refl s
    · exact List.mem_singleton.1 h ▸ hR.ahead (ih (hbody ▸ List.mem_cons_self))
    · simp at h
  | same fold number =>
    unfold Pattern.ways at h
    split at h
    · exact hR.of_mem_readText h
    · simp at h

end Respected

namespace Pattern

theorem respected_leadsTo : Spot.Respected Spot.LeadsTo where
  refl := .refl
  trans := .trans
  after := Spot.leadsTo_after
  keep number h := h.keep number
  -- a look ahead keeps what the groups have read and goes back to its spot
  ahead := fun ⟨_, set, _, _, hgroups⟩ => ⟨[], set, rfl, rfl, hgroups⟩

/-- Every way of a pattern reads on from its spot. -/
theorem leadsTo_of_mem_ways {p : Pattern} {s e : Spot} (h : e ∈ p.ways s) : s.LeadsTo e :=
  respected_leadsTo.of_mem_ways h

theorem mem_ways_of_firstWay? {p : Pattern} {advance : Bool} {s e : Spot}
    (h : p.firstWay? advance s = some e) : e ∈ p.ways s := by
  rw [firstWay?, search_eq_findSome?] at h
  obtain ⟨d, hd, hde⟩ := List.exists_of_findSome?_eq_some h
  split_ifs at hde
  rw [← Option.some.inj hde]
  exact hd

end Pattern

/-- Matches between two offsets, from left to right and not overlapping. -/
def Match.LeftToRight (first last : Nat) (found : List Match) : Prop :=
  (∀ p ∈ found, first ≤ p.start ∧ p.start ≤ p.stop ∧ p.stop ≤ last)
    ∧ found.Pairwise fun p q => p.stop ≤ q.start

namespace Pattern

theorem matchesFrom_leftToRight (p : Pattern) : ∀ (fuel : Nat) (advance : Bool) (s : Spot),
    Match.LeftToRight s.offset (s.offset + s.rest.length) (p.matchesFrom fuel advance s)
  | 0, _, _ => ⟨fun _ h => by simp [matchesFrom] at h, List.Pairwise.nil⟩
  | fuel + 1, advance, s => by
    unfold matchesFrom
    split
    · next e he =>
      obtain ⟨hle, hend⟩ := (leadsTo_of_mem_ways (mem_ways_of_firstWay? he)).offset_le
      obtain ⟨hin, hpair⟩ :=
        matchesFrom_leftToRight p fuel (e.offset == s.offset) { e with groups := [] }
      simp only [hend] at hin
      refine ⟨?_, List.pairwise_cons.2 ⟨fun q hq => (hin q hq).1, hpair⟩⟩
      intro q hq
      rcases List.mem_cons.1 hq with rfl | hq
      · simp only []
        omega
      · have := hin q hq
        omega
    · split
      · exact ⟨fun _ h => by simp at h, List.Pairwise.nil⟩
      · next c rest hrest =>
        obtain ⟨hin, hpair⟩ := matchesFrom_leftToRight p fuel false (s.after c rest)
        refine ⟨fun q hq => ?_, hpair⟩
        have := hin q hq
        rw [hrest, List.length_cons]
        simp only [Spot.after] at this
        omega

/-- The matches in a text go from left to right and do not overlap. -/
theorem allMatches_leftToRight (p : Pattern) (t : Text) :
    Match.LeftToRight 0 t.length (p.allMatches t) := by
  have h := matchesFrom_leftToRight p (2 * t.length + 2) false (.start t)
  rw [Spot.start, Nat.zero_add] at h
  exact h

theorem groups_of_mem_matchesFrom {p : Pattern} {q : Match} : ∀ {fuel : Nat} {advance : Bool}
    {s : Spot}, q ∈ p.matchesFrom fuel advance s → ∃ d e, e ∈ p.ways d ∧ q.groups = e.groups
  | 0, _, _, h => by simp [matchesFrom] at h
  | fuel + 1, advance, s, h => by
    unfold matchesFrom at h
    split at h
    · next e he =>
      rcases List.mem_cons.1 h with rfl | h
      · exact ⟨s, e, mem_ways_of_firstWay? he, rfl⟩
      · exact groups_of_mem_matchesFrom h
    · split at h
      · simp at h
      · exact groups_of_mem_matchesFrom h

/-- Each way of the pattern leads through the group. -/
def Sets (number : Nat) (p : Pattern) : Prop :=
  ∀ s e, e ∈ p.ways s → (e.groups.lookup number).isSome

variable {number : Nat} {p q : Pattern}

theorem sets_group (number : Nat) (body : Pattern) : Sets number (group number body) := by
  intro s e h
  obtain ⟨d, -, rfl⟩ := List.mem_map.1 h
  simp [Spot.keep]

theorem Sets.seq_left (h : p.Sets number) : Sets number (seq p q) := by
  intro s e he
  obtain ⟨d, hd, hde⟩ := List.mem_flatMap.1 he
  exact (leadsTo_of_mem_ways hde).lookup_isSome (h s d hd)

theorem Sets.seq_right (h : q.Sets number) : Sets number (seq p q) := by
  intro s e he
  obtain ⟨d, -, hde⟩ := List.mem_flatMap.1 he
  exact h d e hde

theorem Sets.literal {fold : Bool} {tail : Pattern} (h : tail.Sets number) :
    ∀ t : Text, Sets number (literal fold t tail)
  | [] => h
  | _ :: t => (Sets.literal h t).seq_right

end Pattern

section Texts

variable {s e : Spot}

/-- A repetition of single characters reads a run of them that is long enough. -/
theorem exists_of_mem_waysAgain {test : Char → Bool} {least : Nat} {most : Option Nat}
    {eager : Bool} : ∀ {fuel count : Nat} {last : Option Nat} {s : Spot},
      e ∈ waysAgain (·.readIf test) least most eager fuel count last s →
      ∃ t, s.rest = t ++ e.rest ∧ (∀ c ∈ t, test c = true) ∧ least ≤ count + t.length
  | 0, _, _, _, h => by simp [waysAgain] at h
  | fuel + 1, count, last, s, h => by
    have hmore : ∀ {last}, e ∈ (s.readIf test).flatMap
        (waysAgain (·.readIf test) least most eager fuel (count + 1) last) →
        ∃ t, s.rest = t ++ e.rest ∧ (∀ c ∈ t, test c = true) ∧ least ≤ count + t.length := by
      intro last he
      obtain ⟨d, hd, hde⟩ := List.mem_flatMap.1 he
      obtain ⟨c, hrest, -, hc⟩ := Spot.exists_of_mem_readIf hd
      obtain ⟨t, ht, hall, hleast⟩ := exists_of_mem_waysAgain hde
      refine ⟨c :: t, by rw [hrest, ht, List.cons_append], List.forall_mem_cons.2 ⟨hc, hall⟩, ?_⟩
      rw [List.length_cons]
      omega
    have hdone : ¬ count < least → e = s →
        ∃ t, s.rest = t ++ e.rest ∧ (∀ c ∈ t, test c = true) ∧ least ≤ count + t.length := by
      rintro hleast rfl
      exact ⟨[], rfl, by simp, Nat.not_lt.1 hleast⟩
    unfold waysAgain at h
    split_ifs at h with hleast hgo heager heager
    · exact hmore h
    · rcases List.mem_append.1 h with h | h
      · exact hmore h
      · exact hdone hleast (List.mem_singleton.1 h)
    · rcases List.mem_cons.1 h with h | h
      · exact hdone hleast h
      · exact hmore h
    all_goals exact hdone hleast (by simpa using h)

namespace Pattern

/-- Every way of the pattern reads a text with the property. -/
def ReadsOnly (P : Text → Prop) (p : Pattern) : Prop :=
  ∀ s e, e ∈ p.ways s → ∃ t, P t ∧ s.rest = t ++ e.rest

variable {P Q : Text → Prop} {p q : Pattern}

theorem ReadsOnly.imp (h : p.ReadsOnly P) (hPQ : ∀ t, P t → Q t) : p.ReadsOnly Q := by
  intro s e he
  obtain ⟨t, ht, hrest⟩ := h s e he
  exact ⟨t, hPQ t ht, hrest⟩

theorem ReadsOnly.seq (hp : p.ReadsOnly P) (hq : q.ReadsOnly Q) :
    ReadsOnly (fun t => ∃ a b, P a ∧ Q b ∧ t = a ++ b) (seq p q) := by
  intro s e he
  obtain ⟨d, hd, hde⟩ := List.mem_flatMap.1 he
  obtain ⟨a, ha, hrest⟩ := hp s d hd
  obtain ⟨b, hb, hrest'⟩ := hq d e hde
  exact ⟨a ++ b, ⟨a, b, ha, hb, rfl⟩, by rw [hrest, hrest', List.append_assoc]⟩

theorem ReadsOnly.group (hp : p.ReadsOnly P) (number : Nat) : ReadsOnly P (group number p) := by
  intro s e he
  obtain ⟨d, hd, rfl⟩ := List.mem_map.1 he
  exact hp s d hd

theorem readsOnly_char (fold : Bool) (x : Char) :
    ReadsOnly (fun t => ∃ c, ClassItem.holds fold c (.one x) = true ∧ t = [c]) (char fold x) := by
  intro s e he
  obtain ⟨c, hrest, -, hc⟩ := Spot.exists_of_mem_readIf he
  exact ⟨[c], ⟨c, by simpa using hc, rfl⟩, hrest⟩

theorem ReadsOnly.literal {fold : Bool} (hp : p.ReadsOnly P) : ∀ u : Text,
    ReadsOnly (fun t => ∃ a b, List.Forall₂ (fun c x => ClassItem.holds fold c (.one x) = true) a u
      ∧ P b ∧ t = a ++ b) (literal fold u p)
  | [] => hp.imp fun t ht => ⟨[], t, .nil, ht, rfl⟩
  | x :: u => by
    refine ((readsOnly_char fold x).seq (hp.literal u)).imp ?_
    rintro _ ⟨_, _, ⟨c, hc, rfl⟩, ⟨a, b, ha, hb, rfl⟩, rfl⟩
    exact ⟨c :: a, b, .cons hc ha, hb, rfl⟩

theorem readsOnly_again {fold negated eager : Bool} {items : List ClassItem} {least : Nat}
    {most : Option Nat} :
    ReadsOnly (fun t => (∀ c ∈ t, (items.any (·.holds fold c) != negated) = true)
      ∧ least ≤ t.length) (again least most eager (oneOf fold negated items)) := by
  intro s e he
  obtain ⟨t, hrest, hall, hleast⟩ := exists_of_mem_waysAgain he
  exact ⟨t, ⟨hall, by omega⟩, hrest⟩

end Pattern

end Texts

theorem Marker.sets_build (command word : Text) : Pattern.Sets 1 (build command word).pattern := by
  have hnumber : Pattern.Sets 1 numberAndTitle := (Pattern.sets_group 1 digits).seq_left
  refine .literal (.seq_right (.seq_right ?_)) command
  split_ifs
  · exact hnumber
  · exact .literal (.seq_right hnumber) word

/-- A match of a built marker carries a number, if one that can be read. -/
theorem numberOf_build_ne_none {command word document : Text} {p : Match}
    (h : p ∈ (Marker.build command word).places document) :
    Segment.numberOf (Marker.build command word) p ≠ .ok none := by
  obtain ⟨d, e, he, hgroups⟩ := Pattern.groups_of_mem_matchesFrom (List.mem_filter.1 h).1
  obtain ⟨t, ht⟩ := Option.isSome_iff_exists.1 (Marker.sets_build command word d e he)
  have htext : Segment.groupText? p (Marker.build command word).number = some t := by
    rw [← ht, ← hgroups]
    rfl
  unfold Segment.numberOf
  rw [htext]
  simp only []
  split <;> simp

end ExerciseSheet

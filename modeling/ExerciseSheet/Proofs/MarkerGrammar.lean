import ExerciseSheet.Proofs.Decimal
import ExerciseSheet.Proofs.LeftmostMatches
import ExerciseSheet.Proofs.Marking
import ExerciseSheet.Proofs.Partition

/-!
# What a built marker accepts

A built marker matches where a marking stands and nowhere else, with the number and the title of
that marking (`build_accepts_markings`). As every marking is read whole, a sheet is cut at the
leftmost one, at the leftmost one behind that, and so on.
-/

namespace ExerciseSheet

variable {command word document : Text} {i : Nat} {q : Match}

/-- A match that reads a marking at an offset of a document. It takes all digits that stand there
for the number, and the title up to the first closing brace behind the colon, where it ends. -/
structure Marking.ReadBy (m : Marking command word) (document : Text) (i : Nat) (q : Match) :
    Prop where
  start : q.start = i
  stop : q.stop = i + m.titleAt + m.title.length + 1
  number : Segment.groupText? q (Marker.build command word).number = some m.number
  title : Segment.groupText? q (Marker.build command word).title = some m.title
  number_takes : m.number = (document.drop (i + m.numberAt)).takeWhile isDecimalDigit
  title_takes : m.title = (document.drop (i + m.titleAt)).takeWhile (· != '\x7d')

theorem Pattern.matchAt?_of_prefers {p : Pattern} {e : Spot}
    (h : p.Prefers (.ofOffset document i) e) :
    p.matchAt? document i = some ⟨i, e.offset, e.groups⟩ := by
  rw [matchAt?, firstWay?_of_prefers h, Option.map_some]

namespace Marker

open Pattern

theorem lt_of_mem_ways_build {s e : Spot} (h : e ∈ (build command word).pattern.ways s) :
    s.offset < e.offset := by
  obtain ⟨_, ⟨m, rfl⟩, hrest⟩ := readsOnly_build command word s e h
  have hend := (leadsTo_of_mem_ways h).offset_le.2
  rw [hrest, List.length_append, m.length_text] at hend
  omega

theorem exists_marking_of_matchAt? (h : (build command word).pattern.matchAt? document i = some q) :
    ∃ m : Marking command word, m.text <+: document.drop i := by
  obtain ⟨e, he, -⟩ := matchAt?_eq_some h
  obtain ⟨_, ⟨m, rfl⟩, hrest⟩ := readsOnly_build command word _ e he
  exact ⟨m, e.rest, hrest.symm⟩

theorem exists_readBy (hword : ∀ c ∈ word.head?, isBlank c = false) (m : Marking command word)
    (h : m.text <+: document.drop i) :
    ∃ q, (build command word).pattern.matchAt? document i = some q ∧ m.ReadBy document i q := by
  obtain ⟨r, hr⟩ := h
  refine ⟨_, matchAt?_of_prefers (prefers_build m hword hr.symm), rfl, ?_, rfl, rfl, ?_, ?_⟩
  · simp only [m.length_text, Spot.ofOffset]
    omega
  · rw [← List.drop_drop, ← hr, m.drop_numberAt, m.takeWhile_fromNumber]
  · rw [← List.drop_drop, ← hr, m.drop_titleAt, m.takeWhile_title]

theorem leftmost_build (command word document : Text) :
    Leftmost (build command word).pattern document 0 ((build command word).places document) := by
  have h := leftmost_allMatches (p := (build command word).pattern)
    (fun _ _ => lt_of_mem_ways_build) document
  have hall : (build command word).places document
      = (build command word).pattern.allMatches document := by
    rw [places, List.filter_eq_self]
    intro q hq
    obtain ⟨e, he, heq⟩ := matchAt?_eq_some (h.matchAt?_of_mem q hq)
    rw [heq]
    exact decide_eq_true (lt_of_mem_ways_build he)
  rwa [hall]

/-- The number that a match gives can be read, unless it is too long. -/
theorem numberOf_isOk (hword : ∀ c ∈ word.head?, isBlank c = false)
    (hq : (build command word).pattern.matchAt? document i = some q)
    (hshort : ∀ ds, Segment.groupText? q (build command word).number = some ds →
      ds.length ≤ digitLimit) :
    ∃ n, Segment.numberOf (build command word) q = .ok n := by
  obtain ⟨m, hm⟩ := exists_marking_of_matchAt? hq
  obtain ⟨q', hq', hread⟩ := exists_readBy hword m hm
  obtain rfl : q' = q := Option.some.inj (hq'.symm.trans hq)
  obtain ⟨n, hn⟩ :=
    readWhole_isOk_of_digits m.number_ne_nil m.number_digits (hshort _ hread.number)
  unfold Segment.numberOf
  simp only [hread.number, hn]
  exact ⟨_, rfl⟩

/-- A built marker matches exactly where a marking stands, and reads it as it is written. A document
without a number that is too long is cut at the leftmost match, at the leftmost one from its end on,
and so on. -/
theorem build_accepts_markings (command : Text) {word : Text}
    (hword : ∀ c ∈ word.head?, isBlank c = false) (document : Text) :
    (∀ i, (∃ q, (build command word).pattern.matchAt? document i = some q)
        ↔ ∃ m : Marking command word, m.text <+: document.drop i)
      ∧ (∀ i (m : Marking command word), m.text <+: document.drop i →
        ∃ q, (build command word).pattern.matchAt? document i = some q ∧ m.ReadBy document i q)
      ∧ (∃! qs, Leftmost (build command word).pattern document 0 qs)
      ∧ ∀ qs, Leftmost (build command word).pattern document 0 qs →
        (∀ q ∈ qs, ∀ ds, Segment.groupText? q (build command word).number = some ds →
          ds.length ≤ 4300) →
        ∃ ss, Segment.split (build command word) document = .ok ss
          ∧ ss.map (·.start) = qs.map (·.start) := by
  have hread : ∀ i (m : Marking command word), m.text <+: document.drop i →
      ∃ q, (build command word).pattern.matchAt? document i = some q ∧ m.ReadBy document i q :=
    fun _ => exists_readBy hword
  have hleft := leftmost_build command word document
  refine ⟨fun i => ⟨fun ⟨_, hq⟩ => exists_marking_of_matchAt? hq, fun ⟨m, hm⟩ => ?_⟩, hread,
    ⟨_, hleft, fun _ h => h.unique hleft⟩, fun qs hqs hshort => ?_⟩
  · obtain ⟨q, hq, -⟩ := hread i m hm
    exact ⟨q, hq⟩
  · obtain rfl := hqs.unique hleft
    obtain ⟨ss, hss⟩ := (Segment.ofMatches_isOk _ document 1 _).2 fun q hq =>
      numberOf_isOk hword (hqs.matchAt?_of_mem q hq) (hshort q hq)
    exact ⟨ss, hss, Segment.starts_ofMatches hss⟩

/-- A marker that breaks off behind its number, and a whole one inside it. -/
def brokenOff : Text :=
  ['M', '\x7b', 'E', 'x', ' ', '1', ' ', 'M', '\x7b', 'e', 'x', ' ', '2', ':', 'a', '\x7d', 'b',
    '\x7d']

theorem build_accepts_marking_in_broken_off :
    (∀ c ∈ ['E', 'x'].head?, isBlank c = false)
      ∧ (¬ ∃ m : Marking ['M'] ['E', 'x'], m.text <+: brokenOff)
      ∧ (∃ m : Marking ['M'] ['E', 'x'], m.text <+: brokenOff.drop 7
        ∧ ∃ q, (build ['M'] ['E', 'x']).pattern.matchAt? brokenOff 7 = some q
          ∧ m.ReadBy brokenOff 7 q)
      ∧ Leftmost (build ['M'] ['E', 'x']).pattern brokenOff 0 [⟨7, 16, [(2, ['a']), (1, ['2'])]⟩]
      ∧ ∃ ss, Segment.split (build ['M'] ['E', 'x']) brokenOff = .ok ss
        ∧ ss.map (·.start) = [7] := by
  have hword : ∀ c ∈ ['E', 'x'].head?, isBlank c = false := by
    rintro _ ⟨⟩
    rfl
  have hstart : (build ['M'] ['E', 'x']).pattern.matchAt? brokenOff 0 = none := by decide +kernel
  have hplaces : (build ['M'] ['E', 'x']).places brokenOff
      = [⟨7, 16, [(2, ['a']), (1, ['2'])]⟩] := by decide +kernel
  have hlike : AlikeTexts ['e', 'x'] ['E', 'x'] := .cons (by decide +kernel) (.cons rfl .nil)
  let m : Marking ['M'] ['E', 'x'] := ⟨['M'], [], ['e', 'x'], [' '], ['2'], [], ['a'],
    alikeTexts_self _, List.forall_mem_nil _, hlike, List.forall_mem_singleton.2 rfl, by simp,
    by simp, List.forall_mem_singleton.2 rfl, List.forall_mem_nil _, by decide⟩
  have hm : m.text <+: brokenOff.drop 7 := ⟨['b', '\x7d'], rfl⟩
  obtain ⟨hiff, hread, -, hsplit⟩ := build_accepts_markings ['M'] hword brokenOff
  have hleft := leftmost_build ['M'] ['E', 'x'] brokenOff
  rw [hplaces] at hleft
  refine ⟨hword, fun h => ?_, ⟨m, hm, hread 7 m hm⟩, hleft, hsplit _ hleft ?_⟩
  · obtain ⟨q, hq⟩ := (hiff 0).2 h
    rw [hstart] at hq
    cases hq
  · intro q hq ds hds
    obtain rfl := List.mem_singleton.1 hq
    obtain rfl : ['2'] = ds := Option.some.inj hds
    decide

end Marker

end ExerciseSheet

import ExerciseSheet.Export
import ExerciseSheet.Proofs.Decimal
import ExerciseSheet.Proofs.Partition

/-!
# Printing exercise by exercise

Whether a carrier takes a content does not depend on the content (`embedSegment_eq`), and the
numbers to choose by are written before any of them is looked for (`select_of_not_areWritten`), so
an export fails before the first exercise is compiled, for what the choice of segments comes to
(`Chosen`) or for want of a place in the carrier, or not at all. `Compiling.recorded` is a compile
that keeps the documents it is given with their outcomes; an export with it either stops with
nothing on record or has one document on record for each wanted segment, in their order, and pairs
each segment with the outcome of its own document (`exportSegments_calls`).
-/

namespace ExerciseSheet

namespace Compiling

variable {σ α β : Type} {x : Compiling σ α} {f : α → Compiling σ β} {w w' : σ} {a : α}

/-- An answer or a fault that is known leaves the state as it is. -/
theorem run_mk_pure {r r' : Except Fault α} (h : r = r') (w : σ) :
    (ExceptT.mk (pure r) : Compiling σ α).run.run w = (r', w) := by
  rw [← h]
  rfl

theorem run_bind (x : Compiling σ α) (f : α → Compiling σ β) (w : σ) :
    (x >>= f).run.run w = match x.run.run w with
      | (.ok a, w') => (f a).run.run w'
      | (.error e, w') => (.error e, w') := by
  rw [ExceptT.run_bind, StateT.run_bind]
  rcases x.run.run w with ⟨e | a, w'⟩ <;> rfl

theorem run_bind_of_ok (h : x.run.run w = (.ok a, w')) :
    (x >>= f).run.run w = (f a).run.run w' := by
  rw [run_bind, h]

theorem run_bind_of_error {e : Fault} (h : x.run.run w = (.error e, w')) :
    (x >>= f).run.run w = (.error e, w') := by
  rw [run_bind, h]

theorem run_bind_eq_ok {b : β} :
    (x >>= f).run.run w = (.ok b, w') ↔
      ∃ a w₁, x.run.run w = (.ok a, w₁) ∧ (f a).run.run w₁ = (.ok b, w') := by
  rw [run_bind]
  rcases x.run.run w with ⟨e | a, w₁⟩
  · constructor
    · intro h
      cases h
    · rintro ⟨a, w₂, h, -⟩
      cases h
  · constructor
    · exact fun h => ⟨a, w₁, rfl, h⟩
    · rintro ⟨a', w₁', h, hf⟩
      cases h
      exact hf

/-- A compile that keeps each document it is given, with the outcome. -/
def recorded (compile : Text → StateM σ CompileResult) (document : Text) :
    Compiling (σ × List (Text × CompileResult)) CompileResult :=
  ExceptT.mk fun (w, calls) =>
    let (result, w) := compile document w
    pure (.ok result, w, calls ++ [(document, result)])

theorem run_recorded {compile : Text → StateM σ CompileResult} {document : Text}
    {result : CompileResult} (h : compile document w = (result, w'))
    (calls : List (Text × CompileResult)) :
    (recorded compile document).run.run (w, calls)
      = (.ok result, w', calls ++ [(document, result)]) := by
  simp only [recorded, ExceptT.run, ExceptT.mk, StateT.run, h]
  rfl

end Compiling

namespace Carrier

variable {carrier : Text}

/-- What a carrier lacks to take any content. -/
def lack? (carrier : Text) : Option Fault :=
  if !Text.has contentPlace carrier then some (.placeholderMissing contentPlace)
  else if !Text.has numberPlace carrier then some (.placeholderMissing numberPlace)
  else none

theorem lack?_eq_none_iff :
    lack? carrier = none ↔
      Text.has contentPlace carrier = true ∧ Text.has numberPlace carrier = true := by
  unfold lack?
  cases Text.has contentPlace carrier <;> cases Text.has numberPlace carrier <;> decide

theorem kind?_of_lack? {f : Fault} (h : lack? carrier = some f) : f.kind? = some .template := by
  unfold lack? at h
  split_ifs at h <;> cases h <;> rfl

/-- A carrier takes every content or none, and none for the same reason. -/
theorem embed_eq (carrier content : Text) (number : SheetNumber) (review : Bool) :
    embed carrier content number review = match lack? carrier with
      | none => number.written.map fun sheet => filled content (prepared carrier sheet review)
      | some f => .error f := by
  unfold embed lack?
  cases Text.has contentPlace carrier <;> cases Text.has numberPlace carrier <;> rfl

theorem embedSegment_eq (carrier : Text) (s : Segment) (review : Bool) :
    embedSegment carrier s review = match lack? carrier with
      | none => .ok (filled s.text (prepared carrier s.label review))
      | some f => .error f := by
  rw [embedSegment, embed_eq]
  cases lack? carrier <;> rfl

end Carrier

namespace Segment

variable {m : Marker} {content : Text} {numbers : Option (List Int)} {ss : List Segment}

/-- The segment carries one of the numbers, if there are numbers to choose by. -/
def IsWanted (numbers : Option (List Int)) (s : Segment) : Prop :=
  ∀ ns ∈ numbers, s.labelNumber ∈ ns

instance (numbers : Option (List Int)) : DecidablePred (IsWanted numbers) := fun s =>
  inferInstanceAs (Decidable (∀ ns ∈ numbers, s.labelNumber ∈ ns))

/-- The numbers to choose by, if there are any, have few enough digits to be written. -/
def AreWritten (numbers : Option (List Int)) : Prop := ∀ ns ∈ numbers, ∀ n ∈ ns, IsWritten n

theorem contains_label_iff {ns : List Int} {s : Segment} :
    (ns.map wholeText).contains s.label = true ↔ s.labelNumber ∈ ns := by
  rw [List.contains_iff_mem, label, List.mem_map_of_injective wholeText_injective]

theorem filter_isWanted_eq_nil_iff :
    (ss.filter fun s => s.IsWanted numbers) = [] ↔ ∀ s ∈ ss, ¬ s.IsWanted numbers := by
  simp [List.filter_eq_nil_iff]

/-- Numbers that can be written choose the segments that carry one of them. -/
theorem select_of_areWritten (h : AreWritten numbers) :
    select numbers ss = .ok (ss.filter fun s => s.IsWanted numbers) := by
  rcases numbers with _ | ns
  · simp [select, IsWanted]
  · have hwritten : ns.mapM writeWhole = .ok (ns.map wholeText) := mapM_writeWhole (h ns rfl)
    have hfilter : ss.filter (fun s => (ns.map wholeText).contains s.label)
        = ss.filter fun s => s.IsWanted (some ns) :=
      List.filter_congr fun s _ => Bool.eq_iff_iff.2 <| by
        rw [contains_label_iff, decide_eq_true_iff]
        simp [IsWanted]
    rw [← hfilter, select, hwritten]
    rfl

/-- A number with too many digits is refused, whatever the segments carry. -/
theorem select_of_not_areWritten (h : ¬ AreWritten numbers) :
    select numbers ss = .error .writeTooLong := by
  rcases numbers with _ | ns
  · exact absurd (fun ns hns => nomatch hns) h
  · have hlong : ns.mapM writeWhole = .error .writeTooLong :=
      mapM_writeWhole_of_not fun hns => h fun ms hms => Option.mem_some.1 hms ▸ hns
    rw [select, hlong]
    rfl

/-- A number that cannot be read is all that keeps a document from being split. -/
theorem fault_of_numberOf {p : Match} {f : Fault} (h : numberOf m p = .error f) :
    ∃ t g, f = .ofNumber t g := by
  unfold numberOf at h
  split at h
  · cases h
  · split at h
    · cases h
    · cases h
      exact ⟨_, _, rfl⟩

theorem fault_of_ofMatch {ordinal : Nat} {p : Match} {stop : Nat} {f : Fault}
    (h : ofMatch m content ordinal p stop = .error f) : ∃ t g, f = .ofNumber t g := by
  rcases bind_eq_error_iff.1 h with h | ⟨n, -, h⟩
  · exact fault_of_numberOf h
  · cases h

theorem fault_of_ofMatches {f : Fault} : ∀ {ordinal : Nat} {ps : List Match},
    ofMatches m content ordinal ps = .error f → ∃ t g, f = .ofNumber t g
  | _, [], h => by cases h
  | ordinal, p :: ps, h => by
    rw [ofMatches_cons, bind_eq_error_iff] at h
    rcases h with h | ⟨s, -, h⟩
    · exact fault_of_ofMatch h
    · rcases bind_eq_error_iff.1 h with h | ⟨rest, -, h⟩
      · exact fault_of_ofMatches h
      · cases h

theorem fault_of_split {f : Fault} (h : split m content = .error f) :
    f.kind? = none ∧ f ≠ .writeTooLong := by
  obtain ⟨t, g, rfl⟩ := fault_of_ofMatches h
  cases g <;> exact ⟨rfl, nofun⟩

/-- All segments together are the document from its first marker on. -/
theorem joined_split (h : split m content = .ok ss) :
    ∀ p ∈ (m.places content).head?, joined ss = content.drop p.start := by
  intro p hp
  have htiles := ofFound_tiles (m.pattern.allMatches_leftToRight content) h
  obtain ⟨ps, hps⟩ := List.head?_eq_some_iff.1 hp
  rw [htiles.joined, show (m.pattern.allMatches content).filter _ = p :: ps from hps]
  rfl

end Segment

section Choice

/-- What a choice of segments comes to. -/
inductive Chosen (m : Marker) (content : Text) (numbers : Option (List Int)) :
    Except Fault (List Segment) → Prop
  /-- The content is not split. -/
  | unsplit {f : Fault} (split : Segment.split m content = .error f) :
      Chosen m content numbers (.error f)
  /-- There are segments, and a number with too many digits. -/
  | tooLong {ss : List Segment} (split : Segment.split m content = .ok ss) (ne_nil : ss ≠ [])
      (long : ¬ Segment.AreWritten numbers) : Chosen m content numbers (.error .writeTooLong)
  /-- There is no segment, or none that is wanted. -/
  | refused {ss : List Segment} {f : Fault} (split : Segment.split m content = .ok ss)
      (written : ss = [] ∨ Segment.AreWritten numbers)
      (unwanted : ∀ s ∈ ss, ¬ s.IsWanted numbers)
      (kind : f.kind? = some .noSegments) : Chosen m content numbers (.error f)
  /-- Some segments are wanted. -/
  | wanted {ss : List Segment} (split : Segment.split m content = .ok ss)
      (written : Segment.AreWritten numbers) (any : ∃ s ∈ ss, s.IsWanted numbers) :
      Chosen m content numbers (.ok (ss.filter fun s => s.IsWanted numbers))

theorem chosen_chosenSegments (m : Marker) (content : Text) (numbers : Option (List Int)) :
    Chosen m content numbers (chosenSegments m content numbers) := by
  unfold chosenSegments
  rcases hsplit : Segment.split m content with f | _ | ⟨s, ss⟩
  · exact .unsplit hsplit
  · exact .refused hsplit (.inl rfl) (by simp) rfl
  by_cases hwritten : Segment.AreWritten numbers
  · simp only [bind, Except.bind, Segment.select_of_areWritten hwritten, List.isEmpty_cons,
      Bool.false_eq_true, if_false]
    split_ifs with hempty
    · have hnone : (s :: ss).filter (fun s => s.IsWanted numbers) = [] := List.isEmpty_iff.1 hempty
      exact .refused hsplit (.inr hwritten) (Segment.filter_isWanted_eq_nil_iff.1 hnone) rfl
    · rw [List.isEmpty_iff, Segment.filter_isWanted_eq_nil_iff] at hempty
      exact .wanted hsplit hwritten (by simpa only [not_forall, not_not, exists_prop] using hempty)
  · simp only [bind, Except.bind, Segment.select_of_not_areWritten hwritten, List.isEmpty_cons,
      Bool.false_eq_true, if_false]
    exact .tooLong hsplit (List.cons_ne_nil s ss) hwritten

end Choice

section Export

open Compiling

variable {σ : Type} {compile : Text → StateM σ CompileResult} {carrier : Text} {review : Bool}

theorem segment_exportEach {τ : Type} {compile : Text → Compiling τ CompileResult} :
    ∀ {ss : List Segment} {exports : List SegmentExport} {w w' : τ},
      (exportEach compile carrier review ss).run.run w = (.ok exports, w') →
        exports.map (·.segment) = ss
  | [], _, _, _, h => by
    cases h
    rfl
  | s :: ss, exports, w, w', h => by
    obtain ⟨document, _, -, h⟩ := run_bind_eq_ok.1 h
    obtain ⟨result, _, -, h⟩ := run_bind_eq_ok.1 h
    obtain ⟨rest, _, hrest, h⟩ := run_bind_eq_ok.1 h
    cases h
    rw [List.map_cons, segment_exportEach hrest]

/-- An export that succeeds is of the wanted segments, in order. -/
theorem segment_exportSegments {τ : Type} {compile : Text → Compiling τ CompileResult} {m : Marker}
    {content : Text} {numbers : Option (List Int)} {exports : List SegmentExport} {w w' : τ}
    (h : (exportSegments compile m content carrier numbers review).run.run w = (.ok exports, w')) :
    ∃ ss, Segment.split m content = .ok ss
      ∧ exports.map (·.segment) = ss.filter fun s => s.IsWanted numbers := by
  obtain ⟨chosen, w₁, hchosen, hexports⟩ := run_bind_eq_ok.1 h
  have hc : chosenSegments m content numbers = .ok chosen := congrArg Prod.fst hchosen
  cases hc ▸ chosen_chosenSegments m content numbers with
  | wanted hsplit => exact ⟨_, hsplit, segment_exportEach hexports⟩

/-- An export fails with the choice of its segments, or compiles those that are chosen. -/
theorem run_exportSegments {τ : Type} (compile : Text → Compiling τ CompileResult) (m : Marker)
    (content carrier : Text) (numbers : Option (List Int)) (review : Bool) (w : τ) :
    (exportSegments compile m content carrier numbers review).run.run w
      = match chosenSegments m content numbers with
        | .error f => (.error f, w)
        | .ok ss => (exportEach compile carrier review ss).run.run w := by
  unfold exportSegments
  rw [run_bind]
  rcases chosenSegments m content numbers with f | ss <;> rfl

/-- A carrier that takes nothing ends the export before anything is compiled. -/
theorem exportEach_of_lack {τ : Type} {compile : Text → Compiling τ CompileResult} {f : Fault}
    {ss : List Segment} {w : τ} (h : Carrier.lack? carrier = some f) (hne : ss ≠ []) :
    (exportEach compile carrier review ss).run.run w = (.error f, w) := by
  obtain ⟨s, ss, rfl⟩ := List.exists_cons_of_ne_nil hne
  refine run_bind_of_error (run_mk_pure ?_ w)
  rw [Carrier.embedSegment_eq, h]

/-- With a carrier that takes contents every segment is compiled once and in turn. -/
theorem exportEach_recorded (h : Carrier.lack? carrier = none) :
    ∀ (ss : List Segment) (w : σ) (before : List (Text × CompileResult)),
      ∃ exports w' calls,
        (exportEach (recorded compile) carrier review ss).run.run (w, before)
            = (.ok exports, w', before ++ calls)
          ∧ List.Forall₂ (fun s call => Carrier.embedSegment carrier s review = .ok call.1) ss calls
          ∧ exports.map (·.segment) = ss ∧ exports.map (·.result) = calls.map (·.2)
  | [], w, before => ⟨[], w, [], by rw [List.append_nil]; rfl, .nil, rfl, rfl⟩
  | s :: ss, w, before => by
    have hdocument := Carrier.embedSegment_eq carrier s review
    simp only [h] at hdocument
    generalize Carrier.filled s.text (Carrier.prepared carrier s.label review) = document
      at hdocument
    rcases hcompile : compile document w with ⟨result, w₁⟩
    obtain ⟨exports, w', calls, hrun, hcalls, hsegments, hresults⟩ :=
      exportEach_recorded h ss w₁ (before ++ [(document, result)])
    refine ⟨⟨s, result⟩ :: exports, w', (document, result) :: calls, ?_, .cons hdocument hcalls,
      ?_, ?_⟩
    · rw [exportEach, run_bind_of_ok (run_mk_pure hdocument _),
        run_bind_of_ok (run_recorded hcompile before), run_bind_of_ok hrun, List.append_assoc]
      rfl
    · rw [List.map_cons, hsegments]
    · rw [List.map_cons, List.map_cons, hresults]

/-- An export stops before anything is compiled, or compiles each wanted segment once, in order, on
the carrier, and pairs it with its own outcome, whatever the others' are; all segments together are
the content from its first marker on. It compiles exactly when some segment is wanted, the numbers
can be written and the carrier has its places. When the split succeeds it is refused for want of
exercises exactly when there are none, or the numbers can be written and none is wanted, and it
fails for a number that is too long exactly when there are exercises and such a number. -/
theorem exportSegments_calls (compile : Text → StateM σ CompileResult) (m : Marker)
    (content carrier : Text) (numbers : Option (List Int)) (review : Bool) (w : σ) :
    let outcome :=
      (exportSegments (recorded compile) m content carrier numbers review).run.run (w, [])
    ((∃ f, outcome = (.error f, w, []))
      ∨ ∃ ss exports w' calls, Segment.split m content = .ok ss ∧ outcome = (.ok exports, w', calls)
        ∧ List.Forall₂
          (fun s call => Carrier.embed carrier s.text (.text s.label) review = .ok call.1)
          (ss.filter fun s => s.IsWanted numbers) calls
        ∧ exports.map (·.segment) = (ss.filter fun s => s.IsWanted numbers)
        ∧ exports.map (·.result) = calls.map (·.2)
        ∧ (numbers = none → ∀ p ∈ (m.places content).head?,
          Segment.joined (exports.map (·.segment)) = content.drop p.start))
      ∧ ((∃ exports, outcome.1 = .ok exports) ↔ ∃ ss, Segment.split m content = .ok ss
        ∧ (∃ s ∈ ss, s.IsWanted numbers) ∧ Segment.AreWritten numbers
        ∧ Text.has Carrier.contentPlace carrier = true
        ∧ Text.has Carrier.numberPlace carrier = true)
      ∧ ((∃ f, outcome.1 = .error f ∧ f.kind? = some .noSegments) ↔
        ∃ ss, Segment.split m content = .ok ss ∧ (ss = [] ∨ Segment.AreWritten numbers)
          ∧ ∀ s ∈ ss, ¬ s.IsWanted numbers)
      ∧ (outcome.1 = .error .writeTooLong ↔
        ∃ ss, Segment.split m content = .ok ss ∧ ss ≠ [] ∧ ¬ Segment.AreWritten numbers) := by
  intro outcome
  simp only [← Carrier.lack?_eq_none_iff]
  have hother : ∀ {f : Fault} {kind : FaultKind}, f.kind? = some kind → f ≠ .writeTooLong := by
    rintro _ _ hkind rfl
    cases hkind
  have hrun := run_exportSegments (recorded compile) m content carrier numbers review (w, [])
  have hchosen := chosen_chosenSegments m content numbers
  generalize chosenSegments m content numbers = choice at hrun hchosen
  cases hchosen with
  | @unsplit f hsplit =>
    obtain ⟨hkind, hlong⟩ := Segment.fault_of_split hsplit
    rw [show outcome = _ from hrun, hsplit]
    exact ⟨.inl ⟨f, rfl⟩, by simp, by simp [hkind], by simp [hlong]⟩
  | tooLong hsplit hne hlong =>
    rw [show outcome = _ from hrun, hsplit]
    exact ⟨.inl ⟨_, rfl⟩, by simp [hlong], by simp [Fault.kind?, hne, hlong], by simp [hne, hlong]⟩
  | @refused ss f hsplit hread hnone hkind =>
    have hlong : f ≠ .writeTooLong := hother hkind
    rw [show outcome = _ from hrun, hsplit]
    exact ⟨.inl ⟨f, rfl⟩, by simpa using fun s hs hwanted => absurd hwanted (hnone s hs),
      by simpa [hkind, hread] using hnone, by simpa [hlong, or_iff_not_imp_left] using hread⟩
  | @wanted ss hsplit hwritten hsome =>
    cases hlack : Carrier.lack? carrier with
    | some f =>
      have hf : f.kind? = some .template := Carrier.kind?_of_lack? hlack
      have hlong : f ≠ .writeTooLong := hother hf
      have hne : (ss.filter fun s => s.IsWanted numbers) ≠ [] :=
        mt Segment.filter_isWanted_eq_nil_iff.1 (by simpa using hsome)
      rw [show outcome = _ from hrun.trans (exportEach_of_lack hlack hne), hsplit]
      exact ⟨.inl ⟨f, rfl⟩, by simp, by simp [hf, hsome], by simp [hlong, hwritten]⟩
    | none =>
      obtain ⟨exports, w', calls, hexports, hcalls, hsegments, hresults⟩ :=
        exportEach_recorded hlack (ss.filter fun s => s.IsWanted numbers) w []
      rw [show outcome = _ from hrun.trans hexports, hsplit]
      refine ⟨.inr ⟨ss, exports, w', calls, rfl, rfl, hcalls, hsegments, hresults, ?_⟩,
        by simp [hsome, hwritten], by simp [hsome], by simp [hwritten]⟩
      rintro rfl
      rw [hsegments, List.filter_eq_self.2 (by simp [Segment.IsWanted])]
      exact Segment.joined_split hsplit

/-- When the only number has too many digits, no exercise carries it, yet the export is not refused
for want of exercises but fails at the number. -/
theorem exportSegments_fails_of_long_number :
    let content := "\\exercisetitle\x7bExercise 1:\x7d".toList
    let carrier := Carrier.contentPlace ++ Carrier.numberPlace
    let numbers : Option (List Int) := some [(Nat.pow 10 digitLimit : Nat)]
    let compile : Text → StateM Unit CompileResult := fun _ => pure (.produced [] [])
    let outcome :=
      (exportSegments (recorded compile) .exercise content carrier numbers false).run.run ((), [])
    (∃ ss, Segment.split .exercise content = .ok ss ∧ ∀ s ∈ ss, ¬ s.IsWanted numbers)
      ∧ outcome.1 = .error .writeTooLong
      ∧ ¬ ∃ f, outcome.1 = .error f ∧ f.kind? = some .noSegments := by
  intro content carrier numbers compile outcome
  have hlong : ¬ IsWritten (Nat.pow 10 digitLimit : Nat) := by
    rw [isWritten_iff, Int.natAbs_natCast, not_not]
  have hlabels : (Segment.split .exercise content).map (·.map (·.labelNumber)) = .ok [1] := by
    decide +kernel
  rcases hsplit : Segment.split .exercise content with f | ss <;> rw [hsplit] at hlabels
  · cases hlabels
  have hlabels : ss.map (·.labelNumber) = [1] := Except.ok.inj hlabels
  have hchosen : chosenSegments .exercise content numbers = .error .writeTooLong := by
    have hchoice := chosen_chosenSegments .exercise content numbers
    generalize chosenSegments .exercise content numbers = choice at hchoice ⊢
    cases hchoice with
    | unsplit hf => cases hsplit.symm.trans hf
    | tooLong => rfl
    | refused hss hread =>
      rcases hread with rfl | hwritten
      · cases hsplit.symm.trans hss
        cases hlabels
      · exact absurd (hwritten _ rfl _ List.mem_cons_self) hlong
    | wanted _ hwritten => exact absurd (hwritten _ rfl _ List.mem_cons_self) hlong
  have hrun : outcome = (.error .writeTooLong, (), []) :=
    run_bind_of_error (run_mk_pure hchosen _)
  refine ⟨⟨ss, rfl, fun s hs hwanted => hlong ?_⟩, congrArg Prod.fst hrun, ?_⟩
  · have hone : s.labelNumber = 1 :=
      List.mem_singleton.1 (hlabels ▸ List.mem_map_of_mem (f := (·.labelNumber)) hs)
    have hmem : s.labelNumber = (Nat.pow 10 digitLimit : Nat) :=
      List.mem_singleton.1 (hwanted _ rfl)
    rw [← hmem, hone]
    decide
  · rintro ⟨f, hf, hkind⟩
    cases (congrArg Prod.fst hrun).symm.trans hf
    cases hkind

end Export

end ExerciseSheet

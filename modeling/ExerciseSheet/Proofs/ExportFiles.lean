import ExerciseSheet.Cli.Run
import ExerciseSheet.Proofs.Decimal
import ExerciseSheet.Proofs.Exporting
import ExerciseSheet.Proofs.FileWriting
import Mathlib.Data.List.Nodup

/-!
# The files of printed exercises

The file of an exercise is named by its number, and different numbers have different texts
(`wholeText_injective`), so two exercises share a file exactly when they carry the same number
(`fileName_eq_iff`). Of those that do, one overwrites the other: after a run each exercise has its
own printed sheet exactly when no two carry the same number (`split_keeps_each_iff`).
-/

namespace ExerciseSheet

namespace Segment

variable {s t : Segment}

theorem fileName_eq (s : Segment) : s.fileName
    = ['e', 'x', 'e', 'r', 'c', 'i', 's', 'e', '_'] ++ s.label ++ ['.', 'p', 'd', 'f'] := by
  unfold fileName
  simp

theorem fileName_ne_parentPart (s : Segment) : s.fileName ≠ FilePath.parentPart := by
  rw [fileName_eq, FilePath.parentPart]
  simp

/-- Numbered segments share a file exactly when they share their number. -/
theorem fileName_eq_iff (hs : s.number.isSome = true) (ht : t.number.isSome = true) :
    s.fileName = t.fileName ↔ s.number = t.number := by
  obtain ⟨a, ha⟩ := Option.isSome_iff_exists.1 hs
  obtain ⟨b, hb⟩ := Option.isSome_iff_exists.1 ht
  have hsa : s.label = wholeText a := by rw [label, labelNumber, ha, Option.getD_some]
  have htb : t.label = wholeText b := by rw [label, labelNumber, hb, Option.getD_some]
  rw [fileName_eq, fileName_eq, List.append_left_inj, List.append_right_inj, hsa, htb, ha, hb,
    Option.some.injEq]
  exact wholeText_injective.eq_iff

end Segment

section Names

variable {τ : Type} {compile : Text → Compiling τ CompileResult} {content carrier : Text}
  {numbers : Option (List Int)} {review : Bool} {w w' : τ} {exports : List SegmentExport}

theorem number_isSome_of_export
    (h : (exportSegments compile .exercise content carrier numbers review).run.run w
      = (.ok exports, w')) : ∀ e ∈ exports, e.segment.number.isSome = true := by
  intro e he
  obtain ⟨ss, hsplit, hsegments⟩ := segment_exportSegments h
  have hmem : e.segment ∈ ss.filter fun s => s.IsWanted numbers :=
    hsegments ▸ List.mem_map_of_mem he
  exact Segment.number_isSome_of_build hsplit (List.mem_filter.1 hmem).1

/-- The exports have files of their own exactly when they have numbers of their own. -/
theorem fileNames_nodup_iff (h : ∀ e ∈ exports, e.segment.number.isSome = true) :
    (exports.map fun e => e.segment.fileName).Nodup
      ↔ (exports.map fun e => e.segment.number).Nodup := by
  rw [List.Nodup, List.Nodup, List.pairwise_map, List.pairwise_map]
  exact List.Pairwise.iff_of_mem fun ha hb =>
    not_congr (Segment.fileName_eq_iff (h _ ha) (h _ hb))

end Names

namespace Compiling

variable {σ α : Type} {x : Compiling σ α} {w : σ} {p : α → Prop}

/-- From the state `w` the computation gives a value with the property. -/
def Yields (x : Compiling σ α) (w : σ) (p : α → Prop) : Prop :=
  ∃ a w', x.run.run w = (.ok a, w') ∧ p a

instance [DecidablePred p] : Decidable (Yields x w p) :=
  match h : x.run.run w with
  | (.ok a, w') => decidable_of_iff (p a)
    ⟨fun ha => ⟨a, w', h, ha⟩, fun ⟨b, v, hb, hp⟩ => by cases h.symm.trans hb; exact hp⟩
  | (.error f, w') => isFalse fun ⟨b, v, hb, hp⟩ => by cases h.symm.trans hb

end Compiling

namespace Cli.Context

open Compiling

variable {σ : Type} {c : Context σ} {target : FilePath} {before out : Output} {w w' : σ}
  {e : SegmentExport} {exports : List SegmentExport}

/-- The file of an export holds the printed sheet of that export. -/
def Keeps (c : Context σ) (target : FilePath) (files : FileTree) (e : SegmentExport) : Prop :=
  ∃ pdf, e.result.pdf? = some pdf
    ∧ files.readFile c.directory (target.child e.segment.fileName) = .ok pdf

instance (c : Context σ) (target : FilePath) (files : FileTree) (e : SegmentExport) :
    Decidable (c.Keeps target files e) :=
  inferInstanceAs (Decidable (∃ pdf ∈ e.result.pdf?,
    files.readFile c.directory (target.child e.segment.fileName) = .ok pdf))

theorem eq_ok_of_run_fileResult {α : Type} {p : FilePath} {r : Except FileFault α} {a : α}
    (h : (fileResult p r : Compiling σ α).run.run w = (.ok a, w')) : r = .ok a ∧ w = w' := by
  have hattempt : p.attempt r = .ok a := congrArg Prod.fst h
  have hsame : w = w' := congrArg Prod.snd h
  unfold FilePath.attempt at hattempt
  split_ifs at hattempt
  rcases r with f | b <;> cases hattempt
  exact ⟨rfl, hsame⟩

theorem putExport_eq_ok (h : (c.putExport target before e).run.run w = (.ok out, w')) :
    out.code = .returned 1
      ∨ ∃ pdf, e.result.pdf? = some pdf ∧ out.code = before.code
        ∧ before.files.writeFile c.directory (target.child e.segment.fileName) pdf
          = .ok out.files := by
  unfold putExport at h
  split at h
  · cases h
    exact .inl rfl
  · next pdf log hresult =>
    obtain ⟨files, w₁, hfiles, h⟩ := run_bind_eq_ok.1 h
    cases h
    exact .inr ⟨pdf, by rw [hresult]; rfl, rfl, (eq_ok_of_run_fileResult hfiles).1⟩

/-- After exports that all succeed, a file of the directory holds the printed sheet of some export
of its name, or there is none and it is as it was. -/
theorem foldlM_putExport_eq_ok : ∀ {exports : List SegmentExport} {before : Output} {w : σ},
    (exports.foldlM (c.putExport target) before).run.run w = (.ok out, w') →
    out.code = .returned 0 →
    before.code = .returned 0 ∧ ∀ name ≠ FilePath.parentPart,
      (∃ e ∈ exports, e.segment.fileName = name ∧ c.Keeps target out.files e)
        ∨ (∀ e ∈ exports, e.segment.fileName ≠ name)
          ∧ out.files.readFile c.directory (target.child name)
            = before.files.readFile c.directory (target.child name)
  | [], before, w, h, hcode => by
    cases h
    exact ⟨hcode, fun name _ => .inr ⟨fun e he => by simp at he, rfl⟩⟩
  | e :: exports, before, w, h, hcode => by
    rw [List.foldlM_cons] at h
    obtain ⟨mid, w₁, hmid, hrest⟩ := run_bind_eq_ok.1 h
    obtain ⟨hmidcode, hnames⟩ := foldlM_putExport_eq_ok hrest hcode
    rcases putExport_eq_ok hmid with hfailed | ⟨pdf, hpdf, hsame, hwrite⟩
    · rw [hfailed] at hmidcode
      cases hmidcode
    refine ⟨hsame ▸ hmidcode, fun name hname => ?_⟩
    have hread := FileTree.readFile_writeFile (Segment.fileName_ne_parentPart _) hname hwrite
    rcases hnames name hname with ⟨d, hd, hdname, hkeeps⟩ | ⟨hnone, hunchanged⟩
    · exact .inl ⟨d, List.mem_cons_of_mem _ hd, hdname, hkeeps⟩
    · by_cases heq : name = e.segment.fileName
      · refine .inl ⟨e, List.mem_cons_self, heq.symm, pdf, hpdf, ?_⟩
        rw [← heq, hunchanged, hread, if_pos heq]
      · refine .inr ⟨List.forall_mem_cons.2 ⟨Ne.symm heq, hnone⟩, ?_⟩
        rw [hunchanged, hread, if_neg heq]

/-- After exports that all succeed, every file holds the right sheet exactly when exports that share
a file share their sheet. -/
theorem keeps_iff_of_foldlM
    (h : (exports.foldlM (c.putExport target) before).run.run w = (.ok out, w'))
    (hcode : out.code = .returned 0) :
    (∀ e ∈ exports, c.Keeps target out.files e)
      ↔ ∀ e ∈ exports, ∀ d ∈ exports, e.segment.fileName = d.segment.fileName →
        e.result.pdf? = d.result.pdf? := by
  obtain ⟨-, hnames⟩ := foldlM_putExport_eq_ok h hcode
  constructor
  · intro hkeeps e he d hd heq
    obtain ⟨pdf, hpdf, hread⟩ := hkeeps e he
    obtain ⟨pdf', hpdf', hread'⟩ := hkeeps d hd
    rw [heq, hread'] at hread
    cases hread
    rw [hpdf, hpdf']
  · intro hall e he
    rcases hnames _ (Segment.fileName_ne_parentPart e.segment) with
      ⟨d, hd, hdname, pdf, hpdf, hread⟩ | ⟨hnone, -⟩
    · refine ⟨pdf, ?_, hdname ▸ hread⟩
      rw [hall e he d hd hdname.symm, hpdf]
    · exact absurd rfl (hnone e he)

/-- The directory that the printed exercises go to. -/
def splitTarget (c : Context σ) (output : Option Text) : FilePath :=
  (output.map FilePath.ofText).getD c.surroundings.directory

/-- The exports of a sheet's file. -/
def splitExports (c : Context σ) (file : Text) (numbers : Option (List Int)) (review : Bool) :
    Compiling σ (List SegmentExport) := do
  let content ← c.document (FilePath.ofText file)
  let carrier ← c.carrier
  exportSegments c.compile .exercise content carrier numbers (c.isReview review)

section Split

variable {file : Text} {output : Option Text} {numbers : Option (List Int)} {review : Bool}

theorem runSplit_eq (c : Context σ) (file : Text) (output : Option Text)
    (numbers : Option (List Int)) (review : Bool) :
    c.runSplit file output numbers review = (do
      let exports ← c.splitExports file numbers review
      let target := c.splitTarget output
      let files ← fileResult target (c.files.makeDirectories c.directory target)
      exports.foldlM (c.putExport target) ⟨.returned 0, [], [], files, c.state⟩) := by
  unfold runSplit splitExports
  simp only [bind_assoc]
  cases output <;> rfl

theorem runSplit_eq_ok (h : (c.runSplit file output numbers review).run.run w = (.ok out, w')) :
    ∃ exports w₁ files,
      (c.splitExports file numbers review).run.run w = (.ok exports, w₁)
        ∧ (exports.foldlM (c.putExport (c.splitTarget output))
          ⟨.returned 0, [], [], files, c.state⟩).run.run w₁ = (.ok out, w') := by
  rw [runSplit_eq] at h
  obtain ⟨exports, w₁, hexports, h⟩ := run_bind_eq_ok.1 h
  obtain ⟨files, w₂, hfiles, h⟩ := run_bind_eq_ok.1 h
  obtain ⟨-, rfl⟩ := eq_ok_of_run_fileResult hfiles
  exact ⟨exports, w₁, files, hexports, h⟩

theorem number_isSome_of_splitExports
    (h : (c.splitExports file numbers review).run.run w = (.ok exports, w')) :
    ∀ e ∈ exports, e.segment.number.isSome = true := by
  obtain ⟨content, w₁, -, h⟩ := run_bind_eq_ok.1 h
  obtain ⟨carrier, w₂, -, h⟩ := run_bind_eq_ok.1 h
  exact number_isSome_of_export h

end Split

/-- Exports with the usual marker have files of their own exactly when they have numbers of their
own, whatever compiles them. After a split that returns zero, each file then holds its own printed
sheet; with a repeated number it does exactly when the exercises of that number print alike. -/
theorem split_keeps_each_iff {τ : Type} (compile : Text → Compiling τ CompileResult)
    (content carrier : Text) (wanted : Option (List Int)) (review : Bool) (v : τ) (c : Context σ)
    (file : Text) (output : Option Text) (numbers : Option (List Int)) (asked : Bool) (w : σ) :
    (∀ exports v',
      (exportSegments compile .exercise content carrier wanted review).run.run v
        = (.ok exports, v') →
      ((exports.map fun e => e.segment.fileName).Nodup
        ↔ (exports.map fun e => e.segment.number).Nodup))
      ∧ ∀ out w', (c.runSplit file output numbers asked).run.run w = (.ok out, w') →
        out.code = .returned 0 →
        ∃ exports w₁, (c.splitExports file numbers asked).run.run w = (.ok exports, w₁)
          ∧ ((exports.map fun e => e.segment.fileName).Nodup
              ∧ (∀ e ∈ exports, c.Keeps (c.splitTarget output) out.files e)
            ↔ (exports.map fun e => e.segment.number).Nodup)
          ∧ ((∀ e ∈ exports, c.Keeps (c.splitTarget output) out.files e)
            ↔ ∀ e ∈ exports, ∀ d ∈ exports, e.segment.number = d.segment.number →
              e.result.pdf? = d.result.pdf?) := by
  refine ⟨fun exports v' h => fileNames_nodup_iff (number_isSome_of_export h), ?_⟩
  intro out w' h hcode
  obtain ⟨exports, w₁, files, hexports, hfold⟩ := runSplit_eq_ok h
  have hnumber := number_isSome_of_splitExports hexports
  have hkeeps : (∀ e ∈ exports, c.Keeps (c.splitTarget output) out.files e)
      ↔ ∀ e ∈ exports, ∀ d ∈ exports, e.segment.number = d.segment.number →
        e.result.pdf? = d.result.pdf? := by
    rw [keeps_iff_of_foldlM hfold hcode]
    refine forall₂_congr fun e he => forall₂_congr fun d hd => ?_
    rw [Segment.fileName_eq_iff (hnumber e he) (hnumber d hd)]
  refine ⟨exports, w₁, hexports, ?_, hkeeps⟩
  rw [fileNames_nodup_iff hnumber, and_iff_left_iff_imp, hkeeps]
  intro hnodup e he d hd heq
  rw [List.inj_on_of_nodup_map hnodup he hd heq]

/-- The places of a carrier and nothing else. -/
def bareCarrier : Text := Carrier.contentPlace ++ Carrier.numberPlace

/-- A command line with one content and the bare carrier in the root directory, whose compiler
prints how often it has run before. -/
def counting (content : Text) : Context Nat where
  surroundings := ⟨⟨['/'], []⟩, fun _ => none, [], ⟨['/'], [['c']]⟩, 0, []⟩
  programs := ⟨fun _ => true, fun _ => pure (.exited 0), fun _ _ =>
    modifyGet fun n => (⟨some [UInt8.ofNat n], none, .exited 0⟩, n + 1)⟩
  settings := ⟨⟨['/'], []⟩, ⟨['/'], [['c']]⟩, [], Compiler.defaultTimeout,
    Compiler.defaultTimeout, 0, [], [], [], false⟩
  files := ⟨[([['s']], .file content.utf8), ([['c']], .file bareCarrier.utf8)], []⟩
  state := .new

/-- A sheet with two exercises of the numbers given. -/
def twoExercises (first second : Text) : Text :=
  "\\exercisetitle\x7bExercise ".toList ++ first ++ ":\x7d\\exercisetitle\x7bExercise ".toList
    ++ second ++ ":\x7d".toList

theorem split_keeps_each_of_two_numbers :
    let content := twoExercises ['1'] ['2']
    let c := counting content
    Yields (exportSegments c.compile .exercise content bareCarrier none false) 0 (fun exports =>
        (exports.map fun e => e.segment.fileName).Nodup)
      ∧ Yields (c.splitExports ['s'] none false) 0 fun exports =>
        Yields (c.runSplit ['s'] none none false) 0 fun out =>
          ∀ e ∈ exports, c.Keeps (c.splitTarget none) out.files e := by
  intro content c
  obtain ⟨hnames, hkeeps⟩ :=
    split_keeps_each_iff c.compile content bareCarrier none false 0 c ['s'] none none false 0
  constructor
  · obtain ⟨exports, v, hexports, hnodup⟩ :
        Yields (exportSegments c.compile .exercise content bareCarrier none false) 0 fun exports =>
          (exports.map fun e => e.segment.number).Nodup := by
      decide +kernel
    exact ⟨exports, v, hexports, (hnames exports v hexports).2 hnodup⟩
  · obtain ⟨out, w', hout, hcode⟩ : Yields (c.runSplit ['s'] none none false) 0 fun out =>
        out.code = .returned 0 := by
      decide +kernel
    obtain ⟨exports, w₁, hexports, hiff, -⟩ := hkeeps out w' hout hcode
    obtain ⟨exports', v, hexports', hnodup⟩ : Yields (c.splitExports ['s'] none false) 0
        fun exports => (exports.map fun e => e.segment.number).Nodup := by
      decide +kernel
    cases hexports.symm.trans hexports'
    exact ⟨exports, w₁, hexports, out, w', hout, (hiff.2 hnodup).2⟩

/-- Of two exercises that carry the number one the second overwrites the first, though the carrier
is in order and the compiler succeeds on every document. -/
theorem split_overwrites_repeated_number :
    let c := counting (twoExercises ['1'] ['1'])
    (∀ document w, Yields (c.compile document) w fun r => r.isSuccess = true)
      ∧ Yields c.carrier 0 (fun carrier => Carrier.issues carrier = [])
      ∧ Yields (c.splitExports ['s'] none false) 0 fun exports =>
        ¬ (exports.map fun e => e.segment.fileName).Nodup
          ∧ Yields (c.runSplit ['s'] none none false) 0 fun out =>
            out.code = .returned 0
              ∧ ∃ e ∈ exports, ¬ c.Keeps (c.splitTarget none) out.files e := by
  intro c
  refine ⟨fun document w => ⟨_, _, rfl, rfl⟩, ?_⟩
  decide +kernel

end Cli.Context

end ExerciseSheet

import ExerciseSheet.Proofs.Fields
import ExerciseSheet.Proofs.History
import ExerciseSheet.Proofs.Seam
import ExerciseSheet.Settings.EnvFile
import Mathlib.Data.List.Induction

/-!
# What a settings file says

A line sets a key to what stands behind its first equals sign (`pairOf?_eq_some_iff`), and of the
lines that set a key the last one counts (`mem_fieldsOf_lines_iff`). A value stands in the file as
it is or between two quotes of one kind (`Written`), and is read as such, except that a single quote
character, which is no pair of quotes, is read as nothing. So a file is read as it is written
exactly when no key is left with such a value (`load_asWritten_iff`).
-/

namespace ExerciseSheet

variable {t : Text}

/-- A text is cut at the first occurrence of a character. -/
theorem cutAt?_char_eq_some_iff {c : Char} {front back : Text} :
    Text.cutAt? [c] t = some (front, back) ↔ t = front ++ c :: back ∧ c ∉ front := by
  constructor
  · intro hcut
    refine ⟨?_, fun hmem => ?_⟩
    · rw [cutAt?_eq_some hcut, List.append_assoc, List.singleton_append]
    · refine not_infix_head_of_cutAt? (List.cons_ne_nil c []) hcut ?_
      obtain ⟨s, r, rfl⟩ := List.append_of_mem hmem
      exact ⟨s, r, by rw [List.append_assoc, List.singleton_append]⟩
  · rintro ⟨rfl, hfront⟩
    induction front with
    | nil => simp [Text.cutAt?]
    | cons d front ih =>
      rw [List.mem_cons, not_or] at hfront
      rw [List.cons_append, Text.cutAt?, if_neg (by simpa using hfront.1), ih hfront.2]
      rfl

namespace EnvFile

/-- A line sets a key to a value: it does not start with a number sign, and they stand before and
behind its first equals sign. -/
def Sets (line key value : Text) : Prop :=
  ¬ ['#'] <+: line.trim ∧ key ≠ []
    ∧ ∃ front back, line.trim = front ++ '=' :: back ∧ '=' ∉ front
      ∧ key = Text.trim front ∧ value = Text.trim back

/-- The last of the lines that set a key sets it to a value. -/
def SetLast (lines : List Text) (key value : Text) : Prop :=
  Since (fun _ line => Sets line key value) (fun _ line => ¬ ∃ v, Sets line key v) lines

/-- A value is written as it is, or between two quotes of one kind if that is how it stands. -/
def Written (value w : Text) : Prop :=
  (∃ q, isQuote q = true ∧ value = q :: (w ++ [q]))
    ∨ ((¬ ∃ q inside, isQuote q = true ∧ value = q :: (inside ++ [q])) ∧ w = value)

/-- The settings are what the lines of a file set last, as it is written there. -/
def AsWritten (lines : List Text) (settings : List (Text × Text)) : Prop :=
  (settings.map (·.1)).Nodup
    ∧ ∀ key w, (key, w) ∈ settings ↔ ∃ value, SetLast lines key value ∧ Written value w

variable {line key key' value value' w : Text} {lines : List Text} {q : Char}

theorem Sets.unique (h : Sets line key value) (h' : Sets line key' value') :
    key = key' ∧ value = value' := by
  obtain ⟨-, -, front, back, hcut, hfront, rfl, rfl⟩ := h
  obtain ⟨-, -, front', back', hcut', hfront', rfl, rfl⟩ := h'
  have heq := (cutAt?_char_eq_some_iff.2 ⟨hcut, hfront⟩).symm.trans
    (cutAt?_char_eq_some_iff.2 ⟨hcut', hfront'⟩)
  rw [Option.some.injEq, Prod.mk.injEq] at heq
  exact ⟨congrArg _ heq.1, congrArg _ heq.2⟩

/-- A line gives the key that it sets and its value without quotes. -/
theorem pairOf?_eq_some_iff :
    pairOf? line = some (key, w) ↔ ∃ value, Sets line key value ∧ w = unquote value := by
  unfold pairOf? Sets
  simp only [← List.isPrefixOf_iff_prefix]
  split_ifs with hcomment
  · simp [hcomment]
  · rcases hcut : Text.cutAt? ['='] line.trim with _ | ⟨front, back⟩
    · refine iff_of_false nofun ?_
      rintro ⟨_, ⟨-, -, front, back, hsplit, hfront, -, -⟩, -⟩
      rw [cutAt?_char_eq_some_iff.2 ⟨hsplit, hfront⟩] at hcut
      cases hcut
    · have hsplit := cutAt?_char_eq_some_iff.1 hcut
      simp only [List.isEmpty_iff]
      constructor
      · intro h
        split_ifs at h with hkey
        cases h
        exact ⟨_, ⟨hcomment, hkey, front, back, hsplit.1, hsplit.2, rfl, rfl⟩, rfl⟩
      · rintro ⟨_, ⟨-, hkey, front', back', hsplit', hfront', rfl, rfl⟩, rfl⟩
        rw [cutAt?_char_eq_some_iff.2 ⟨hsplit', hfront'⟩] at hcut
        cases hcut
        rw [if_neg hkey]

theorem setLast_append_singleton : SetLast (lines ++ [line]) key value ↔
    Sets line key value ∨ (SetLast lines key value ∧ ¬ ∃ v, Sets line key v) :=
  since_append_singleton

theorem SetLast.unique (h : SetLast lines key value) (h' : SetLast lines key value') :
    value = value' := by
  induction lines using List.reverseRecOn with
  | nil => exact (not_since_nil h).elim
  | append_singleton lines line ih =>
    rcases setLast_append_singleton.1 h with hline | ⟨hlines, hno⟩ <;>
      rcases setLast_append_singleton.1 h' with hline' | ⟨hlines', hno'⟩
    · exact (hline.unique hline').2
    · exact absurd ⟨_, hline⟩ hno'
    · exact absurd ⟨_, hline'⟩ hno
    · exact ih hlines hlines'

/-- The settings of some lines are the keys that they set, each with its last value. -/
theorem mem_fieldsOf_lines_iff : (key, w) ∈ Json.fieldsOf (lines.filterMap pairOf?)
    ↔ ∃ value, SetLast lines key value ∧ w = unquote value := by
  induction lines using List.reverseRecOn with
  | nil => exact iff_of_false List.not_mem_nil fun ⟨_, h, _⟩ => not_since_nil h
  | append_singleton lines line ih =>
    simp only [setLast_append_singleton]
    rw [List.filterMap_append]
    rcases hpair : pairOf? line with _ | ⟨k, x⟩
    · have hno : ∀ k v, ¬ Sets line k v := by
        intro k v hsets
        rw [pairOf?_eq_some_iff.2 ⟨v, hsets, rfl⟩] at hpair
        cases hpair
      simp [hpair, ih, hno]
    · obtain ⟨v, hsets, rfl⟩ := pairOf?_eq_some_iff.1 hpair
      rw [List.filterMap_cons_some hpair, List.filterMap_nil, Json.fieldsOf_append_singleton,
        Json.mem_putField_iff (Json.nodup_fieldsOf _)]
      by_cases hkey : key = k
      · subst hkey
        have hline : ∀ v', Sets line key v' ↔ v' = v :=
          fun v' => ⟨fun h => (h.unique hsets).2, fun h => h ▸ hsets⟩
        simp [hline]
      · have hline : ∀ v', ¬ Sets line key v' := fun v' h => hkey (h.unique hsets).1
        simp [hkey, hline, ih]

theorem unquote_quoted (hq : isQuote q = true) (inside : Text) :
    unquote (q :: (inside ++ [q])) = inside := by
  rw [unquote, ← List.cons_append, List.getLast?_concat, List.dropLast_concat]
  simp [hq]

theorem unquote_quote (hq : isQuote q = true) : unquote [q] = [] := by
  simp [unquote, hq]

theorem unquote_of_not_quoted
    (h : ¬ ∃ q inside, isQuote q = true ∧ value = q :: (inside ++ [q]))
    (hlone : ∀ q, isQuote q = true → value ≠ [q]) : unquote value = value := by
  rcases value with _ | ⟨c, inside⟩
  · rfl
  · rw [unquote, if_neg]
    rw [Bool.and_eq_true, decide_eq_true_eq]
    rintro ⟨hc, hlast⟩
    rcases inside.eq_nil_or_concat' with rfl | ⟨inside, d, rfl⟩
    · exact hlone c hc rfl
    · rw [← List.cons_append, List.getLast?_concat, Option.some.injEq] at hlast
      exact h ⟨c, inside, hc, by rw [hlast]⟩

/-- A value that is not a single quote character is read as it is written. -/
theorem written_iff (hlone : ∀ q, isQuote q = true → value ≠ [q]) :
    Written value w ↔ w = unquote value := by
  by_cases hquoted : ∃ q inside, isQuote q = true ∧ value = q :: (inside ++ [q])
  · obtain ⟨q, inside, hq, rfl⟩ := hquoted
    rw [unquote_quoted hq]
    constructor
    · rintro (⟨r, -, heq⟩ | ⟨hno, -⟩)
      · obtain ⟨-, heq⟩ := List.cons.inj heq
        exact (List.append_inj' heq rfl).1.symm
      · exact absurd ⟨q, inside, hq, rfl⟩ hno
    · rintro rfl
      exact .inl ⟨q, hq, rfl⟩
  · rw [unquote_of_not_quoted hquoted hlone]
    constructor
    · rintro (⟨r, hr, heq⟩ | ⟨-, hw⟩)
      · exact absurd ⟨r, w, hr, heq⟩ hquoted
      · exact hw
    · exact fun hw => .inr ⟨hquoted, hw⟩

theorem not_written_quote_nil : ¬ Written [q] [] := by
  rintro (⟨r, -, heq⟩ | ⟨-, heq⟩) <;> cases heq

theorem asWritten_iff : AsWritten lines (Json.fieldsOf (lines.filterMap pairOf?))
    ↔ ∀ key q, isQuote q = true → ¬ SetLast lines key [q] := by
  constructor
  · rintro ⟨-, hmem⟩ key q hq hset
    obtain ⟨value, hvalue, hwritten⟩ := (hmem key []).1
      (mem_fieldsOf_lines_iff.2 ⟨[q], hset, (unquote_quote hq).symm⟩)
    rw [hvalue.unique hset] at hwritten
    exact not_written_quote_nil hwritten
  · intro hno
    refine ⟨Json.nodup_fieldsOf _, fun key w => ?_⟩
    rw [mem_fieldsOf_lines_iff]
    refine exists_congr fun value => and_congr_right fun hset => ?_
    refine (written_iff ?_).symm
    rintro q hq rfl
    exact hno key q hq hset

variable {tree : FileTree} {cwd : List Text} {path : FilePath} {content : Octets}

theorem load_of_document (hread : tree.readFile cwd path = .ok content)
    (ht : content.document = .ok t) : load tree cwd path = .ok (read t) := by
  have hfound : ∃ node, tree.find? cwd path = some node := by
    unfold FileTree.readFile at hread
    unfold FileTree.find?
    rcases hplace : tree.locate cwd path with r | place <;> rw [hplace] at hread
    · cases hread
    · rcases hnode : tree.node? place with _ | node <;> simp only [hnode] at hread
      · cases hread
      · exact ⟨node, hnode⟩
  obtain ⟨node, hfound⟩ := hfound
  rw [load, hfound]
  simp only [hread, ht]
  rfl

/-- A settings file gives each key that a line sets the value of the last such line, without the
quotes around it. It is read as it is written exactly when no key's last value is a single quote
character, which is read as nothing. -/
theorem load_asWritten_iff (hread : tree.readFile cwd path = .ok content)
    (ht : content.document = .ok t) :
    ∃ settings, load tree cwd path = .ok settings
      ∧ (∀ key w, (key, w) ∈ settings ↔
        ∃ value, SetLast (t.splitOn '\n') key value ∧ w = unquote value)
      ∧ (∀ q, isQuote q = true → unquote [q] = [])
      ∧ (AsWritten (t.splitOn '\n') settings ↔
        ∀ key q, isQuote q = true → ¬ SetLast (t.splitOn '\n') key [q]) :=
  ⟨read t, load_of_document hread ht, fun _ _ => mem_fieldsOf_lines_iff, fun _ => unquote_quote,
    asWritten_iff⟩

/-- The path of a settings file. -/
def notes : FilePath := ⟨['/'], [['.', 'e', 'n', 'v']]⟩

/-- A directory with a settings file that holds a text. -/
def noted (t : Text) : FileTree := ⟨[(notes.parts, .file t.utf8)], []⟩

/-- A key that is set twice, the second time in quotes to a value that holds an equals sign. -/
theorem load_asWritten_of_key_twice :
    let t : Text := "K = '\nK=\"a='b'\"\n".toList
    (noted t).readFile [] notes = .ok t.utf8 ∧ t.utf8.document = .ok t
      ∧ ∃ settings, load (noted t) [] notes = .ok settings
        ∧ AsWritten (t.splitOn '\n') settings := by
  intro t
  have hread : (noted t).readFile [] notes = .ok t.utf8 := by decide +kernel
  have ht : t.utf8.document = .ok t := by decide +kernel
  refine ⟨hread, ht, ?_⟩
  obtain ⟨settings, hload, hmem, hquote, hiff⟩ := load_asWritten_iff hread ht
  have hsettings : load (noted t) [] notes = .ok [(['K'], "a='b'".toList)] := by decide +kernel
  refine ⟨settings, hload, hiff.2 fun key q hq hset => ?_⟩
  have hnil := (hmem key []).2 ⟨[q], hset, (hquote q hq).symm⟩
  rw [Except.ok.inj (hload.symm.trans hsettings), List.mem_singleton, Prod.mk.injEq] at hnil
  exact absurd hnil.2 (by decide +kernel)

/-- A value that is a single quote character is read as nothing. -/
theorem not_asWritten_single_quote :
    ∃ settings, load (noted ['K', '=', '"']) [] notes = .ok settings
      ∧ ¬ AsWritten (Text.splitOn '\n' ['K', '=', '"']) settings := by
  refine ⟨[(['K'], [])], by decide +kernel, fun h => ?_⟩
  have hsets : Sets ['K', '=', '"'] ['K'] ['"'] :=
    ⟨by decide, by decide, ['K'], ['"'], by decide, by decide, by decide, by decide⟩
  have hset : SetLast (Text.splitOn '\n' ['K', '=', '"']) ['K'] ['"'] :=
    ⟨[], _, [], rfl, hsets, fun mid f rest hmid => by cases mid <;> cases hmid⟩
  obtain ⟨value, hvalue, hwritten⟩ := (h.2 ['K'] []).1 List.mem_cons_self
  rw [hvalue.unique hset] at hwritten
  exact not_written_quote_nil hwritten

end EnvFile

end ExerciseSheet

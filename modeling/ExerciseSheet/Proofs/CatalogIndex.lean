import ExerciseSheet.Proofs.History
import ExerciseSheet.Proofs.InputFiles

/-!
# The index of a catalog

Entries can be read one by one into an index that files each under its id. The reading is refused
exactly where the catalog is, and otherwise leaves the entries in their order, each with its id
(`index_eq`), so that the index finds what the catalog does. A refusal is about the first entry that
repeats an id or, failing that, has no label (`index_eq_error_iff`). A mapping has each key once, so
none of its entries repeats an id (`ofMapping_ne_repeated`).
-/

namespace ExerciseSheet

namespace Entry

variable {id other : Text}

theorem keywordsOf_ne_repeated {value : Option Json} :
    keywordsOf id value ≠ .error (.repeatedSnippet other) := by
  intro h
  unfold keywordsOf at h
  repeat' split at h
  all_goals cases h

theorem ofMetadata_ne_repeated {info : Json} :
    ofMetadata id info ≠ .error (.repeatedSnippet other) := by
  intro h
  cases info with
  | object fields =>
    rcases hkeys : keywordsOf id (Json.get? "keywords".toList (.object fields)) with f | ks
    · simp only [ofMetadata, hkeys] at h
      cases h
      exact keywordsOf_ne_repeated hkeys
    · simp only [ofMetadata, hkeys] at h
      cases h
  | _ => cases h

end Entry

namespace Catalog

/-- The index with one more entry, filed under its id. -/
def file (index : List (Text × Entry)) (e : Entry) : Except Fault (List (Text × Entry)) :=
  if (index.lookup e.id).isSome then .error (.repeatedSnippet e.id)
  else if e.label.isEmpty then .error (.unlabelled e.id)
  else .ok (Json.putField e.id e index)

/-- The index of a list of entries. -/
def index (es : List Entry) : Except Fault (List (Text × Entry)) := es.foldlM file []

/-- Entries in their order, each with its id. -/
def byId (es : List Entry) : List (Text × Entry) := es.map fun e => (e.id, e)

/-- The fault of an entry that is read after others: it repeats the id of one of them or, if it does
not, it has no label. -/
def Offends (before : List Entry) (e : Entry) (f : Fault) : Prop :=
  (∃ x ∈ before, x.id = e.id) ∧ f = .repeatedSnippet e.id
    ∨ (∀ x ∈ before, x.id ≠ e.id) ∧ e.label = [] ∧ f = .unlabelled e.id

/-- Entries with different ids, and a label each. -/
def WellListed (es : List Entry) : Prop := (es.map (·.id)).Nodup ∧ ∀ e ∈ es, e.label ≠ []

/-- The fault of the first entry that has one. -/
def FirstOffence (es : List Entry) (f : Fault) : Prop :=
  ∃ before e after, es = before ++ e :: after ∧ WellListed before ∧ Offends before e f

/-- A catalog lists some entries in their order and finds each under its id and nothing else, as
their index does. -/
structure Coherent (c : Catalog) (es : List Entry) : Prop where
  entries_eq : c.entries = es
  get?_id : ∀ e ∈ es, c.get? e.id = some e
  has_iff : ∀ x, c.has x = true ↔ ∃ e ∈ es, e.id = x
  has_iff_get? : ∀ x, c.has x = true ↔ c.get? x ≠ none
  indexed : ∃ i, index es = .ok i ∧ i.map (·.2) = c.entries ∧ ∀ x, i.lookup x = c.get? x

variable {es : List Entry} {e : Entry} {f : Fault}

theorem keys_byId (es : List Entry) : (byId es).map (·.1) = es.map (·.id) := by
  rw [byId, List.map_map]
  rfl

theorem entries_byId (es : List Entry) : (byId es).map (·.2) = es := by
  rw [byId, List.map_map]
  exact List.map_id es

theorem byId_append_singleton (es : List Entry) (e : Entry) :
    byId (es ++ [e]) = byId es ++ [(e.id, e)] := List.map_append

theorem lookup_byId (x : Text) : ∀ es : List Entry, (byId es).lookup x = es.find? (·.id == x)
  | [] => rfl
  | e :: es => by
    rw [byId, List.map_cons, List.lookup_cons, List.find?_cons, ← byId, lookup_byId x es, BEq.comm]

theorem isSome_lookup_byId {x : Text} :
    ((byId es).lookup x).isSome = true ↔ ∃ e ∈ es, e.id = x := by
  simp [lookup_byId]

theorem file_cases (es : List Entry) (e : Entry) :
    (∃ f, file (byId es) e = .error f ∧ ∀ g, Offends es e g ↔ f = g)
      ∨ file (byId es) e = .ok (byId (es ++ [e])) ∧ ∀ g, ¬ Offends es e g := by
  unfold file Offends
  by_cases hid : ∃ x ∈ es, x.id = e.id
  · refine .inl ⟨_, if_pos (isSome_lookup_byId.2 hid), fun g => ⟨?_, fun h => .inl ⟨hid, h.symm⟩⟩⟩
    rintro (⟨-, hg⟩ | ⟨hall, -⟩)
    · exact hg.symm
    · obtain ⟨x, hx, heq⟩ := hid
      exact absurd heq (hall x hx)
  · have hall : ∀ x ∈ es, x.id ≠ e.id := fun x hx heq => hid ⟨x, hx, heq⟩
    rw [if_neg (mt isSome_lookup_byId.1 hid)]
    by_cases hlabel : e.label = []
    · refine .inl ⟨_, if_pos (by simp [hlabel]), fun g =>
        ⟨?_, fun h => .inr ⟨hall, hlabel, h.symm⟩⟩⟩
      rintro (⟨h, -⟩ | ⟨-, -, hg⟩)
      · exact absurd h hid
      · exact hg.symm
    · refine .inr ⟨?_, fun g => by simp [hid, hlabel]⟩
      have hkey : e.id ∉ (byId es).map (·.1) := by rwa [keys_byId, List.mem_map]
      rw [if_neg (by simpa using hlabel), Json.putField_of_not_mem hkey, byId_append_singleton]

theorem index_append_singleton (es : List Entry) (e : Entry) :
    index (es ++ [e]) = index es >>= fun i => file i e := by
  rw [index, List.foldlM_append]
  simp [index]

theorem entriesFault_append {seen : List Text} {fs : List Entry} :
    entriesFault seen (es ++ fs)
      = (entriesFault seen es).or (entriesFault ((es.map (·.id)).reverse ++ seen) fs) := by
  induction es generalizing seen with
  | nil => rfl
  | cons e es ih =>
    rw [List.cons_append, entriesFault, entriesFault]
    split_ifs
    · rfl
    · rfl
    · rw [ih]
      simp

theorem entriesFault_singleton (es : List Entry) (e : Entry) :
    entriesFault (es.map (·.id)).reverse [e]
      = match file (byId es) e with
        | .error f => some f
        | .ok _ => none := by
  have hmem : e.id ∈ (es.map (·.id)).reverse ↔ ((byId es).lookup e.id).isSome = true := by
    rw [isSome_lookup_byId, List.mem_reverse, List.mem_map]
  unfold file
  rw [entriesFault]
  by_cases hid : ((byId es).lookup e.id).isSome = true
  · rw [if_pos hid, if_pos (hmem.2 hid)]
  · rw [if_neg hid, if_neg (mt hmem.1 hid)]
    split_ifs <;> rfl

theorem index_eq_entriesFault (es : List Entry) : index es
    = match entriesFault [] es with
      | some f => .error f
      | none => .ok (byId es) := by
  induction es using List.reverseRecOn with
  | nil => rfl
  | append_singleton es e ih =>
    rw [index_append_singleton, ih, entriesFault_append, List.append_nil, entriesFault_singleton]
    rcases entriesFault [] es with _ | f
    · obtain ⟨f, hf, -⟩ | ⟨hf, -⟩ := file_cases es e <;> simp [hf, bind, Except.bind]
    · rfl

/-- Entries are refused for the index where they are for the catalog, and are else listed by id. -/
theorem index_eq (es : List Entry) :
    index es = (ofEntries es).map fun c => byId c.entries := by
  rw [index_eq_entriesFault]
  obtain ⟨f, hfault, hf⟩ | ⟨hfault, c, hc, hes⟩ := ofEntries_cases es
  · rw [hfault, hf]
    rfl
  · rw [hfault, hc, Except.map, hes]

theorem index_eq_ok_iff {i : List (Text × Entry)} :
    index es = .ok i ↔ WellListed es ∧ i = byId es := by
  rw [index_eq, WellListed, ← ofEntries_isOk_iff]
  rcases hes : ofEntries es with f | c
  · simp [Except.map]
  · simp [Except.map, entries_eq_of_ofEntries hes, eq_comm]

theorem firstOffence_append_singleton : FirstOffence (es ++ [e]) f
    ↔ FirstOffence es f ∨ WellListed es ∧ Offends es e f := by
  constructor
  · rintro ⟨before, x, after, hcut, hbefore, hx⟩
    obtain ⟨rfl, rfl, -⟩ | ⟨rest, -, hes⟩ := cut_append_singleton hcut
    · exact .inr ⟨hbefore, hx⟩
    · exact .inl ⟨before, x, rest, hes, hbefore, hx⟩
  · rintro (⟨before, x, after, rfl, hbefore, hx⟩ | ⟨hes, he⟩)
    · exact ⟨before, x, after ++ [e], by simp, hbefore, hx⟩
    · exact ⟨es, e, [], rfl, hes, he⟩

theorem index_eq_error_iff : index es = .error f ↔ FirstOffence es f := by
  induction es using List.reverseRecOn with
  | nil => exact iff_of_false nofun fun ⟨before, e, after, h, _⟩ => by cases before <;> cases h
  | append_singleton es e ih =>
    rw [index_append_singleton, firstOffence_append_singleton, ← ih]
    rcases hes : index es with g | i
    · -- entries that are refused already are not all well listed
      have hnot : ¬ WellListed es := fun h => by
        cases hes.symm.trans (index_eq_ok_iff.2 ⟨h, rfl⟩)
      simp [bind, Except.bind, hnot]
    · obtain ⟨hwell, rfl⟩ := index_eq_ok_iff.1 hes
      change file (byId es) e = _ ↔ _
      obtain ⟨g, hg, hoffends⟩ | ⟨hg, hoffends⟩ := file_cases es e <;> simp [hg, hwell, hoffends]

theorem ofEntries_eq_error_iff : ofEntries es = .error f ↔ FirstOffence es f := by
  rw [← index_eq_error_iff, index_eq]
  rcases ofEntries es with g | c <;> simp [Except.map]

theorem get?_eq_some_iff {c : Catalog} {x : Text} :
    c.get? x = some e ↔ e ∈ c.entries ∧ e.id = x := by
  constructor
  · intro h
    exact ⟨List.mem_of_find?_eq_some h, by simpa using List.find?_some h⟩
  · rintro ⟨he, rfl⟩
    rcases hfound : c.get? e.id with _ | e'
    · simpa using List.find?_eq_none.1 hfound e he
    · -- no two entries have the same id
      have hid : e'.id = e.id := by simpa using List.find?_some hfound
      rw [List.inj_on_of_nodup_map c.nodup_ids (List.mem_of_find?_eq_some hfound) he hid]

theorem has_iff {c : Catalog} {x : Text} : c.has x = true ↔ ∃ e ∈ c.entries, e.id = x := by
  simp [has]

theorem coherent_of_ofEntries {c : Catalog} (h : ofEntries es = .ok c) : c.Coherent es := by
  have hentries := entries_eq_of_ofEntries h
  refine ⟨hentries, ?_, ?_, ?_, ?_⟩
  · intro e he
    exact get?_eq_some_iff.2 ⟨hentries ▸ he, rfl⟩
  · intro x
    rw [has_iff, hentries]
  · intro x
    rw [has_iff, Option.ne_none_iff_exists']
    simp only [get?_eq_some_iff]
  · refine ⟨byId c.entries, ?_, entries_byId _, fun x => lookup_byId x _⟩
    rw [index_eq, h]
    rfl

theorem mapM_of_ofMapping {pairs : List (Text × Json)} {c : Catalog}
    (h : ofMapping pairs = .ok c) :
    pairs.mapM (fun p => Entry.ofMetadata p.1 p.2) = .ok c.entries := by
  unfold ofMapping at h
  rcases hes : pairs.mapM (fun p => Entry.ofMetadata p.1 p.2) with f | es <;> rw [hes] at h
  · cases h
  · rw [entries_eq_of_ofEntries h]
    exact hes

theorem ofMapping_ne_repeated {pairs : List (Text × Json)} (hpairs : (pairs.map (·.1)).Nodup)
    (id : Text) : ofMapping pairs ≠ .error (.repeatedSnippet id) := by
  intro h
  unfold ofMapping at h
  rcases hes : pairs.mapM (fun p => Entry.ofMetadata p.1 p.2) with f | es <;> rw [hes] at h
  · obtain rfl : f = _ := Except.error.inj h
    obtain ⟨-, p, -, -, -, hp⟩ := mapM_eq_error_iff.1 hes
    exact Entry.ofMetadata_ne_repeated hp
  · obtain ⟨before, e, after, rfl, -, ⟨⟨x, hx, heq⟩, -⟩ | ⟨-, -, hf⟩⟩ :=
      ofEntries_eq_error_iff.1 h
    · rw [← (map_of_mapM hes).1, List.map_append, List.nodup_append] at hpairs
      exact hpairs.2.2 _ (List.mem_map_of_mem hx) _ (List.mem_map_of_mem List.mem_cons_self) heq
    · cases hf

/-- A list of entries is refused as a catalog exactly when an id comes twice or a label is empty,
for the first entry that repeats an id or, failing that, has no label. Otherwise it is listed as it
is and each entry is found under its id. A mapping that is a catalog has an entry of the same id for
each of its pairs, in their order, and no mapping is refused for an id that comes twice. -/
theorem ofEntries_coherent :
    (∀ es : List Entry,
      ((∃ f, ofEntries es = .error f) ↔ ¬ (es.map (·.id)).Nodup ∨ ∃ e ∈ es, e.label = [])
      ∧ (∀ f, ofEntries es = .error f ↔ FirstOffence es f)
      ∧ RefusedOnlyAs .catalog (ofEntries es)
      ∧ ∀ c, ofEntries es = .ok c → c.Coherent es)
    ∧ ∀ pairs : List (Text × Json), (pairs.map (·.1)).Nodup →
      (∀ c, ofMapping pairs = .ok c → c.entries.map (·.id) = pairs.map (·.1)
        ∧ List.Forall₂ (fun p e => Entry.ofMetadata p.1 p.2 = .ok e) pairs c.entries)
      ∧ ∀ id, ofMapping pairs ≠ .error (.repeatedSnippet id) := by
  refine ⟨fun es => ⟨?_, fun f => ofEntries_eq_error_iff, fun f => kind?_of_ofEntries,
    fun c => coherent_of_ofEntries⟩, fun pairs hpairs => ⟨fun c hc => ?_, ?_⟩⟩
  · have hrefused : (∃ f, ofEntries es = .error f) ↔ ¬ ∃ c, ofEntries es = .ok c := by
      rcases ofEntries es with f | c <;> simp
    rw [hrefused, ofEntries_isOk_iff, not_and_or]
    simp
  · have hmap := mapM_of_ofMapping hc
    exact ⟨(map_of_mapM hmap).1, mapM_eq_ok_iff.1 hmap⟩
  · exact ofMapping_ne_repeated hpairs

/-- The entry without a label comes before the one that repeats an id. -/
theorem ofEntries_coherent_of_unlabelled_first :
    let x : Entry := ⟨['x'], ['X'], [], defaultSymbol, [], false, false⟩
    let y : Entry := ⟨['y'], [], [], defaultSymbol, [], false, false⟩
    let pairs : List (Text × Json) := [(['x'], .object []), (['y'], .null)]
    FirstOffence [x, y, x] (.unlabelled ['y']) ∧ (pairs.map (·.1)).Nodup
      ∧ ∀ id, ofMapping pairs ≠ .error (.repeatedSnippet id) := by
  intro x y pairs
  have hpairs : (pairs.map (·.1)).Nodup := by decide
  exact ⟨((ofEntries_coherent.1 [x, y, x]).2.1 _).1 rfl, hpairs, (ofEntries_coherent.2 _ hpairs).2⟩

end Catalog

end ExerciseSheet

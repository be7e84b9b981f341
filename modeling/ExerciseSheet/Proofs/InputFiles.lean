import ExerciseSheet.Carrier.Basic
import ExerciseSheet.Catalog.Reading
import ExerciseSheet.Proofs.Fields
import ExerciseSheet.Proofs.Sequencing

/-!
# Which input files are refused as such

A mapping is refused for its first pair whose metadata is refused (`mapM_eq_error_iff`), else for
its entries as a whole, so a file of well-formed entries is accepted and no other object is
(`ofFields_isOk_iff`). A refusal is the catalog's own unless the keywords that it is about are a
bare value (`Entry.keywordsOf_cases`) or the octets are not read as a value at all
(`refusedOnlyAs_ofOctets_iff`). How deep the values may nest is left open throughout, and a key may
have signs in it that are no characters (`Json.nodup_keys_toChar`).
-/

namespace ExerciseSheet

/-- There is an answer, or a refusal of that kind. -/
def RefusedOnlyAs {α : Type} (kind : FaultKind) (r : Except Fault α) : Prop :=
  ∀ f, r = .error f → f.kind? = some kind

section RefusedOnlyAs

variable {α β : Type} {kind : FaultKind} {f : Fault} {a : α} {r : Except Fault α}

@[simp]
theorem refusedOnlyAs_error :
    RefusedOnlyAs kind (.error f : Except Fault α) ↔ f.kind? = some kind :=
  ⟨fun h => h f rfl, fun h _ hf => Except.error.inj hf ▸ h⟩

@[simp]
theorem refusedOnlyAs_ok : RefusedOnlyAs kind (.ok a) := fun _ hf => nomatch hf

instance : (r : Except Fault α) → Decidable (RefusedOnlyAs kind r)
  | .error _ => decidable_of_iff _ refusedOnlyAs_error.symm
  | .ok _ => .isTrue refusedOnlyAs_ok

/-- What is refused only as that kind leaves it to what comes before. -/
theorem refusedOnlyAs_bind_iff {g : α → Except Fault β} (hg : ∀ a, RefusedOnlyAs kind (g a)) :
    RefusedOnlyAs kind (r >>= g) ↔ RefusedOnlyAs kind r := by
  rcases r with f | a
  · exact refusedOnlyAs_error.trans refusedOnlyAs_error.symm
  · exact iff_of_true (hg a) refusedOnlyAs_ok

theorem refusedOnlyAs_map_iff {h : α → β} :
    RefusedOnlyAs kind (h <$> r) ↔ RefusedOnlyAs kind r := by
  rcases r with f | a
  · exact refusedOnlyAs_error.trans refusedOnlyAs_error.symm
  · exact iff_of_true refusedOnlyAs_ok refusedOnlyAs_ok

end RefusedOnlyAs

namespace Json

variable {σ τ : Type} {fields : List (List Sign × Json Sign)}

theorem mapFields_eq (f : σ → τ) : ∀ fields : List (List σ × Json σ),
    mapFields f fields = fields.map fun p => (p.1.map f, p.2.map f)
  | [] => rfl
  | (k, v) :: fields => by rw [mapFields, mapFields_eq f fields, List.map_cons]

theorem char_toChar : ∀ {t : List Sign}, t.all Sign.isChar = true →
    (t.map Sign.toChar).map Sign.char = t
  | [], _ => rfl
  | .char c :: t, h => congrArg (Sign.char c :: ·) (char_toChar (t := t) h)

/-- Keys of characters alone differ as texts when they differ. -/
theorem nodup_keys_toChar (h : allFields Sign.isChar fields = true)
    (hnodup : (fields.map (·.1)).Nodup) :
    ((mapFields Sign.toChar fields).map (·.1)).Nodup := by
  have hkeys : ∀ {fields : List (List Sign × Json Sign)}, allFields Sign.isChar fields = true →
      ((mapFields Sign.toChar fields).map (·.1)).map (·.map Sign.char) = fields.map (·.1) := by
    intro fields h
    induction fields with
    | nil => rfl
    | cons p fields ih =>
      simp only [allFields, Bool.and_eq_true] at h
      simp only [mapFields, List.map_cons, char_toChar h.1.1, ih h.2]
  exact .of_map (·.map Sign.char) (hkeys h ▸ hnodup)

theorem not_object_of_readNumber {negative : Bool} {t rest : Text} :
    readNumber negative t ≠ .ok (.object fields, rest) := by
  unfold readNumber
  intro h
  repeat' split at h
  all_goals cases h

theorem not_object_of_readScalar {t rest : Text} :
    readScalar t ≠ .ok (.object fields, rest) := by
  unfold readScalar
  intro h
  simp only at h
  split_ifs at h <;> try cases h
  split at h <;> exact not_object_of_readNumber h

theorem nodup_of_readValue {fuel depth : Nat} {t rest : Text}
    (h : readValue fuel depth t = .ok (.object fields, rest)) : (fields.map (·.1)).Nodup := by
  rcases fuel with _ | fuel
  · cases h
  unfold readValue at h
  split at h
  · cases h
  · obtain ⟨⟨s, rest'⟩, -, h⟩ := bind_eq_ok_iff.1 h
    cases h
  · split_ifs at h
    split at h
    · cases h
    · obtain ⟨⟨items, rest'⟩, -, h⟩ := bind_eq_ok_iff.1 h
      cases h
  · split_ifs at h
    split at h
    · cases h
      exact List.nodup_nil
    · obtain ⟨⟨pairs, rest'⟩, -, h⟩ := bind_eq_ok_iff.1 h
      cases h
      exact nodup_fieldsOf pairs
  · exact absurd h not_object_of_readScalar

theorem nodup_of_read {depth : Nat} {t : Text} (h : read depth t = .ok (.object fields)) :
    (fields.map (·.1)).Nodup := by
  obtain ⟨⟨v, rest⟩, hread, h⟩ := bind_eq_ok_iff.1 h
  have h : (if (skipBlanks rest).isEmpty then .ok v else .error .malformed)
      = (.ok (.object fields) : Except ReadFault (Json Sign)) := h
  split_ifs at h
  cases h
  exact nodup_of_readValue hread

end Json

namespace Entry

/-- Keywords that are as good as absent, texts in a list, or an object's keys. -/
def Listable (v : Json) : Prop :=
  v.truth = false ∨ (∃ ts : List Text, v = .list (ts.map .text)) ∨ ∃ fields, v = .object fields

/-- A value that is not as good as absent and no collection. -/
def Bare (v : Json) : Prop :=
  v.truth = true ∧ ((∃ b, v = .bool b) ∨ (∃ n, v = .whole n) ∨ ∃ x, v = .real x)

/-- An object whose keywords, if any, can be listed. -/
structure Legible (info : Json) : Prop where
  object : ∃ fields, info = .object fields
  keywords : ∀ v, info.get? "keywords".toList = some v → Listable v

/-- Metadata of a snippet: legible, with a label to show. -/
structure WellFormed (info : Json) : Prop extends Legible info where
  label : ∃ v, info.get? "label".toList = some v ∧ v.shown ≠ []

/-- Metadata whose keywords are a bare value. -/
def BareKeywords (info : Json) : Prop :=
  ∃ v, info.get? "keywords".toList = some v ∧ Bare v

theorem Listable.not_bare {v : Json} (h : Listable v) : ¬ Bare v := by
  rintro ⟨htruth, hform⟩
  rcases h with hfalse | ⟨ts, rfl⟩ | ⟨fields, rfl⟩
  · rw [htruth] at hfalse
    cases hfalse
  · simp at hform
  · simp at hform

theorem mapM_text_eq_some_iff {g : Json → Option Text} (hg : ∀ v t, g v = some t ↔ v = .text t) :
    ∀ {items : List Json} {ts : List Text}, items.mapM g = some ts ↔ items = ts.map .text
  | [], ts => by cases ts <;> simp
  | v :: items, ts => by
    have ih : ∀ ts, items.mapM g = some ts ↔ items = ts.map .text :=
      fun _ => mapM_text_eq_some_iff hg
    rw [List.mapM_cons]
    rcases ts with _ | ⟨t, ts⟩
    · rcases g v with _ | t <;> rcases items.mapM g with _ | ts <;> simp
    · rw [List.map_cons, List.cons.injEq, ← hg, ← ih]
      rcases g v with _ | t <;> rcases items.mapM g with _ | ts <;> simp

theorem keywordsOf_cases (id : Text) (v : Json) :
    (Listable v ∧ ∃ ks, keywordsOf id (some v) = .ok ks)
      ∨ ¬ Listable v ∧ ∃ f, keywordsOf id (some v) = .error f
        ∧ (f.kind? = some .catalog ∧ ¬ Bare v ∨ f.kind? = none ∧ Bare v) := by
  unfold keywordsOf
  cases htruth : v.truth with
  | false => exact .inl ⟨.inl htruth, [], by simp [htruth]⟩
  | true =>
    simp only [htruth, Bool.not_true, Bool.false_eq_true, if_false]
    cases v with
    | null => cases htruth
    | bool b =>
      have hbare : Bare (.bool b) := ⟨htruth, .inl ⟨b, rfl⟩⟩
      exact .inr ⟨fun h => h.not_bare hbare, _, rfl, .inr ⟨rfl, hbare⟩⟩
    | whole n =>
      have hbare : Bare (.whole n) := ⟨htruth, .inr (.inl ⟨n, rfl⟩)⟩
      exact .inr ⟨fun h => h.not_bare hbare, _, rfl, .inr ⟨rfl, hbare⟩⟩
    | real x =>
      have hbare : Bare (.real x) := ⟨htruth, .inr (.inr ⟨x, rfl⟩)⟩
      exact .inr ⟨fun h => h.not_bare hbare, _, rfl, .inr ⟨rfl, hbare⟩⟩
    | text t => exact .inr ⟨by simp [Listable, htruth], _, rfl, .inl ⟨rfl, by simp [Bare]⟩⟩
    | object fields => exact .inl ⟨.inr (.inr ⟨fields, rfl⟩), _, rfl⟩
    | list items =>
      simp only
      split
      · next ks h =>
        have hitems := (mapM_text_eq_some_iff (by rintro (_ | _) <;> simp)).1 h
        exact .inl ⟨.inr (.inl ⟨ks, congrArg Json.list hitems⟩), ks, rfl⟩
      · next h =>
        refine .inr ⟨?_, _, rfl, .inl ⟨rfl, by simp [Bare]⟩⟩
        rintro (hfalse | ⟨ts, hts⟩ | ⟨fields, hfields⟩)
        · simp [htruth] at hfalse
        · cases h.symm.trans
            ((mapM_text_eq_some_iff (by rintro (_ | _) <;> simp)).2 (Json.list.inj hts))
        · cases hfields

theorem ofMetadata_cases (id : Text) (info : Json) :
    (Legible info ∧ ∃ e, ofMetadata id info = .ok e ∧ e.id = id ∧ e.label = shownOf info "label")
      ∨ ¬ Legible info ∧ ∃ f, ofMetadata id info = .error f
        ∧ (f.kind? = some .catalog ∧ ¬ BareKeywords info
          ∨ f.kind? = none ∧ BareKeywords info) := by
  cases info with
  | object fields =>
    rcases hkeys : Json.get? "keywords".toList (.object fields) with _ | v
    · refine .inl ⟨⟨⟨fields, rfl⟩, fun v hv => nomatch hkeys.symm.trans hv⟩, ?_⟩
      simp only [ofMetadata, hkeys]
      exact ⟨_, rfl, rfl, rfl⟩
    · rcases keywordsOf_cases id v with ⟨hlist, ks, hks⟩ | ⟨hlist, f, hf, hkind⟩
      · refine .inl ⟨⟨⟨fields, rfl⟩, fun w hw => ?_⟩, ?_⟩
        · rwa [← Option.some.inj (hkeys.symm.trans hw)]
        simp only [ofMetadata, hkeys, hks]
        exact ⟨_, rfl, rfl, rfl⟩
      · refine .inr ⟨fun h => hlist (h.keywords v hkeys), f, ?_, ?_⟩
        · simp only [ofMetadata, hkeys, hf]
          rfl
        · have hbare : BareKeywords (.object fields) ↔ Bare v := by
            refine ⟨fun ⟨w, hw, hbare⟩ => ?_, fun hbare => ⟨v, hkeys, hbare⟩⟩
            rwa [Option.some.inj (hkeys.symm.trans hw)]
          rwa [hbare]
  | _ =>
    refine .inr ⟨fun h => ?_, _, rfl, .inl ⟨rfl, fun ⟨v, hv, _⟩ => nomatch hv⟩⟩
    obtain ⟨_, h⟩ := h.object
    cases h

end Entry

namespace Catalog

theorem kind?_of_entriesFault {f : Fault} : ∀ {seen : List Text} {es : List Entry},
    entriesFault seen es = some f → f.kind? = some .catalog
  | _, e :: es, h => by
    unfold entriesFault at h
    split_ifs at h
    · cases h
      rfl
    · cases h
      rfl
    · exact kind?_of_entriesFault h

theorem entriesFault_eq_none_iff {seen : List Text} {es : List Entry} :
    entriesFault seen es = none ↔
      (∀ e ∈ es, e.id ∉ seen ∧ e.label ≠ []) ∧ (es.map (·.id)).Nodup := by
  refine ⟨entriesFault_eq_none, ?_⟩
  induction es generalizing seen with
  | nil => exact fun _ => rfl
  | cons e es ih =>
    rintro ⟨hes, hnodup⟩
    rw [List.map_cons, List.nodup_cons] at hnodup
    obtain ⟨hid, hlabel⟩ := hes e List.mem_cons_self
    have hlabel : ¬ e.label.isEmpty = true := by simpa using hlabel
    rw [entriesFault, if_neg hid, if_neg hlabel]
    refine ih ⟨fun x hx => ⟨?_, (hes x (List.mem_cons_of_mem _ hx)).2⟩, hnodup.2⟩
    rw [List.mem_cons, not_or]
    refine ⟨fun heq => hnodup.1 ?_, (hes x (List.mem_cons_of_mem _ hx)).1⟩
    exact heq ▸ List.mem_map_of_mem hx

theorem ofEntries_cases (es : List Entry) :
    (∃ f, entriesFault [] es = some f ∧ ofEntries es = .error f)
      ∨ entriesFault [] es = none ∧ ∃ c, ofEntries es = .ok c ∧ c.entries = es := by
  unfold ofEntries
  split
  · next f h => exact .inl ⟨f, h, rfl⟩
  · next h => exact .inr ⟨h, _, rfl, rfl⟩

theorem entries_eq_of_ofEntries {es : List Entry} {c : Catalog}
    (h : ofEntries es = .ok c) : c.entries = es := by
  obtain ⟨f, -, hf⟩ | ⟨-, c', hc', hes⟩ := ofEntries_cases es
  · cases h.symm.trans hf
  · cases h.symm.trans hc'
    exact hes

theorem ofEntries_isOk_iff {es : List Entry} :
    (∃ c, ofEntries es = .ok c) ↔ (es.map (·.id)).Nodup ∧ ∀ e ∈ es, e.label ≠ [] := by
  have hnone : entriesFault [] es = none ↔ (es.map (·.id)).Nodup ∧ ∀ e ∈ es, e.label ≠ [] := by
    rw [entriesFault_eq_none_iff, and_comm]
    simp
  rw [← hnone]
  obtain ⟨f, hfault, hf⟩ | ⟨hfault, c, hc, -⟩ := ofEntries_cases es <;> rw [hfault]
  · simp [hf]
  · simp [hc]

theorem kind?_of_ofEntries {es : List Entry} {f : Fault} (h : ofEntries es = .error f) :
    f.kind? = some .catalog := by
  obtain ⟨g, hg, hrefused⟩ | ⟨-, c, hc, -⟩ := ofEntries_cases es
  · cases h.symm.trans hrefused
    exact kind?_of_entriesFault hg
  · cases h.symm.trans hc

variable {fields : List (Text × Json)}

/-- Legible metadata up to the first pair that is not, whose keywords are a bare value. -/
def BareFirst (fields : List (Text × Json)) : Prop :=
  ∃ before p after, fields = before ++ p :: after ∧ (∀ q ∈ before, Entry.Legible q.2)
    ∧ Entry.BareKeywords p.2

theorem legible_iff {p : Text × Json} :
    Entry.Legible p.2 ↔ ∃ e, Entry.ofMetadata p.1 p.2 = .ok e := by
  rcases Entry.ofMetadata_cases p.1 p.2 with ⟨h, e, he, -⟩ | ⟨h, f, hf, -⟩
  · exact ⟨fun _ => ⟨e, he⟩, fun _ => h⟩
  · refine ⟨fun h' => absurd h' h, fun ⟨e, he⟩ => ?_⟩
    cases hf.symm.trans he

theorem bareFirst_iff : BareFirst fields ↔
    ∃ f, fields.mapM (fun p => Entry.ofMetadata p.1 p.2) = .error f ∧ f.kind? = none := by
  constructor
  · rintro ⟨before, p, after, rfl, hbefore, hbare⟩
    rcases Entry.ofMetadata_cases p.1 p.2 with ⟨h, -⟩ | ⟨-, f, hf, ⟨-, hnot⟩ | ⟨hkind, -⟩⟩
    · obtain ⟨v, hv, hbare⟩ := hbare
      exact absurd hbare (h.keywords v hv).not_bare
    · exact absurd hbare hnot
    · exact ⟨f, mapM_eq_error_iff.2
        ⟨before, p, after, rfl, fun q hq => legible_iff.1 (hbefore q hq), hf⟩, hkind⟩
  · rintro ⟨f, hf, hkind⟩
    obtain ⟨before, p, after, rfl, hbefore, hp⟩ := mapM_eq_error_iff.1 hf
    refine ⟨before, p, after, rfl, fun q hq => legible_iff.2 (hbefore q hq), ?_⟩
    rcases Entry.ofMetadata_cases p.1 p.2 with
      ⟨-, e, he, -⟩ | ⟨-, g, hg, ⟨hcatalog, -⟩ | ⟨-, hbare⟩⟩
    · cases hp.symm.trans he
    · cases hp.symm.trans hg
      rw [hkind] at hcatalog
      cases hcatalog
    · exact hbare

/-- The label that an entry is given is one to show exactly when there is one in its metadata. -/
theorem shownOf_label_ne_nil_iff {info : Json} : Entry.shownOf info "label" ≠ [] ↔
    ∃ v, info.get? "label".toList = some v ∧ v.shown ≠ [] := by
  unfold Entry.shownOf
  rcases info.get? "label".toList with _ | v <;> simp

theorem map_of_mapM {es : List Entry}
    (h : fields.mapM (fun p => Entry.ofMetadata p.1 p.2) = .ok es) :
    es.map (·.id) = fields.map (·.1)
      ∧ es.map (·.label) = fields.map fun p => Entry.shownOf p.2 "label" := by
  rw [mapM_eq_ok_iff] at h
  induction h with
  | nil => exact ⟨rfl, rfl⟩
  | @cons p e fields es he hes ih =>
    rcases Entry.ofMetadata_cases p.1 p.2 with ⟨-, e', he', hid, hlabel⟩ | ⟨-, f, hf, -⟩
    · obtain rfl : e = e' := Except.ok.inj (he.symm.trans he')
      simp only [List.map_cons, hid, hlabel, ih, and_self]
    · cases he.symm.trans hf

/-- All metadata is well formed exactly when it gives entries that all have a label. -/
theorem wellFormed_iff : (∀ p ∈ fields, Entry.WellFormed p.2) ↔
    ∃ es, fields.mapM (fun p => Entry.ofMetadata p.1 p.2) = .ok es ∧ ∀ e ∈ es, e.label ≠ [] := by
  have hwell : ∀ info, Entry.WellFormed info ↔
      Entry.Legible info ∧ Entry.shownOf info "label" ≠ [] := fun info => by
    rw [shownOf_label_ne_nil_iff]
    exact ⟨fun h => ⟨h.toLegible, h.label⟩, fun h => ⟨h.1, h.2⟩⟩
  have hshown : ∀ {es}, fields.mapM (fun p => Entry.ofMetadata p.1 p.2) = .ok es →
      ((∀ e ∈ es, e.label ≠ []) ↔ ∀ p ∈ fields, Entry.shownOf p.2 "label" ≠ []) := fun h => by
    rw [← List.forall_mem_map (f := fun e : Entry => e.label) (P := (· ≠ [])),
      (map_of_mapM h).2, List.forall_mem_map]
  simp only [hwell, forall_and, legible_iff, ← mapM_isOk_iff]
  constructor
  · rintro ⟨⟨es, hes⟩, hlabels⟩
    exact ⟨es, hes, (hshown hes).2 hlabels⟩
  · rintro ⟨es, hes, hlabels⟩
    exact ⟨⟨es, hes⟩, (hshown hes).1 hlabels⟩

/-- A mapping with a pair for each key is a catalog exactly when all its metadata is well formed. -/
theorem ofMapping_isOk_iff (hnodup : (fields.map (·.1)).Nodup) :
    (∃ c, ofMapping fields = .ok c) ↔ ∀ p ∈ fields, Entry.WellFormed p.2 := by
  rw [wellFormed_iff]
  refine isOk_bind_iff.trans (exists_congr fun es => and_congr_right fun hes => ?_)
  have hids : (es.map (·.id)).Nodup := (map_of_mapM hes).1 ▸ hnodup
  exact ofEntries_isOk_iff.trans (and_iff_right hids)

/-- Metadata is refused as the catalog's unless the keywords that it is refused for are a bare
value. -/
theorem refusedOnlyAs_mapM_iff :
    RefusedOnlyAs .catalog (fields.mapM fun p => Entry.ofMetadata p.1 p.2)
      ↔ ¬ BareFirst fields := by
  rw [bareFirst_iff]
  rcases hmap : fields.mapM (fun p => Entry.ofMetadata p.1 p.2) with f | es
  · obtain ⟨before, p, after, -, -, hp⟩ := mapM_eq_error_iff.1 hmap
    rcases Entry.ofMetadata_cases p.1 p.2 with ⟨-, e, he, -⟩ | ⟨-, g, hg, hkind⟩
    · cases hp.symm.trans he
    · obtain rfl : f = g := Except.error.inj (hp.symm.trans hg)
      rcases hkind with ⟨hkind, -⟩ | ⟨hkind, -⟩ <;> simp [hmap, hkind]
  · simp [hmap]

section OfFields

variable {signs : List (List Json.Sign × Json Json.Sign)}

theorem checkLabels_isOk_iff {es : List Entry} :
    (∃ u, checkLabels es = .ok u) ↔ ∀ e ∈ es, e.label ≠ [] := by
  unfold checkLabels
  split
  · next e hfind =>
    have hempty : e.label = [] := by simpa using List.find?_some hfind
    refine iff_of_false (fun ⟨u, hu⟩ => nomatch hu) fun h => ?_
    exact h e (List.mem_of_find?_eq_some hfind) hempty
  · next hfind =>
    exact iff_of_true ⟨(), rfl⟩ fun e he => by simpa using List.find?_eq_none.1 hfind e he

theorem refusedOnlyAs_checkLabels (es : List Entry) :
    RefusedOnlyAs .catalog (checkLabels es) := by
  unfold checkLabels
  split <;> simp [Fault.kind?]

/-- An object is accepted exactly when all its metadata is well formed. -/
theorem ofFields_isOk_iff (hnodup : (signs.map (·.1)).Nodup) :
    (∃ c, ofFields signs = .ok c) ↔ ∀ p ∈ signs, Entry.WellFormed (p.2.map Json.Sign.toChar) := by
  have hpairs : (∀ p ∈ signs, Entry.WellFormed (p.2.map Json.Sign.toChar))
      ↔ ∀ p ∈ Json.mapFields Json.Sign.toChar signs, Entry.WellFormed p.2 := by
    rw [Json.mapFields_eq, List.forall_mem_map]
  rw [hpairs]
  unfold ofFields
  simp only
  split_ifs with hchars
  · exact isOk_map_iff.trans (ofMapping_isOk_iff (Json.nodup_keys_toChar hchars hnodup))
  · rw [wellFormed_iff]
    refine isOk_bind_iff.trans (exists_congr fun es => and_congr_right fun _ => ?_)
    exact (isOk_map_iff (h := fun _ => none)).trans checkLabels_isOk_iff

theorem refusedOnlyAs_ofFields_iff : RefusedOnlyAs .catalog (ofFields signs)
    ↔ ¬ BareFirst (Json.mapFields Json.Sign.toChar signs) := by
  unfold ofFields
  simp only
  split_ifs
  · refine refusedOnlyAs_map_iff.trans (Iff.trans ?_ refusedOnlyAs_mapM_iff)
    exact refusedOnlyAs_bind_iff fun es f => kind?_of_ofEntries
  · refine Iff.trans ?_ refusedOnlyAs_mapM_iff
    refine refusedOnlyAs_bind_iff fun es => ?_
    exact refusedOnlyAs_map_iff.2 (refusedOnlyAs_checkLabels es)

end OfFields

/-- The octets are text, and the text is an object without bare keywords first, another value, or
no value in form. -/
def Answerable (depth : Nat) (content : Octets) : Prop :=
  ∃ t, content.text? = some t ∧ match Json.read depth t.unifyNewlines with
    | .ok (.object fields) => ¬ BareFirst (Json.mapFields Json.Sign.toChar fields)
    | .ok _ | .error .malformed => True
    | .error _ => False

theorem refusedOnlyAs_ofOctets_iff {depth : Nat} {path : Text} {content : Octets} :
    RefusedOnlyAs .catalog (ofOctets depth path content) ↔ Answerable depth content := by
  unfold ofOctets Answerable Octets.document
  rcases content.text? with _ | t
  · simp [bind, Except.bind, Fault.kind?]
  · simp only [bind, Except.bind, Option.some.injEq, exists_eq_left']
    rcases hread : Json.read depth t.unifyNewlines with f | v
    · cases f <;> simp [Fault.kind?]
    · cases v with
      | object fields => exact refusedOnlyAs_ofFields_iff
      | _ => simp [Fault.kind?]

theorem refusedOnlyAs_document_iff {content : Octets} :
    RefusedOnlyAs .template content.document ↔ ∃ t, content.text? = some t := by
  unfold Octets.document
  rcases content.text? with _ | t <;> simp [Fault.kind?]

/-- A catalog's file is accepted or refused as a catalog exactly when its path holds no null
character and it cannot be opened or its octets are answerable, and a carrier's file is accepted or
refused as a carrier exactly when its path holds none and it cannot be opened or its octets are
text, however deep values may nest. An object is accepted exactly when every snippet's metadata is
well formed. -/
theorem refusedOnlyAs_load_iff (depth : Nat) (tree : FileTree) (cwd : List Text) (path : FilePath) :
    (RefusedOnlyAs .catalog (load depth tree cwd path) ↔ path.holdsNull = false
      ∧ ∀ content, tree.readFile cwd path = .ok content → Answerable depth content)
    ∧ (RefusedOnlyAs .template (Carrier.load tree cwd path) ↔ path.holdsNull = false
      ∧ ∀ content, tree.readFile cwd path = .ok content → ∃ t, content.text? = some t)
    ∧ ∀ content t fields, path.holdsNull = false → tree.readFile cwd path = .ok content →
      content.text? = some t → Json.read depth t.unifyNewlines = .ok (.object fields) →
      ((∃ c, load depth tree cwd path = .ok c)
        ↔ ∀ p ∈ fields, Entry.WellFormed (p.2.map Json.Sign.toChar)) := by
  unfold load Carrier.load
  cases path.holdsNull with
  | true => simp [Fault.kind?]
  | false =>
    simp only [Bool.false_eq_true, if_false, true_and]
    rcases tree.readFile cwd path with f | content
    · simp [Fault.kind?]
    · simp only [Except.ok.injEq, forall_eq']
      refine ⟨refusedOnlyAs_ofOctets_iff, refusedOnlyAs_document_iff, ?_⟩
      rintro _ t fields - rfl ht hread
      rw [← ofFields_isOk_iff (Json.nodup_of_read hread), ofOctets, Octets.document, ht]
      simp only [bind, Except.bind, hread]

/-- Keywords that are a number are refused as nothing that the user is told of. -/
theorem not_refusedOnlyAs_of_number_as_keywords :
    let content : Text := "\x7b\"x\": \x7b\"label\": \"L\", \"keywords\": 5\x7d\x7d".toList
    let tree : FileTree := ⟨[([['c']], .file content.utf8)], []⟩
    ¬ RefusedOnlyAs .catalog (load 1000 tree [] (FilePath.ofText ['c'])) := by
  decide +kernel

end Catalog

end ExerciseSheet

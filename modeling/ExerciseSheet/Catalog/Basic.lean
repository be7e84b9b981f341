import ExerciseSheet.Fault

/-!
# The command catalog

A catalog lists the snippets that the palette offers, in the order in which it offers them. No two
snippets have the same text, which is their id, and every snippet has a label. A list of entries is
refused at the first entry, read from the left, that repeats an id or has no label.
-/

namespace ExerciseSheet

/-- The symbol of a snippet that names none. -/
def defaultSymbol : Text := ['📝']

/-- A snippet and how the palette shows and finds it. -/
structure Entry where
  /-- The snippet's text. -/
  id : Text
  label : Text
  description : Text
  symbol : Text
  /-- Further words to find the snippet by. -/
  keywords : List Text
  /-- Whether the snippet is a scaffold of several lines. -/
  isTemplate : Bool
  /-- Whether the snippet makes sense in math only. -/
  requiresMath : Bool
  deriving DecidableEq, Repr

/-- The first fault of the entries after ones with the ids `seen`. -/
def entriesFault (seen : List Text) : List Entry → Option Fault
  | [] => none
  | e :: es =>
    if e.id ∈ seen then some (.repeatedSnippet e.id)
    else if e.label.isEmpty then some (.unlabelled e.id)
    else entriesFault (e.id :: seen) es

theorem entriesFault_eq_none {seen : List Text} {es : List Entry}
    (h : entriesFault seen es = none) :
    (∀ e ∈ es, e.id ∉ seen ∧ e.label ≠ []) ∧ (es.map (·.id)).Nodup := by
  induction es generalizing seen with
  | nil => simp
  | cons e es ih =>
    unfold entriesFault at h
    split at h
    · cases h
    · split at h
      · cases h
      · rename_i hid hlabel
        obtain ⟨h₁, h₂⟩ := ih h
        refine ⟨?_, ?_⟩
        · intro x hx
          rcases List.mem_cons.1 hx with rfl | hx
          · exact ⟨hid, by simpa using hlabel⟩
          · exact ⟨fun hs => (h₁ x hx).1 (List.mem_cons_of_mem _ hs), (h₁ x hx).2⟩
        · rw [List.map_cons, List.nodup_cons]
          refine ⟨fun hm => ?_, h₂⟩
          obtain ⟨x, hx, hxe⟩ := List.mem_map.1 hm
          exact (h₁ x hx).1 (by simp [hxe])

/-- The snippets on offer, in order. -/
structure Catalog where
  entries : List Entry
  nodup_ids : (entries.map (·.id)).Nodup
  label_ne_nil : ∀ e ∈ entries, e.label ≠ []

namespace Catalog

/-- The catalog of a list of entries. -/
def ofEntries (es : List Entry) : Except Fault Catalog :=
  match h : entriesFault [] es with
  | some f => .error f
  | none =>
    .ok ⟨es, (entriesFault_eq_none h).2, fun e he => ((entriesFault_eq_none h).1 e he).2⟩

/-- How many snippets there are. -/
def size (c : Catalog) : Nat := c.entries.length

/-- The entry of a snippet. -/
def get? (c : Catalog) (id : Text) : Option Entry := c.entries.find? (·.id == id)

/-- Whether a snippet is on offer. -/
def has (c : Catalog) (id : Text) : Bool := c.entries.any (·.id == id)

end Catalog

end ExerciseSheet

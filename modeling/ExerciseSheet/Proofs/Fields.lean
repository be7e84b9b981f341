import ExerciseSheet.Json.Value
import Mathlib.Data.List.Induction
import Mathlib.Data.List.Nodup

/-!
# The fields that pairs leave

A value put under a key takes the place of the key's old one and leaves every other field
(`mem_putField_iff`), so a key comes once however often it was put (`nodup_fieldsOf`).
-/

namespace ExerciseSheet.Json

variable {κ α : Type} [DecidableEq κ] {key : κ} {value : α} {fields : List (κ × α)}

theorem keys_putField (key : κ) (value : α) : ∀ fields : List (κ × α),
    (putField key value fields).map (·.1)
      = if key ∈ fields.map (·.1) then fields.map (·.1) else fields.map (·.1) ++ [key]
  | [] => rfl
  | field :: fields => by
    unfold putField
    by_cases h : field.1 = key
    · simp [h]
    · have hne : ¬ key = field.1 := fun heq => h heq.symm
      simp only [if_neg h, List.map_cons, keys_putField key value fields, List.mem_cons, hne,
        false_or]
      split_ifs <;> rfl

theorem putField_of_not_mem : ∀ {fields : List (κ × α)}, key ∉ fields.map (·.1) →
    putField key value fields = fields ++ [(key, value)]
  | [], _ => rfl
  | field :: fields, h => by
    rw [List.map_cons, List.mem_cons, not_or] at h
    have hne : ¬ field.1 = key := fun heq => h.1 heq.symm
    rw [putField, if_neg hne, putField_of_not_mem h.2, List.cons_append]

theorem nodup_putField (h : (fields.map (·.1)).Nodup) :
    ((putField key value fields).map (·.1)).Nodup := by
  rw [keys_putField]
  split_ifs with hkey
  · exact h
  · exact List.Nodup.append h (List.nodup_singleton key) (by simpa using hkey)

theorem mem_putField_iff {other : κ} {w : α} :
    ∀ {fields : List (κ × α)}, (fields.map (·.1)).Nodup →
      ((other, w) ∈ putField key value fields
        ↔ (other = key ∧ w = value) ∨ (other ≠ key ∧ (other, w) ∈ fields))
  | [], _ => by simp [putField]
  | (k, v) :: fields, h => by
    rw [List.map_cons, List.nodup_cons] at h
    rw [putField, List.mem_cons, Prod.mk.injEq]
    by_cases hkey : k = key
    · -- the key's old field goes, and no other field has the key
      subst hkey
      have hno : (k, w) ∉ fields := fun hmem => h.1 (List.mem_map_of_mem (f := (·.1)) hmem)
      rw [if_pos rfl, List.mem_cons, Prod.mk.injEq]
      by_cases hother : other = k
      · simp [hother, hno]
      · simp [hother]
    · rw [if_neg hkey, List.mem_cons, Prod.mk.injEq, mem_putField_iff h.2]
      by_cases hother : other = key
      · have hne : key ≠ k := fun heq => hkey heq.symm
        simp [hother, hne]
      · simp [hother]

theorem fieldsOf_append_singleton (pairs : List (κ × α)) (pair : κ × α) :
    fieldsOf (pairs ++ [pair]) = putField pair.1 pair.2 (fieldsOf pairs) := by
  rw [fieldsOf, List.foldl_append]
  rfl

/-- However often a key comes, it is one field. -/
theorem nodup_fieldsOf (pairs : List (κ × α)) : ((fieldsOf pairs).map (·.1)).Nodup := by
  induction pairs using List.reverseRecOn with
  | nil => exact List.nodup_nil
  | append_singleton pairs pair ih =>
    rw [fieldsOf_append_singleton]
    exact nodup_putField ih

end ExerciseSheet.Json

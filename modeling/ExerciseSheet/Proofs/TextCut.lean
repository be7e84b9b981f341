import ExerciseSheet.Text.Basic
import Mathlib.Data.List.Basic

/-!
# Cutting texts

A slice is what lies between two prefixes (`take_append_slice`), and a splice at offsets that count
from the start keeps what lies before and after them (`splice_natCast`).
-/

namespace ExerciseSheet

theorem place_natCast (t : Text) (n : Nat) : t.place n = min n t.length := by
  unfold Text.place
  rw [if_neg (by omega), Int.toNat_natCast]

theorem upTo_natCast (t : Text) (n : Nat) : t.upTo n = t.take n := by
  rw [Text.upTo, place_natCast, ← List.take_eq_take_min]

theorem since_natCast (t : Text) (n : Nat) : t.since n = t.drop n := by
  rw [Text.since, place_natCast]
  rcases Nat.le_total n t.length with h | h
  · rw [Nat.min_eq_left h]
  · rw [Nat.min_eq_right h, List.drop_length, List.drop_of_length_le h]

theorem splice_natCast (t : Text) (a b : Nat) (new : Text) :
    t.splice a b new = t.take a ++ new ++ t.drop b := by
  rw [Text.splice, upTo_natCast, since_natCast]

theorem take_splice {t new : Text} {a b : Nat} (ha : a ≤ t.length) :
    (t.splice a b new).take a = t.take a := by
  rw [splice_natCast, List.append_assoc, List.take_left' (List.length_take_of_le ha)]

theorem length_splice {t new : Text} {a b : Nat} (ha : a ≤ t.length) :
    (t.splice a b new).length = a + new.length + (t.length - b) := by
  rw [splice_natCast, List.length_append, List.length_append, List.length_take_of_le ha,
    List.length_drop]

theorem min_length_le_length_splice (t new : Text) (a : Nat) (b : Int) :
    min a t.length ≤ (t.splice a b new).length := by
  rw [Text.splice, upTo_natCast, List.length_append, List.length_append, List.length_take]
  omega

section Slice

variable {t : Text} {a b : Nat}

theorem take_append_slice (h : a ≤ b) : t.take a ++ t.slice a b = t.take b := by
  have := List.take_append_drop a (t.take b)
  rwa [List.take_take, Nat.min_eq_left h] at this

theorem slice_eq_take_drop : t.slice a b = (t.drop a).take (b - a) := List.drop_take

theorem slice_min_length (t : Text) (a b : Nat) : t.slice a (min b t.length) = t.slice a b := by
  unfold Text.slice
  rw [← List.take_eq_take_min]

theorem slice_eq_nil (h : min b t.length ≤ a) : t.slice a b = [] := by
  unfold Text.slice
  rw [List.drop_eq_nil_iff, List.length_take]
  exact h

theorem length_slice (hb : b ≤ t.length) : (t.slice a b).length = b - a := by
  unfold Text.slice
  rw [List.length_drop, List.length_take, Nat.min_eq_left hb]

theorem take_append_take_slice {k : Nat} (hk : k ≤ (t.slice a b).length) :
    t.take a ++ (t.slice a b).take k = t.take (a + k) := by
  rw [slice_eq_take_drop, List.length_take] at hk
  rw [List.take_add, slice_eq_take_drop, List.take_take, Nat.min_eq_left (by omega)]

theorem take_eq_of_le {t' : Text} (h : t'.take b = t.take b) (hab : a ≤ b) :
    t'.take a = t.take a := by
  have := congrArg (List.take a) h
  rwa [List.take_take, List.take_take, Nat.min_eq_left hab] at this

theorem getLast?_take (h : a ≤ t.length) :
    (t.take a).getLast? = if a = 0 then none else t[a - 1]? := by
  rw [List.getLast?_take]
  split_ifs with ha
  · rfl
  · rw [List.getElem?_eq_getElem (by omega), Option.some_or]

end Slice

end ExerciseSheet

import Mathlib.Data.List.Forall2

/-!
# Steps that may fail

A step after another succeeds when both do and fails when either does (`bind_eq_ok_iff`,
`bind_eq_error_iff`). A step taken for each item of a list succeeds item by item (`mapM_eq_ok_iff`)
and fails with the first item that fails (`mapM_eq_error_iff`).
-/

namespace ExerciseSheet

variable {α β ε : Type} {e : ε}

section Bind

variable {x : Except ε α} {g : α → Except ε β} {h : α → β}

theorem bind_eq_ok_iff {b : β} : (x >>= g) = .ok b ↔ ∃ a, x = .ok a ∧ g a = .ok b := by
  rcases x with e | a <;> simp [bind, Except.bind]

theorem bind_eq_error_iff :
    (x >>= g) = .error e ↔ x = .error e ∨ ∃ a, x = .ok a ∧ g a = .error e := by
  rcases x with e | a <;> simp [bind, Except.bind]

theorem isOk_bind_iff : (∃ b, (x >>= g) = .ok b) ↔ ∃ a, x = .ok a ∧ ∃ b, g a = .ok b := by
  simp only [bind_eq_ok_iff]
  exact ⟨fun ⟨b, a, ha, hb⟩ => ⟨a, ha, b, hb⟩, fun ⟨a, ha, b, hb⟩ => ⟨b, a, ha, hb⟩⟩

theorem isOk_map_iff : (∃ b, (h <$> x) = .ok b) ↔ ∃ a, x = .ok a := by
  rcases x with e | a <;> simp [Functor.map, Except.map]

end Bind

section Traversal

variable {g : α → Except ε β}

theorem mapM_eq_ok_iff : ∀ {xs : List α} {ys : List β},
    xs.mapM g = .ok ys ↔ List.Forall₂ (fun x y => g x = .ok y) xs ys
  | [], ys => by
    rw [List.mapM_nil, List.forall₂_nil_left_iff]
    constructor
    · rintro ⟨⟩
      rfl
    · rintro rfl
      rfl
  | x :: xs, ys => by
    have ih : ∀ zs, xs.mapM g = .ok zs ↔ List.Forall₂ (fun x y => g x = .ok y) xs zs :=
      fun _ => mapM_eq_ok_iff
    simp only [List.mapM_cons, bind_eq_ok_iff, ih, List.forall₂_cons_left_iff, pure, Except.pure,
      Except.ok.injEq]
    constructor
    · rintro ⟨y, hy, zs, hzs, rfl⟩
      exact ⟨y, zs, hy, hzs, rfl⟩
    · rintro ⟨y, zs, hy, hzs, rfl⟩
      exact ⟨y, hy, zs, hzs, rfl⟩

/-- A traversal fails with its first failure. -/
theorem mapM_eq_error_iff : ∀ {xs : List α}, xs.mapM g = .error e ↔
    ∃ before x after, xs = before ++ x :: after ∧ (∀ y ∈ before, ∃ b, g y = .ok b)
      ∧ g x = .error e
  | [] => by simp [pure, Except.pure]
  | x :: xs => by
    have hstep : (x :: xs).mapM g = .error e
        ↔ g x = .error e ∨ ∃ y, g x = .ok y ∧ xs.mapM g = .error e := by
      simp only [List.mapM_cons, bind_eq_error_iff, pure, Except.pure, reduceCtorEq, and_false,
        exists_false, or_false]
    rw [hstep, mapM_eq_error_iff]
    constructor
    · rintro (hx | ⟨y, hy, before, z, after, rfl, hbefore, hz⟩)
      · exact ⟨[], x, xs, rfl, by simp, hx⟩
      · exact ⟨x :: before, z, after, rfl, List.forall_mem_cons.2 ⟨⟨y, hy⟩, hbefore⟩, hz⟩
    · rintro ⟨_ | ⟨w, before⟩, z, after, hsplit, hbefore, hz⟩ <;>
        obtain ⟨rfl, rfl⟩ := List.cons.inj hsplit
      · exact .inl hz
      · obtain ⟨⟨y, hy⟩, hbefore⟩ := List.forall_mem_cons.1 hbefore
        exact .inr ⟨y, hy, before, z, after, rfl, hbefore, hz⟩

theorem mapM_isOk_iff : ∀ {xs : List α},
    (∃ ys, xs.mapM g = .ok ys) ↔ ∀ x ∈ xs, ∃ y, g x = .ok y
  | [] => iff_of_true ⟨[], rfl⟩ (by simp)
  | x :: xs => by
    have ih : (∃ ys, xs.mapM g = .ok ys) ↔ ∀ x ∈ xs, ∃ y, g x = .ok y := mapM_isOk_iff
    rw [List.mapM_cons, isOk_bind_iff, List.forall_mem_cons, ← ih]
    simp only [isOk_bind_iff, pure, Except.pure, Except.ok.injEq, exists_eq', and_true,
      exists_and_right]

end Traversal

end ExerciseSheet

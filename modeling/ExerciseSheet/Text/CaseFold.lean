import ExerciseSheet.Text.SmallLetters

/-!
# Characters alike but for case

Two characters are alike when their folds agree. The fold of a character is its small letter, except
that small letters with a common capital, such as the two small sigmas, share one fold.
-/

namespace ExerciseSheet

/-- Small letters that share the fold of another small letter. -/
def foldAliases : List (Nat × Nat) := [
  (0x131, 0x69), (0x17f, 0x73), (0x3b9, 0x345), (0x3bc, 0xb5), (0x3c3, 0x3c2), (0x3d0, 0x3b2),
  (0x3d1, 0x3b8), (0x3d5, 0x3c6), (0x3d6, 0x3c0), (0x3f0, 0x3ba), (0x3f1, 0x3c1), (0x3f5, 0x3b5),
  (0x1c80, 0x432), (0x1c81, 0x434), (0x1c82, 0x43e), (0x1c83, 0x441), (0x1c84, 0x442),
  (0x1c85, 0x442), (0x1c86, 0x44a), (0x1c87, 0x463), (0x1e9b, 0x1e61), (0x1fbe, 0x345),
  (0x1fd3, 0x390), (0x1fe3, 0x3b0), (0xa64b, 0x1c88), (0xfb06, 0xfb05)]

/-- The character that stands for all those like `c` but for case. -/
def foldCase (c : Char) : Char :=
  let small := smallLetter c
  match foldAliases.lookup small.toNat with
  | some n => Char.ofNat n
  | none => small

/-- Whether two characters differ at most in case. -/
def alikeButCase (c d : Char) : Bool := foldCase c == foldCase d

/-- Every character that differs from `c` at most in case. -/
def caseVariants (c : Char) : List Char :=
  let fold := foldCase c
  let smalls := fold :: (foldAliases.filter (·.2 == fold.toNat)).map fun a => Char.ofNat a.1
  smalls ++ smalls.flatMap capitalsOf

end ExerciseSheet

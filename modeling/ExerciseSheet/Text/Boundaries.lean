/-!
# Sets of characters by their boundaries

A large set of characters is written as the increasing list of code points at which membership
changes: the first is the first member, the second the next character that is no member, and so on.
-/

namespace ExerciseSheet

/-- Whether `n` lies in the set with these boundaries: an odd number of them are at most `n`. -/
def inBoundaries (n : Nat) : List Nat → Bool
  | a :: b :: rest => if n < a then false else n < b || inBoundaries n rest
  | [a] => a ≤ n
  | [] => false

end ExerciseSheet

import ExerciseSheet.Number.Reading

/-!
# Numbers with a fixed count of places

A number is written with a given count of places after the point, positionally or with an exponent,
or with a given count of significant digits in the shorter of the two ways. A half goes to the even
neighbour.
-/

namespace ExerciseSheet

/-- The floating-point number nearest to a whole number. -/
def floatOfWhole (n : Int) : Float :=
  let magnitude := nearestFloat ((naturalText n.natAbs).map fun c => c.toNat - '0'.toNat) 0
  if n < 0 then -magnitude else magnitude

/-- The whole number in a finite number, its fraction dropped. -/
def Binary.whole (b : Binary) : Int :=
  let r := Ratio.scaled b.mantissa 2 b.exponent
  if b.negative then -(r.numerator / r.denominator : Nat) else (r.numerator / r.denominator : Nat)

/-- Digits after a point. An empty part has a point only when `keepPoint` says so. -/
def fractionText (keepPoint : Bool) (part : Text) : Text :=
  if part.isEmpty && !keepPoint then [] else '.' :: part

/-- A magnitude with `places` digits after the point. -/
def Binary.positional (b : Binary) (keepPoint : Bool) (places : Nat) : Text :=
  let (below, rest, unit) := (Ratio.scaled b.mantissa 2 b.exponent).inUnits (-places)
  let count := if nearerAbove below rest unit then below + 1 else below
  let ds := Text.padLeft '0' (places + 1) (naturalText count)
  ds.take (ds.length - places) ++ fractionText keepPoint (ds.drop (ds.length - places))

/-- A magnitude with one digit before the point, `places` after it, and an exponent. -/
def Binary.scientific (b : Binary) (keepPoint : Bool) (places : Nat) : Text :=
  let d := if b.mantissa = 0 then ⟨['0'], 1⟩ else b.rounded (places + 1)
  let ds := Text.padRight '0' (places + 1) d.digits
  let e := d.point - 1
  ds.take 1 ++ fractionText keepPoint (ds.drop 1)
    ++ ['e', if e < 0 then '-' else '+'] ++ Text.padLeft '0' 2 (naturalText e.natAbs)

/-- A magnitude in `digits` significant digits; idle zeros stay only when `keepPoint` says so. -/
def Binary.general (b : Binary) (keepPoint : Bool) (digits : Nat) : Text :=
  let n := max 1 digits
  let d := if b.mantissa = 0 then ⟨['0'], 1⟩ else b.rounded n
  if keepPoint then
    if -3 ≤ d.point && d.point ≤ n then b.positional true (n - d.point).toNat
    else b.scientific true (n - 1)
  else (DecimalStyle.mk (-4) n []).render d

end ExerciseSheet

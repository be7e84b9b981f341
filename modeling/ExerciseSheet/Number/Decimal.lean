import ExerciseSheet.Number.Whole

/-!
# Floating-point numbers in decimal

A number is written with the fewest digits that read back as the same number, the nearest of those;
or with a fixed count of significant digits, correctly rounded. A style says which exponents are
written positionally. All of it is exact arithmetic on the number's binary fraction.
-/

namespace ExerciseSheet

/-- A finite number's sign and its magnitude `mantissa * 2 ^ exponent`. -/
structure Binary where
  negative : Bool
  mantissa : Nat
  exponent : Int
  deriving DecidableEq, Repr

/-- The binary fraction of a finite number. -/
def Binary.ofFloat (x : Float) : Binary :=
  let bits := x.toBits.toNat
  let fraction := bits % Nat.pow 2 52
  let biased : Nat := bits / Nat.pow 2 52 % Nat.pow 2 11
  { negative := bits / Nat.pow 2 63 == 1
    mantissa := if biased = 0 then fraction else fraction + Nat.pow 2 52
    exponent := if biased = 0 then -1074 else (biased : Int) - 1075 }

/-- The positive number `numerator / denominator`. -/
structure Ratio where
  numerator : Nat
  denominator : Nat

/-- `n * b ^ e`. -/
def Ratio.scaled (n b : Nat) (e : Int) : Ratio :=
  if 0 ≤ e then ⟨n * Nat.pow b e.toNat, 1⟩ else ⟨n, Nat.pow b (-e).toNat⟩

/-- Whether the first ratio is at most the second. -/
def Ratio.le (a b : Ratio) : Bool := a.numerator * b.denominator ≤ b.numerator * a.denominator

/-- The number of ratio `r` in units of `10 ^ e`, rounded down, and the remainder with the divisor
it belongs to. -/
def Ratio.inUnits (r : Ratio) (e : Int) : Nat × Nat × Nat :=
  let num := if 0 ≤ e then r.numerator else r.numerator * Nat.pow 10 (-e).toNat
  let den := if 0 ≤ e then r.denominator * Nat.pow 10 e.toNat else r.denominator
  (num / den, num % den, den)

/-- How many zeros, at most `fuel`, stand after the point of a ratio below one. -/
def Ratio.zerosAfterPoint : (fuel : Nat) → Ratio → Nat
  | 0, _ => 0
  | fuel + 1, r =>
    if r.numerator * 10 < r.denominator then
      zerosAfterPoint fuel ⟨r.numerator * 10, r.denominator⟩ + 1
    else 0

/-- The place of the decimal point: the ratio lies from `10 ^ (p - 1)` up to `10 ^ p`. -/
def Ratio.point (r : Ratio) : Int :=
  let whole := r.numerator / r.denominator
  if whole = 0 then -(r.zerosAfterPoint 400 : Int) else (naturalText whole).length

/-- Digits `d₁ d₂ …` and a point `p`, for the number `0.d₁d₂… * 10 ^ p`. -/
structure Decimal where
  digits : Text
  point : Int
  deriving DecidableEq, Repr

/-- `count` units of `10 ^ e` as a decimal without zeros at the end. -/
def Decimal.ofUnits (count : Nat) (e : Int) : Decimal :=
  let ds := naturalText count
  let kept := (ds.reverse.dropWhile (· == '0')).reverse
  if kept.isEmpty then ⟨['0'], 1⟩ else ⟨kept, e + ds.length⟩

/-- The two ends of the interval of reals that round to the binary fraction. -/
def Binary.interval (b : Binary) : Ratio × Ratio :=
  let low := if b.mantissa = Nat.pow 2 52 && -1074 < b.exponent
    then Ratio.scaled (4 * b.mantissa - 1) 2 (b.exponent - 2)
    else Ratio.scaled (2 * b.mantissa - 1) 2 (b.exponent - 1)
  (low, Ratio.scaled (2 * b.mantissa + 1) 2 (b.exponent - 1))

/-- Whether a ratio rounds to the binary fraction; the ends do when the mantissa is even. -/
def Binary.rounds (b : Binary) (r : Ratio) : Bool :=
  let (low, high) := b.interval
  if b.mantissa % 2 = 0 then low.le r && r.le high else !r.le low && !high.le r

/-- Whether `below` units and a rest are nearer to one unit more, a half going to the even count. -/
def nearerAbove (below rest unit : Nat) : Bool :=
  unit < 2 * rest || (2 * rest == unit && below % 2 == 1)

/-- The nearest decimal on the grid of `10 ^ e` that rounds to the binary fraction. -/
def Binary.onGrid? (b : Binary) (e : Int) : Option Decimal :=
  let (below, rest, unit) := (Ratio.scaled b.mantissa 2 b.exponent).inUnits e
  let hits := fun n => b.rounds (Ratio.scaled n 10 e)
  if hits below then
    some (.ofUnits (if hits (below + 1) && nearerAbove below rest unit then below + 1 else below) e)
  else if hits (below + 1) then some (.ofUnits (below + 1) e)
  else none

/-- The shortest decimal that rounds to a binary fraction other than zero. -/
def Binary.shortest (b : Binary) : Decimal :=
  let p := (Ratio.scaled b.mantissa 2 b.exponent).point
  ((List.range 17).findSome? fun (n : Nat) => b.onGrid? (p - (n + 1))).getD ⟨['0'], 1⟩

/-- The binary fraction rounded to `n` significant digits, a half going to the even neighbour. -/
def Binary.rounded (b : Binary) (n : Nat) : Decimal :=
  let r := Ratio.scaled b.mantissa 2 b.exponent
  let e := r.point - n
  let (below, rest, unit) := r.inUnits e
  .ofUnits (if nearerAbove below rest unit then below + 1 else below) e

/-- How decimals are written: positionally from exponent `least` up to but not including `beyond`,
a whole number followed by `wholeEnd`. -/
structure DecimalStyle where
  least : Int
  beyond : Int
  wholeEnd : Text

/-- Settings and records keep a point in every number below `10 ^ 16`. -/
def recordStyle : DecimalStyle := ⟨-4, 16, ['.', '0']⟩

/-- Messages give at most six digits and no idle point. -/
def messageStyle : DecimalStyle := ⟨-4, 6, []⟩

/-- The decimal in a style. -/
def DecimalStyle.render (s : DecimalStyle) (d : Decimal) : Text :=
  let e := d.point - 1
  if s.least ≤ e && e < s.beyond then
    if d.point ≤ 0 then "0.".toList ++ List.replicate (-d.point).toNat '0' ++ d.digits
    else
      let whole := d.digits.take d.point.toNat
      let part := d.digits.drop d.point.toNat
      whole ++ List.replicate (d.point.toNat - whole.length) '0'
        ++ (if part.isEmpty then s.wholeEnd else '.' :: part)
  else
    let tail := d.digits.drop 1
    d.digits.take 1 ++ (if tail.isEmpty then [] else '.' :: tail)
      ++ ['e', if e < 0 then '-' else '+'] ++ Text.padLeft '0' 2 (naturalText e.natAbs)

/-- A number in a style, its digits chosen by `pick`. -/
def DecimalStyle.text (s : DecimalStyle) (pick : Binary → Decimal) (x : Float) : Text :=
  if x.isNaN then "nan".toList
  else if x.isInf then (if x < 0 then "-inf" else "inf").toList
  else
    let b := Binary.ofFloat x
    (if b.negative then ['-'] else [])
      ++ s.render (if b.mantissa = 0 then ⟨['0'], 1⟩ else pick b)

/-- A number with the fewest digits that read back. -/
def realText (x : Float) : Text := recordStyle.text Binary.shortest x

/-- A number as a setting gives it, whole or with a point. -/
inductive Amount where
  | whole (n : Int)
  | real (x : Float)

namespace Amount

/-- The nearest floating-point number. -/
def toFloat : Amount → Float
  | .whole n => Float.ofInt n
  | .real x => x

/-- The amount as it was given. -/
def text : Amount → Text
  | .whole n => wholeText n
  | .real x => realText x

/-- The amount in at most six significant digits. -/
def brief (a : Amount) : Text := messageStyle.text (·.rounded 6) a.toFloat

/-- Whether the amount is below zero. -/
def isNegative : Amount → Bool
  | .whole n => n < 0
  | .real x => x < 0

/-- Whether the amount is zero or below. -/
def isNotPositive : Amount → Bool
  | .whole n => n ≤ 0
  | .real x => x ≤ 0

end Amount

end ExerciseSheet

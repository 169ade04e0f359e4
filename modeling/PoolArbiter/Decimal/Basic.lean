import PoolArbiter.Binary64

/-!
# Decimal numbers and the floats they name

A decimal is a whole number of units of a power of ten. `Decimal.toFloat` rounds
it to the nearest float. `Decimal.shortest` goes the other way: of the decimals
that are rounded back to a value it picks one with the fewest digits, and among
those the one nearest to the value.
-/

namespace PoolArbiter

/-- The number `digits * 10 ^ exponent`. -/
structure Decimal where
  digits : Nat
  exponent : Int
  deriving DecidableEq, Repr

namespace Decimal

/-- The float nearest to a decimal, ties to the even neighbour. -/
def toFloat (decimal : Decimal) : Float :=
  Float.ofScientific decimal.digits (decimal.exponent < 0) decimal.exponent.natAbs

/-- Number of decimal digits of a number. -/
def digitCount (number : Nat) : Nat :=
  (Nat.toDigits 10 number).length

/-- A positive fraction, for exact comparison with decimals. -/
structure Ratio where
  numerator : Nat
  denominator : Nat

/-- A finite magnitude as a fraction. -/
def Ratio.ofMagnitude (magnitude : Binary64.Magnitude) : Ratio :=
  if 0 ≤ magnitude.exponent then
    ⟨magnitude.mantissa * Nat.pow 2 magnitude.exponent.toNat, 1⟩
  else
    ⟨magnitude.mantissa, Nat.pow 2 (-magnitude.exponent).toNat⟩

/-- The exponent `e` with `10 ^ (e - 1) ≤ ratio < 10 ^ e`, for a positive ratio. -/
def Ratio.decimalExponent (ratio : Ratio) : Int :=
  if ratio.denominator ≤ ratio.numerator then
    digitCount (ratio.numerator / ratio.denominator)
  else
    let inverse := (ratio.denominator + (ratio.numerator - 1)) / ratio.numerator
    1 - (digitCount (inverse - 1) : Int)

/-- A ratio counted in units of a power of ten. -/
def Ratio.inUnits (ratio : Ratio) (exponent : Int) : Ratio :=
  if 0 ≤ exponent then
    ⟨ratio.numerator, ratio.denominator * Nat.pow 10 exponent.toNat⟩
  else
    ⟨ratio.numerator * Nat.pow 10 (-exponent).toNat, ratio.denominator⟩

/-- The decimal of a given number of digits that reads back as `value` and is
nearest to `ratio`, if one of the two neighbours on that grid reads back. A tie
goes to the greater neighbour. -/
def nearest? (value : Float) (ratio : Ratio) (digitLimit : Nat) : Option Decimal :=
  let exponent := ratio.decimalExponent - digitLimit
  let scaled := ratio.inUnits exponent
  let below : Decimal := ⟨scaled.numerator / scaled.denominator, exponent⟩
  let above : Decimal := ⟨below.digits + 1, exponent⟩
  let remainder := scaled.numerator % scaled.denominator
  let ordered :=
    if 2 * remainder < scaled.denominator then [below, above] else [above, below]
  ordered.find? fun candidate => candidate.toFloat.toBits == value.toBits

/-- A decimal without zeros at its end. -/
def trimmed (decimal : Decimal) : Decimal :=
  let ending := (Nat.toDigits 10 decimal.digits).reverse.takeWhile (· == '0')
  if decimal.digits = 0 then
    ⟨0, 0⟩
  else
    ⟨decimal.digits / Nat.pow 10 ending.length, decimal.exponent + ending.length⟩

/-- All digits of a finite magnitude. -/
def ofMagnitude (magnitude : Binary64.Magnitude) : Decimal :=
  if 0 ≤ magnitude.exponent then
    ⟨magnitude.mantissa * Nat.pow 2 magnitude.exponent.toNat, 0⟩
  else
    ⟨magnitude.mantissa * Nat.pow 5 (-magnitude.exponent).toNat, magnitude.exponent⟩

/-- The fewest digits that read back as a value above zero; seventeen are always
enough. -/
def shortest (value : Float) (magnitude : Binary64.Magnitude) : Decimal :=
  let ratio := Ratio.ofMagnitude magnitude
  let found := (List.range 17).findSome? fun count => nearest? value ratio (count + 1)
  trimmed (found.getD (ofMagnitude magnitude))

end Decimal

end PoolArbiter

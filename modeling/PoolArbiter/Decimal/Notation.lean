import PoolArbiter.Decimal.Basic

/-!
# How numbers are written

Three ways to write a float with the fewest digits that read back: plain
positional text for messages, the text of a float in a configuration document,
and the text of a number in a line of output.
-/

namespace PoolArbiter.Decimal

/-- The digits of a number. -/
def digitText (number : Nat) : List Char :=
  Nat.toDigits 10 number

/-- Positional text: all digits around the point, and no exponent. -/
def positional (decimal : Decimal) : List Char :=
  let digits := digitText decimal.digits
  if 0 ≤ decimal.exponent then
    digits ++ List.replicate decimal.exponent.toNat '0'
  else
    let places := (-decimal.exponent).toNat
    let padded := List.replicate (places + 1 - digits.length) '0' ++ digits
    padded.take (padded.length - places) ++ '.' :: padded.drop (padded.length - places)

/-- The shortest decimal of the magnitude of a finite value. -/
def ofFinite (value : Float) (magnitude : Binary64.Magnitude) : Decimal :=
  if magnitude.mantissa = 0 then ⟨0, 0⟩ else shortest value.abs magnitude

/-- A minus sign where the value has its sign set. -/
def signText (value : Float) : List Char :=
  if (Binary64.ofFloat value).hasSign then ['-'] else []

/-- Plain text of a float: positional, without a point where none is needed. -/
def plain (value : Float) : List Char :=
  if value.isNaN then
    "NaN".toList
  else
    signText value ++
      match (Binary64.ofFloat value).magnitude? with
      | none => "inf".toList
      | some magnitude => positional (ofFinite value magnitude)

/-- Text of a float in a document: positional, always with a point, and small
letters for the values that are not finite. -/
def documentText (value : Float) : List Char :=
  if value.isNaN then
    "nan".toList
  else
    signText value ++
      match (Binary64.ofFloat value).magnitude? with
      | none => "inf".toList
      | some magnitude =>
          let decimal := ofFinite value magnitude
          if 0 ≤ decimal.exponent then positional decimal ++ ".0".toList
          else positional decimal

/-- Text of a number in an output line: positional with a point from 1e-5 up to
below 1e16, otherwise one digit before the point and an exponent. Values that
are not finite have no number and are written as null. -/
def outputText (value : Float) : List Char :=
  match (Binary64.ofFloat value).magnitude? with
  | none => "null".toList
  | some magnitude =>
      let decimal := ofFinite value magnitude
      let digits := digitText decimal.digits
      let point := (digits.length : Int) + decimal.exponent
      signText value ++
        if -5 < point ∧ point ≤ 16 then
          if 0 ≤ decimal.exponent then positional decimal ++ ".0".toList
          else positional decimal
        else
          let exponent := point - 1
          let fraction := digits.drop 1
          digits.take 1 ++ (if fraction.isEmpty then [] else '.' :: fraction) ++ 'e' ::
            (if exponent < 0 then ['-'] else []) ++ digitText exponent.natAbs

end PoolArbiter.Decimal

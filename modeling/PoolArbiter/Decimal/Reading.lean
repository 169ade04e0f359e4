import PoolArbiter.Decimal.Basic

/-!
# How numbers are read from plain text

Whole numbers and floats as they stand in variables and on the command line. A
text is a number only as a whole: nothing may stand before or after it, not even
a blank.
-/

namespace PoolArbiter.Decimal

/-- The value of a decimal digit. -/
def digit? (letter : Char) : Option Nat :=
  if letter.isDigit then some (letter.toNat - '0'.toNat) else none

/-- The value of a run of digits, from the number read so far. -/
def foldDigits (digits : List Char) (start : Nat) : Nat :=
  digits.foldl (fun number letter => 10 * number + (letter.toNat - '0'.toNat)) start

/-- A number written with at least one digit and nothing else. -/
def digits? (text : List Char) : Option Nat :=
  if !text.isEmpty && text.all Char.isDigit then some (foldDigits text 0) else none

/-- A number of at most `greatest`, with an optional plus sign. -/
def natural? (greatest : Nat) (text : List Char) : Option Nat :=
  let digits :=
    match text with
    | '+' :: rest => rest
    | _ => text
  (digits? digits).filter (· ≤ greatest)

/-- A whole number with an optional sign. -/
def integer? (text : List Char) : Option Int :=
  match text with
  | '-' :: rest => (digits? rest).map fun number => -(number : Int)
  | '+' :: rest => (digits? rest).map Int.ofNat
  | _ => (digits? text).map Int.ofNat

/-- An exponent part: empty, or a letter, an optional sign and digits. -/
def exponent? (text : List Char) : Option Int :=
  match text with
  | [] => some 0
  | letter :: rest => if letter = 'e' ∨ letter = 'E' then integer? rest else none

/-- An unsigned decimal: digits with at most one point among them and an
optional exponent; at least one digit stands before the exponent. -/
def unsigned? (text : List Char) : Option Decimal :=
  let whole := text.takeWhile Char.isDigit
  let afterWhole := text.dropWhile Char.isDigit
  let fraction :=
    match afterWhole with
    | '.' :: rest => rest.takeWhile Char.isDigit
    | _ => []
  let afterFraction :=
    match afterWhole with
    | '.' :: rest => rest.dropWhile Char.isDigit
    | _ => afterWhole
  if whole.isEmpty && fraction.isEmpty then
    none
  else
    (exponent? afterFraction).map fun exponent =>
      ⟨foldDigits (whole ++ fraction) 0, exponent - fraction.length⟩

/-- An unsigned float: a decimal or the name of a value that is not finite, in
letters of any size. -/
def magnitudeText? (text : List Char) : Option Float :=
  let name := text.map Char.toLower
  if name = "inf".toList ∨ name = "infinity".toList then
    some (1 / 0)
  else if name = "nan".toList then
    some (0 / 0)
  else
    (unsigned? text).map toFloat

/-- A float with an optional sign. -/
def float? (text : List Char) : Option Float :=
  match text with
  | '-' :: rest => (magnitudeText? rest).map (- ·)
  | '+' :: rest => magnitudeText? rest
  | _ => magnitudeText? text

end PoolArbiter.Decimal

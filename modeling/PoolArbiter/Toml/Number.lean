import PoolArbiter.Decimal.Reading
import PoolArbiter.Toml.Quoted

/-!
# Numbers, dates and times

The forms of numbers in a document. Digits may be grouped by single underscores.
A whole number fits into 64 bits with a sign. A float has a fraction or an
exponent, or is the name of a value that is not finite. Of a date or a time only
the form counts.
-/

namespace PoolArbiter.Toml

/-- Further digits of a group: digits, each after at most one underscore. -/
def readDigitTail (isDigit : Char → Bool) : List Char → List Char × List Char
  | '_' :: letter :: rest =>
      if isDigit letter then
        let (digits, after) := readDigitTail isDigit rest
        (letter :: digits, after)
      else
        ([], '_' :: letter :: rest)
  | letter :: rest =>
      if isDigit letter then
        let (digits, after) := readDigitTail isDigit rest
        (letter :: digits, after)
      else
        ([], letter :: rest)
  | [] => ([], [])

/-- One or more digits, with underscores between them. -/
def readDigits (isDigit : Char → Bool) : Reader (List Char)
  | [] => none
  | letter :: rest =>
      if isDigit letter then
        let (digits, after) := readDigitTail isDigit rest
        some (letter :: digits, after)
      else
        none

/-- Digits of a decimal number: no zero stands in front of others. -/
def readWhole : Reader (List Char)
  | '0' :: rest => some (['0'], rest)
  | text => readDigits Char.isDigit text

/-- An optional sign; the flag tells whether it is a minus. -/
def readSign : List Char → Bool × List Char
  | '-' :: rest => (true, rest)
  | '+' :: rest => (false, rest)
  | text => (false, text)

/-- The least number above the whole numbers of a document, which have 64 bits with
a sign. -/
def integerLimit : Nat :=
  0x8000000000000000

/-- A number if it fits into 64 bits with a sign. -/
def inWord? (number : Int) : Option Int :=
  if -(integerLimit : Int) ≤ number ∧ number < integerLimit then some number else none

/-- A number in another base, from after its marker. -/
def readBased (base : Nat) : Reader Int := fun text => do
  let isDigit (letter : Char) := (hexDigit? letter).any (· < base)
  let (digits, rest) ← readDigits isDigit text
  let values := digits.filterMap hexDigit?
  let number ← inWord? (Int.ofNat (values.foldl (fun number value => base * number + value) 0))
  return (number, rest)

/-- A whole number. -/
def readInteger : Reader Int
  | '0' :: 'x' :: rest => readBased 16 rest
  | '0' :: 'o' :: rest => readBased 8 rest
  | '0' :: 'b' :: rest => readBased 2 rest
  | text => do
      let (negative, unsigned) := readSign text
      let (digits, rest) ← readWhole unsigned
      let magnitude : Int := Decimal.foldDigits digits 0
      let number ← inWord? (if negative then -magnitude else magnitude)
      return (number, rest)

/-- An exponent after its letter. -/
def readExponent : Reader Int
  | letter :: text =>
      if letter = 'e' ∨ letter = 'E' then do
        let (negative, unsigned) := readSign text
        let (digits, rest) ← readDigits Char.isDigit unsigned
        let magnitude : Int := Decimal.foldDigits digits 0
        return (if negative then -magnitude else magnitude, rest)
      else
        none
  | [] => none

/-- A fraction after its point, with an exponent if there is one. -/
def readFraction : Reader (List Char × Int)
  | '.' :: text => do
      let (digits, rest) ← readDigits Char.isDigit text
      match readExponent rest with
      | some (exponent, after) => return ((digits, exponent), after)
      | none => return ((digits, 0), rest)
  | text => do
      let (exponent, rest) ← readExponent text
      return (([], exponent), rest)

/-- A float with digits. One that is rounded up to infinity is refused, one that
is rounded down to minus infinity is not. -/
def readDecimal : Reader Float := fun text => do
  let (negative, unsigned) := readSign text
  let (whole, afterWhole) ← readWhole unsigned
  let ((fraction, exponent), rest) ← readFraction afterWhole
  let magnitude :=
    Decimal.toFloat ⟨Decimal.foldDigits (whole ++ fraction) 0, exponent - fraction.length⟩
  if negative then return (-magnitude, rest)
  else if magnitude.isInf then none
  else return (magnitude, rest)

/-- The name of a value that is not finite. -/
def readSpecial : Reader Binary64 := fun text => do
  let (negative, unsigned) := readSign text
  let (magnitude, rest) ←
    match unsigned with
    | 'i' :: 'n' :: 'f' :: rest => some (⟨0x7FF0000000000000⟩, rest)
    | 'n' :: 'a' :: 'n' :: rest => some (⟨0x7FF8000000000000⟩, rest)
    | _ => none
  return (if negative then magnitude.negated else magnitude, rest)

/-- A float. -/
def readFloat : Reader Binary64 := fun text =>
  ((readDecimal text).map fun (number, rest) => (.ofFloat number, rest)).or (readSpecial text)

/-- Two digits whose value lies between bounds. -/
def readPair (least greatest : Nat) : Reader Nat
  | tens :: ones :: rest => do
      let value := 10 * (← Decimal.digit? tens) + (← Decimal.digit? ones)
      if least ≤ value ∧ value ≤ greatest then return (value, rest) else none
  | _ => none

/-- One given character. -/
def readMark (mark : Char) : Reader Unit
  | letter :: rest => if letter = mark then some ((), rest) else none
  | [] => none

/-- Number of days of a month. -/
def daysOfMonth (year month : Nat) : Nat :=
  if month = 2 then
    if year % 4 = 0 ∧ (year % 100 ≠ 0 ∨ year % 400 = 0) then 29 else 28
  else if month = 4 ∨ month = 6 ∨ month = 9 ∨ month = 11 then 30
  else 31

/-- A day of the calendar. -/
def readDate : Reader Unit := fun text => do
  let (century, text) ← readPair 0 99 text
  let (yearOfCentury, text) ← readPair 0 99 text
  let (_, text) ← readMark '-' text
  let (month, text) ← readPair 1 12 text
  let (_, text) ← readMark '-' text
  let (_, text) ← readPair 1 (daysOfMonth (100 * century + yearOfCentury) month) text
  return ((), text)

/-- A time of day; the last minute may have a leap second. -/
def readTime : Reader Unit := fun text => do
  let (_, text) ← readPair 0 23 text
  let (_, text) ← readMark ':' text
  let (_, text) ← readPair 0 59 text
  let (_, text) ← readMark ':' text
  let (_, text) ← readPair 0 60 text
  match text with
  | '.' :: fraction =>
      if (fraction.takeWhile Char.isDigit).isEmpty then none
      else return ((), fraction.dropWhile Char.isDigit)
  | _ => return ((), text)

/-- The offset of a time from universal time. -/
def readOffset : Reader Unit
  | 'Z' :: rest => some ((), rest)
  | 'z' :: rest => some ((), rest)
  | sign :: text =>
      if sign = '+' ∨ sign = '-' then do
        let (_, text) ← readPair 0 23 text
        let (_, text) ← readMark ':' text
        let (_, text) ← readPair 0 59 text
        return ((), text)
      else
        none
  | [] => none

/-- A time after the mark that divides it from its date, with its offset. -/
def readTimeOfDate : Reader Unit
  | mark :: text =>
      if mark = 'T' ∨ mark = 't' ∨ mark = ' ' then do
        let (_, afterTime) ← readTime text
        return ((readOffset afterTime).getD ((), afterTime))
      else
        none
  | [] => none

/-- A date, a time, or both. -/
def readMoment : Reader Unit := fun text =>
  match readDate text with
  | some (_, afterDate) => some ((readTimeOfDate afterDate).getD ((), afterDate))
  | none => readTime text

end PoolArbiter.Toml

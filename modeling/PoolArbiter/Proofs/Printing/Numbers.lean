import PoolArbiter.Proofs.Printing.Quoting
import PoolArbiter.Proofs.Printing.Shortest

/-!
# Printed numbers read back

The digits of a whole number, and the digits of a float around its point, are read as they
were printed. A float is read as the decimal `Decimal.written`, whose digits are those on both
sides of the point, and every float is read back as it was.
-/

namespace PoolArbiter

namespace Toml

/-- A rest that does not go on with digits. -/
def EndsDigits (rest : List Char) : Prop :=
  ∀ letter ∈ rest.head?, letter.isDigit = false ∧ letter ≠ '_'

/-- The digits of a whole number: a zero, or digits without a zero in front. -/
structure IsWhole (digits : List Char) : Prop where
  all : ∀ letter ∈ digits, letter.isDigit = true
  front : digits = ['0'] ∨ ∃ first more, digits = first :: more ∧ first ≠ '0'

/-- Natural numbers are written as whole numbers. -/
theorem isWhole_digitText (number : Nat) : IsWhole (Decimal.digitText number) where
  all _ := Decimal.isDigit_of_mem_digitText
  front := by
    rcases Nat.eq_zero_or_pos number with rfl | positive
    · exact .inl rfl
    · exact .inr (Decimal.digitText_eq_cons positive)

/-- A digit differs from whatever is no digit. -/
theorem ne_of_isDigit {letter other : Char} (isDigit : letter.isDigit = true)
    (noDigit : other.isDigit = false) : letter ≠ other := by
  rintro rfl
  rw [isDigit] at noDigit
  cases noDigit

/-- A digit is not among letters that are no digits. -/
theorem not_mem_of_isDigit {letter : Char} {others : List Char}
    (isDigit : letter.isDigit = true) (noDigits : others.all (!·.isDigit) = true) :
    letter ∉ others := by
  intro member
  have other := List.all_eq_true.1 noDigits letter member
  rw [isDigit] at other
  cases other

/-- The rest of a number is read up to its end. -/
theorem readDigitTail_append {digits rest : List Char}
    (all : ∀ letter ∈ digits, letter.isDigit = true) (ends : EndsDigits rest) :
    readDigitTail Char.isDigit (digits ++ rest) = (digits, rest) := by
  induction digits with
  | nil =>
      cases rest with
      | nil => rfl
      | cons first rest =>
          obtain ⟨other, mark⟩ := ends first rfl
          rw [List.nil_append, readDigitTail]
          · simp [other]
          · simp [mark]
  | cons digit digits inductionHypothesis =>
      have isDigit := all digit List.mem_cons_self
      have mark : digit ≠ '_' := ne_of_isDigit isDigit rfl
      have later := inductionHypothesis fun other member =>
        all other (List.mem_cons_of_mem _ member)
      rw [List.cons_append, readDigitTail]
      · simp [isDigit, later]
      · simp [mark]

/-- Digits are read up to their end. -/
theorem readDigits_append {digits rest : List Char} (present : digits ≠ [])
    (all : ∀ letter ∈ digits, letter.isDigit = true) (ends : EndsDigits rest) :
    readDigits Char.isDigit (digits ++ rest) = some (digits, rest) := by
  cases digits with
  | nil => exact absurd rfl present
  | cons digit digits =>
      have later := readDigitTail_append
        (fun other member => all other (List.mem_cons_of_mem _ member)) ends
      simp [readDigits, all digit List.mem_cons_self, later]

/-- A whole number is read up to its end. -/
theorem IsWhole.readWhole_append {digits rest : List Char} (whole : IsWhole digits)
    (ends : EndsDigits rest) : readWhole (digits ++ rest) = some (digits, rest) := by
  rcases whole.front with rfl | ⟨first, more, rfl, nonzero⟩
  · rfl
  · rw [List.cons_append, readWhole]
    · exact readDigits_append (List.cons_ne_nil _ _) whole.all ends
    · simp [nonzero]

section Moments

/-- What has the value of a digit is one. -/
theorem isDigit_of_digit? {letter : Char} {value : Nat}
    (digit : Decimal.digit? letter = some value) : letter.isDigit = true := by
  unfold Decimal.digit? at digit
  split at digit
  next isDigit => exact isDigit
  next => cases digit

/-- A pair is two digits. -/
theorem readPair_eq_some {least greatest value : Nat} {text after : List Char}
    (read : readPair least greatest text = some (value, after)) :
    ∃ tens ones, text = tens :: ones :: after ∧ tens.isDigit = true ∧ ones.isDigit = true := by
  unfold readPair at read
  split at read
  next tens ones rest =>
    cases first : Decimal.digit? tens with
    | none => simp [first] at read
    | some tensValue =>
        cases second : Decimal.digit? ones with
        | none => simp [first, second] at read
        | some onesValue =>
            simp only [first, second, Option.bind_eq_bind, Option.bind_some, Option.pure_def,
              Option.ite_none_right_eq_some, Option.some.injEq, Prod.mk.injEq] at read
            obtain ⟨_, _, rfl⟩ := read
            exact ⟨tens, ones, rfl, isDigit_of_digit? first, isDigit_of_digit? second⟩
  next => cases read

/-- A line without the marks of dates and times, up to its end. -/
def Unmarked (letters : List Char) : Prop :=
  ∀ letter ∈ letters, letter ≠ '-' ∧ letter ≠ ':'

/-- A digit is neither a dash nor a colon. -/
theorem isDigit_unmarked {letter : Char} (isDigit : letter.isDigit = true) :
    letter ≠ '-' ∧ letter ≠ ':' :=
  ⟨ne_of_isDigit isDigit rfl, ne_of_isDigit isDigit rfl⟩

/-- After a pair of digits there is still no mark. -/
theorem Unmarked.readPair {letters rest after : List Char} (unmarked : Unmarked letters)
    {least greatest value : Nat}
    (read : readPair least greatest (letters ++ '\n' :: rest) = some (value, after)) :
    ∃ later, Unmarked later ∧ after = later ++ '\n' :: rest := by
  obtain ⟨tens, ones, text, first, second⟩ := readPair_eq_some read
  cases letters with
  | nil =>
      obtain ⟨rfl, _⟩ := List.cons.inj text
      cases first
  | cons letter letters =>
      cases letters with
      | nil =>
          obtain ⟨_, text⟩ := List.cons.inj text
          obtain ⟨rfl, _⟩ := List.cons.inj text
          cases second
      | cons next letters =>
          obtain ⟨_, text⟩ := List.cons.inj text
          obtain ⟨_, text⟩ := List.cons.inj text
          exact ⟨letters, fun other member => unmarked other
            (List.mem_cons_of_mem _ (List.mem_cons_of_mem _ member)), text.symm⟩

/-- Without a mark none is read. -/
theorem Unmarked.readMark {letters rest : List Char} (unmarked : Unmarked letters) {mark : Char}
    (isMark : mark = '-' ∨ mark = ':') : readMark mark (letters ++ '\n' :: rest) = none := by
  cases letters with
  | nil => rcases isMark with rfl | rfl <;> rfl
  | cons letter letters =>
      obtain ⟨noDash, noColon⟩ := unmarked letter List.mem_cons_self
      rcases isMark with rfl | rfl
      · simp [Toml.readMark, noDash]
      · simp [Toml.readMark, noColon]

/-- Without a mark no date is read. -/
theorem Unmarked.readDate {letters : List Char} (unmarked : Unmarked letters)
    (rest : List Char) : readDate (letters ++ '\n' :: rest) = none := by
  unfold Toml.readDate
  cases century : Toml.readPair 0 99 (letters ++ '\n' :: rest) with
  | none => rfl
  | some read =>
      obtain ⟨_, after⟩ := read
      obtain ⟨later, unmarked, rfl⟩ := unmarked.readPair century
      simp only [Option.bind_eq_bind, Option.bind_some]
      cases year : Toml.readPair 0 99 (later ++ '\n' :: rest) with
      | none => rfl
      | some read =>
          obtain ⟨_, after⟩ := read
          obtain ⟨last, unmarked, rfl⟩ := unmarked.readPair year
          simp only [Option.bind_some, unmarked.readMark (.inl rfl), Option.bind_none]

/-- Without a mark no time is read. -/
theorem Unmarked.readTime {letters : List Char} (unmarked : Unmarked letters)
    (rest : List Char) : readTime (letters ++ '\n' :: rest) = none := by
  unfold Toml.readTime
  cases hour : Toml.readPair 0 23 (letters ++ '\n' :: rest) with
  | none => rfl
  | some read =>
      obtain ⟨_, after⟩ := read
      obtain ⟨later, unmarked, rfl⟩ := unmarked.readPair hour
      simp only [Option.bind_eq_bind, Option.bind_some, unmarked.readMark (.inr rfl),
        Option.bind_none]

/-- Without a mark neither a date nor a time is read. -/
theorem Unmarked.readMoment {letters : List Char} (unmarked : Unmarked letters)
    (rest : List Char) : readMoment (letters ++ '\n' :: rest) = none := by
  simp only [Toml.readMoment, unmarked.readDate, unmarked.readTime]

/-- Neither a date nor a time has a sign. -/
theorem readMoment_sign (text : List Char) : readMoment ('-' :: text) = none := by
  have pair : ∀ least greatest, readPair least greatest ('-' :: text) = none := by
    intro least greatest
    cases text <;> rfl
  simp only [readMoment, readDate, readTime, pair, Option.bind_eq_bind, Option.bind_none]

end Moments

section Integers

/-- A number that is not in quotes. -/
theorem readScalar_of_number {first : Char} {more : List Char}
    (plain : first ∉ ['"', '\'', 't', 'f']) (dateless : readMoment (first :: more) = none) :
    readScalar (first :: more) =
      ((readFloat (first :: more)).map fun (number, rest) => (.float number, rest)).or
        ((readInteger (first :: more)).map fun (number, rest) => (.integer number, rest)) := by
  simp only [List.mem_cons, List.not_mem_nil, or_false, not_or] at plain
  obtain ⟨double, single, letterT, letterF⟩ := plain
  rw [readScalar, dateless]
  · rfl
  · simp [double]
  · simp [single]
  · simp [letterT]
  · simp [letterF]

/-- Digits end at the end of a line. -/
theorem endsDigits_newline (rest : List Char) : EndsDigits ('\n' :: rest) := by
  rintro letter ⟨⟩
  decide

/-- A whole number starts with a digit. -/
theorem IsWhole.eq_cons {digits : List Char} (whole : IsWhole digits) :
    ∃ first more, digits = first :: more ∧ first.isDigit = true := by
  rcases whole.front with rfl | ⟨first, more, rfl, _⟩
  · exact ⟨_, _, rfl, rfl⟩
  · exact ⟨first, more, rfl, whole.all first List.mem_cons_self⟩

/-- A digit is no sign. -/
theorem readSign_of_isDigit {first : Char} (isDigit : first.isDigit = true) (more : List Char) :
    readSign (first :: more) = (false, first :: more) := by
  have minus : first ≠ '-' := ne_of_isDigit isDigit rfl
  have plus : first ≠ '+' := ne_of_isDigit isDigit rfl
  rw [readSign]
  · simp [minus]
  · simp [plus]

/-- What starts with a digit is not an infinity and not NaN. -/
theorem readSpecial_of_isDigit {first : Char} (isDigit : first.isDigit = true)
    (more : List Char) : readSpecial (first :: more) = none := by
  have infinite : first ≠ 'i' := ne_of_isDigit isDigit rfl
  have undefined : first ≠ 'n' := ne_of_isDigit isDigit rfl
  rw [readSpecial, readSign_of_isDigit isDigit]
  dsimp only
  split
  next same => exact absurd (List.cons.inj same).1 infinite
  next same => exact absurd (List.cons.inj same).1 undefined
  next => rfl

/-- Digits and nothing else are no float. -/
theorem IsWhole.readFloat_newline {digits : List Char} (whole : IsWhole digits)
    (rest : List Char) : readFloat (digits ++ '\n' :: rest) = none := by
  have read := whole.readWhole_append (endsDigits_newline rest)
  obtain ⟨first, more, rfl, isDigit⟩ := whole.eq_cons
  rw [List.cons_append] at read ⊢
  have fraction : readFraction ('\n' :: rest) = none := rfl
  have decimal : readDecimal (first :: (more ++ '\n' :: rest)) = none := by
    simp only [readDecimal, readSign_of_isDigit isDigit, read, fraction, Option.bind_eq_bind,
      Option.bind_some, Option.bind_none]
  rw [readFloat, decimal, readSpecial_of_isDigit isDigit]
  rfl

/-- A natural number below the limit fits. -/
theorem inWord?_natural {number : Nat} (small : number < integerLimit) :
    inWord? (number : Int) = some (number : Int) := by
  unfold inWord?
  generalize integerLimit = limit at small
  rw [if_pos]
  omega

/-- A printed integer is read back. -/
theorem readInteger_digitText {number : Nat} (small : number < integerLimit) (rest : List Char) :
    readInteger (Decimal.digitText number ++ '\n' :: rest) =
      some ((number : Int), '\n' :: rest) := by
  have whole := isWhole_digitText number
  have read := whole.readWhole_append (endsDigits_newline rest)
  have value := Decimal.foldDigits_digitText number
  have word := inWord?_natural small
  obtain ⟨first, more, digits, isDigit⟩ := whole.eq_cons
  -- The second character is a digit or the line end, so no base is named.
  have second : ∀ letter later, more ++ '\n' :: rest = letter :: later →
      letter ≠ 'x' ∧ letter ≠ 'o' ∧ letter ≠ 'b' := by
    intro letter later text
    cases more with
    | nil =>
        obtain ⟨rfl, _⟩ := List.cons.inj text
        decide
    | cons next more =>
        obtain ⟨rfl, _⟩ := List.cons.inj text
        have nextDigit := whole.all next (by rw [digits]; simp)
        exact ⟨ne_of_isDigit nextDigit rfl, ne_of_isDigit nextDigit rfl,
          ne_of_isDigit nextDigit rfl⟩
  rw [digits] at read value ⊢
  rw [List.cons_append] at read ⊢
  rw [readInteger]
  · rw [readSign_of_isDigit isDigit]
    dsimp only
    rw [read, Option.bind_eq_bind, Option.bind_some]
    dsimp only
    rw [value, if_neg Bool.false_ne_true, word]
    rfl
  · intro later text
    exact (second 'x' later (List.cons.inj text).2).1 rfl
  · intro later text
    exact (second 'o' later (List.cons.inj text).2).2.1 rfl
  · intro later text
    exact (second 'b' later (List.cons.inj text).2).2.2 rfl

/-- A whole number is read as it was. -/
theorem readScalar_digitText {number : Nat} (small : number < integerLimit) (rest : List Char) :
    readScalar (Decimal.digitText number ++ '\n' :: rest) =
      some (.integer number, '\n' :: rest) := by
  have whole := isWhole_digitText number
  have unmarked : Unmarked (Decimal.digitText number) := fun letter member =>
    isDigit_unmarked (whole.all letter member)
  have moment := unmarked.readMoment rest
  have float := whole.readFloat_newline rest
  have integer := readInteger_digitText small rest
  obtain ⟨first, more, digits, isDigit⟩ := whole.eq_cons
  rw [digits, List.cons_append] at moment float integer ⊢
  rw [readScalar_of_number (not_mem_of_isDigit isDigit rfl) moment, float, integer]
  rfl

end Integers

section Points

open Decimal (foldDigits digitText positional written)

/-- The text of a decimal with a digit after its point. -/
def pointText (decimal : Decimal) : List Char :=
  if 0 ≤ decimal.exponent then positional decimal ++ ".0".toList else positional decimal

/-- A text with a point, as the decimal that it shows. -/
structure IsPointText (decimal : Decimal) (whole fraction : List Char) : Prop where
  isWhole : IsWhole whole
  present : fraction ≠ []
  all : ∀ letter ∈ fraction, letter.isDigit = true
  digits : foldDigits (whole ++ fraction) 0 = decimal.digits
  exponent : -(fraction.length : Int) = decimal.exponent

/-- Zeros are digits. -/
theorem isDigit_of_mem_zeros {count : Nat} {letter : Char}
    (member : letter ∈ List.replicate count '0') : letter.isDigit = true := by
  rw [List.eq_of_mem_replicate member]
  decide

/-- Without digits after the point, zeros and one more are written. -/
theorem pointText_whole {decimal : Decimal} (whole : 0 ≤ decimal.exponent)
    (zero : decimal.digits = 0 → decimal.exponent = 0) :
    ∃ front back, pointText decimal = front ++ '.' :: back ∧
      IsPointText decimal.written front back := by
  obtain ⟨digits, exponent⟩ := decimal
  dsimp only at whole zero
  refine ⟨digitText digits ++ List.replicate exponent.toNat '0', ['0'], ?_, ?_⟩
  · unfold pointText positional
    dsimp only
    rw [if_pos whole, if_pos whole]
    rfl
  have number := Decimal.foldDigits_digitText digits
  have shown : (⟨digits, exponent⟩ : Decimal).written = ⟨digits * 10 ^ (exponent.toNat + 1), -1⟩ :=
    if_pos whole
  rw [shown]
  refine ⟨⟨?_, ?_⟩, List.cons_ne_nil _ _, ?_, ?_, rfl⟩
  · intro letter member
    rcases List.mem_append.1 member with digit | padding
    · exact Decimal.isDigit_of_mem_digitText digit
    · exact isDigit_of_mem_zeros padding
  · rcases Nat.eq_zero_or_pos digits with none | positive
    · subst none
      rw [zero rfl]
      exact .inl rfl
    · obtain ⟨first, more, text, nonzero⟩ := Decimal.digitText_eq_cons positive
      rw [text]
      exact .inr ⟨first, _, rfl, nonzero⟩
  · intro letter member
    rw [List.mem_singleton.1 member]
    decide
  · have last : ['0'] = List.replicate 1 '0' := rfl
    rw [last, List.append_assoc, List.replicate_append_replicate, Decimal.foldDigits_append, number,
      Decimal.foldDigits_zeros]

/-- With digits after the point, zeros stand in front where digits are missing. -/
theorem pointText_fraction {decimal : Decimal} (fraction : decimal.exponent < 0) :
    ∃ front back, pointText decimal = front ++ '.' :: back ∧
      IsPointText decimal.written front back := by
  obtain ⟨digits, exponent⟩ := decimal
  dsimp only at fraction
  obtain ⟨places, rfl⟩ : ∃ places : Nat, exponent = -(places + 1 : Nat) :=
    ⟨(-exponent).toNat - 1, by omega⟩
  have number := Decimal.foldDigits_digitText digits
  have shown : (⟨digits, -(places + 1 : Nat)⟩ : Decimal).written = ⟨digits, -(places + 1 : Nat)⟩ :=
    if_neg (Int.not_le.2 fraction)
  have count : (- -((places + 1 : Nat) : Int)).toNat = places + 1 := by omega
  rw [shown]
  unfold pointText positional
  dsimp only
  rw [if_neg (Int.not_le.2 fraction), if_neg (Int.not_le.2 fraction), count]
  generalize padded_eq :
    List.replicate (places + 1 + 1 - (digitText digits).length) '0' ++ digitText digits = padded
  have long : padded.length = places + 1 + 1 - (digitText digits).length +
      (digitText digits).length := by
    rw [← padded_eq, List.length_append, List.length_replicate]
  generalize before_eq : padded.length - (places + 1) = before
  have all : ∀ letter ∈ padded, letter.isDigit = true := by
    intro letter member
    rw [← padded_eq] at member
    rcases List.mem_append.1 member with padding | digit
    · exact isDigit_of_mem_zeros padding
    · exact Decimal.isDigit_of_mem_digitText digit
  refine ⟨padded.take before, padded.drop before, rfl, ⟨?_, ?_⟩, ?_, ?_, ?_, ?_⟩
  · exact fun letter member => all letter (List.mem_of_mem_take member)
  · rcases Nat.lt_or_ge (places + 1) (digitText digits).length with many | few
    · have positive : 0 < digits := by
        refine Nat.pos_of_ne_zero fun none => ?_
        subst none
        have one : (digitText 0).length = 1 := rfl
        omega
      obtain ⟨first, more, text, nonzero⟩ := Decimal.digitText_eq_cons positive
      have unpadded : places + 1 + 1 - (digitText digits).length = 0 := by omega
      obtain ⟨less, rfl⟩ : ∃ less, before = less + 1 := ⟨before - 1, by omega⟩
      rw [unpadded, text] at padded_eq
      rw [← padded_eq]
      exact .inr ⟨first, more.take less, rfl, nonzero⟩
    · obtain ⟨less, missing⟩ :
          ∃ less, places + 1 + 1 - (digitText digits).length = less + 1 :=
        ⟨places + 1 - (digitText digits).length, by omega⟩
      have one : before = 1 := by omega
      rw [missing, List.replicate_succ] at padded_eq
      rw [← padded_eq, one]
      exact .inl rfl
  · refine List.ne_nil_of_length_pos ?_
    rw [List.length_drop]
    omega
  · exact fun letter member => all letter (List.mem_of_mem_drop member)
  · rw [List.take_append_drop, ← padded_eq, Decimal.foldDigits_append, Decimal.foldDigits_zeros,
      Nat.zero_mul, number]
  · dsimp only
    rw [List.length_drop]
    omega

end Points

section Floats

/-- A printed fraction is read back. -/
theorem readFraction_point {digits : List Char} (present : digits ≠ [])
    (all : ∀ letter ∈ digits, letter.isDigit = true) (rest : List Char) :
    readFraction ('.' :: (digits ++ '\n' :: rest)) = some ((digits, 0), '\n' :: rest) := by
  have read := readDigits_append present all (endsDigits_newline rest)
  have exponent : readExponent ('\n' :: rest) = none := rfl
  simp only [readFraction, read, exponent, Option.bind_eq_bind, Option.bind_some, Option.pure_def]

/-- Digits end at the point. -/
theorem endsDigits_point (rest : List Char) : EndsDigits ('.' :: rest) := by
  rintro letter ⟨⟩
  decide

/-- The digits around a point have the value of the decimal. -/
theorem IsPointText.decimal_eq {decimal : Decimal} {whole fraction : List Char}
    (point : IsPointText decimal whole fraction) :
    (⟨Decimal.foldDigits (whole ++ fraction) 0, 0 - fraction.length⟩ : Decimal) = decimal := by
  rw [point.digits, Int.zero_sub, point.exponent]

/-- A decimal with a dash in front is read back as the negative. -/
theorem IsPointText.readDecimal_negative {decimal : Decimal} {whole fraction : List Char}
    (point : IsPointText decimal whole fraction) (rest : List Char) :
    readDecimal ('-' :: (whole ++ '.' :: (fraction ++ '\n' :: rest))) =
      some (-decimal.toFloat, '\n' :: rest) := by
  have sign : readSign ('-' :: (whole ++ '.' :: (fraction ++ '\n' :: rest))) =
      (true, whole ++ '.' :: (fraction ++ '\n' :: rest)) := rfl
  have front := point.isWhole.readWhole_append
    (endsDigits_point (fraction ++ '\n' :: rest))
  have back := readFraction_point point.present point.all rest
  simp only [readDecimal, sign, front, back, point.decimal_eq, Option.bind_eq_bind,
    Option.bind_some, if_true, Option.pure_def]

/-- A finite decimal with a point is read back. -/
theorem IsPointText.readDecimal_positive {decimal : Decimal} {whole fraction : List Char}
    (point : IsPointText decimal whole fraction) (finite : decimal.toFloat.isInf = false)
    (rest : List Char) :
    readDecimal (whole ++ '.' :: (fraction ++ '\n' :: rest)) =
      some (decimal.toFloat, '\n' :: rest) := by
  have front := point.isWhole.readWhole_append
    (endsDigits_point (fraction ++ '\n' :: rest))
  have back := readFraction_point point.present point.all rest
  have sign : readSign (whole ++ '.' :: (fraction ++ '\n' :: rest)) =
      (false, whole ++ '.' :: (fraction ++ '\n' :: rest)) := by
    obtain ⟨first, more, rfl, isDigit⟩ := point.isWhole.eq_cons
    exact readSign_of_isDigit isDigit _
  simp only [readDecimal, sign, front, back, point.decimal_eq, finite, Option.bind_eq_bind,
    Option.bind_some, Bool.false_eq_true, if_false, Option.pure_def]

/-- A finite float is printed as a decimal with a point that has its absolute value. -/
theorem exists_pointText {value : Float} {magnitude : Binary64.Magnitude}
    (finite : (Binary64.ofFloat value).magnitude? = some magnitude) :
    ∃ whole fraction decimal,
      pointText (Decimal.ofFinite value magnitude) = whole ++ '.' :: fraction ∧
        IsPointText decimal whole fraction ∧ decimal.toFloat = value.abs := by
  have read := Decimal.toFloat_written_ofFinite finite
  rcases Int.lt_or_le (Decimal.ofFinite value magnitude).exponent 0 with below | whole
  · obtain ⟨front, back, text, point⟩ := pointText_fraction below
    exact ⟨front, back, _, text, point, read⟩
  · obtain ⟨front, back, text, point⟩ :=
      pointText_whole whole Decimal.exponent_of_ofFinite_zero
    exact ⟨front, back, _, text, point, read⟩

/-- A finite float is printed with a sign and a point. -/
theorem documentText_finite {value : Float} {magnitude : Binary64.Magnitude}
    (number : value.isNaN = false)
    (finite : (Binary64.ofFloat value).magnitude? = some magnitude) :
    Decimal.documentText value =
      Decimal.signText value ++ pointText (Decimal.ofFinite value magnitude) := by
  unfold Decimal.documentText
  rw [number, finite]
  rfl

/-- A finite float is read as it was. -/
theorem readScalar_finite {value : Float} {magnitude : Binary64.Magnitude}
    (number : value.isNaN = false)
    (finite : (Binary64.ofFloat value).magnitude? = some magnitude) (rest : List Char) :
    readScalar (Decimal.documentText value ++ '\n' :: rest) =
      some (.float (.ofFloat value), '\n' :: rest) := by
  obtain ⟨whole, fraction, decimal, text, point, read⟩ := exists_pointText finite
  rw [documentText_finite number finite, text, List.append_assoc, List.append_assoc,
    List.cons_append]
  unfold Decimal.signText
  cases sign : (Binary64.ofFloat value).hasSign with
  | true =>
      have negative := Unpacking.signOf_negative sign
      have decimalRead := point.readDecimal_negative rest
      rw [read, Unpacking.neg_abs_of_negative number negative] at decimalRead
      rw [if_pos rfl, List.singleton_append,
        readScalar_of_number (by decide) (readMoment_sign _), readFloat, decimalRead]
      rfl
  | false =>
      have decimalRead := point.readDecimal_positive
        (by rw [read]; exact Unpacking.isInf_abs finite) rest
      rw [read, Unpacking.abs_of_positive number (Unpacking.signOf_positive sign)] at decimalRead
      have unmarked : Unmarked (whole ++ '.' :: fraction) := by
        intro letter member
        rcases List.mem_append.1 member with digit | later
        · exact isDigit_unmarked (point.isWhole.all letter digit)
        · rcases List.mem_cons.1 later with rfl | digit
          · decide
          · exact isDigit_unmarked (point.all letter digit)
      have dateless := unmarked.readMoment rest
      rw [List.append_assoc, List.cons_append] at dateless
      obtain ⟨first, more, rfl, isDigit⟩ := point.isWhole.eq_cons
      rw [if_neg Bool.false_ne_true, List.nil_append]
      rw [List.cons_append] at dateless decimalRead ⊢
      rw [readScalar_of_number (not_mem_of_isDigit isDigit rfl) dateless, readFloat, decimalRead]
      rfl

/-- An infinity is printed by name, with its sign. -/
theorem documentText_infinite {value : Float} (number : value.isNaN = false)
    (infinite : (Binary64.ofFloat value).magnitude? = none) :
    Decimal.documentText value = Decimal.signText value ++ "inf".toList := by
  unfold Decimal.documentText
  rw [number, infinite]
  rfl

/-- NaN is printed by name, without a sign. -/
theorem documentText_undefined {value : Float} (undefined : value.isNaN = true) :
    Decimal.documentText value = "nan".toList := by
  unfold Decimal.documentText
  rw [undefined]
  rfl

/-- A printed infinity is read back. -/
theorem readScalar_infinite {value : Float} (number : value.isNaN = false)
    (infinite : (Binary64.ofFloat value).magnitude? = none) (rest : List Char) :
    readScalar (Decimal.documentText value ++ '\n' :: rest) =
      some (.float (.ofFloat value), '\n' :: rest) := by
  have bits := Unpacking.ofFloat_infinite number infinite
  rw [documentText_infinite number infinite, Decimal.signText]
  cases sign : (Binary64.ofFloat value).hasSign with
  | true =>
      rw [sign] at bits
      rw [bits]
      exact readScalar_of_number (by decide) (readMoment_sign _)
  | false =>
      have unmarked : Unmarked "inf".toList := by simp [Unmarked]
      rw [sign] at bits
      rw [bits]
      exact readScalar_of_number (by decide) (unmarked.readMoment rest)

/-- NaN is read back. -/
theorem readScalar_undefined {value : Float} (undefined : value.isNaN = true) (rest : List Char) :
    readScalar (Decimal.documentText value ++ '\n' :: rest) =
      some (.float (.ofFloat value), '\n' :: rest) := by
  have unmarked : Unmarked "nan".toList := by simp [Unmarked]
  rw [documentText_undefined undefined, Unpacking.ofFloat_undefined undefined]
  exact readScalar_of_number (by decide) (unmarked.readMoment rest)

/-- A float is read as it was. -/
theorem readScalar_documentText (value : Float) (rest : List Char) :
    readScalar (Decimal.documentText value ++ '\n' :: rest) =
      some (.float (.ofFloat value), '\n' :: rest) := by
  cases number : value.isNaN with
  | true => exact readScalar_undefined number rest
  | false =>
      cases finite : (Binary64.ofFloat value).magnitude? with
      | none => exact readScalar_infinite number finite rest
      | some magnitude => exact readScalar_finite number finite rest

/-- A printed float starts with a dash or with what follows the sign. -/
theorem signText_append_eq_cons (value : Float) {first : Char} (more : List Char) :
    ∃ front later, Decimal.signText value ++ first :: more = front :: later ∧
      (front = '-' ∨ front = first) := by
  unfold Decimal.signText
  split
  · exact ⟨_, _, rfl, .inl rfl⟩
  · exact ⟨_, _, rfl, .inr rfl⟩

/-- The text of a float starts like a number or like a name. -/
theorem documentText_eq_cons (value : Float) :
    ∃ first more, Decimal.documentText value = first :: more ∧
      (first.isDigit = true ∨ first ∈ ['-', 'i', 'n']) := by
  cases number : value.isNaN with
  | true =>
      rw [documentText_undefined number]
      exact ⟨_, _, rfl, .inr (by decide)⟩
  | false =>
      cases finite : (Binary64.ofFloat value).magnitude? with
      | none =>
          rw [documentText_infinite number finite]
          obtain ⟨first, more, text, front⟩ := signText_append_eq_cons value "nf".toList
          refine ⟨first, more, text, .inr ?_⟩
          rcases front with rfl | rfl <;> decide
      | some magnitude =>
          obtain ⟨whole, fraction, decimal, text, point, _⟩ := exists_pointText finite
          obtain ⟨digit, digits, rfl, isDigit⟩ := point.isWhole.eq_cons
          rw [documentText_finite number finite, text, List.cons_append]
          obtain ⟨first, more, signed, front⟩ :=
            signText_append_eq_cons value (digits ++ '.' :: fraction)
          refine ⟨first, more, signed, ?_⟩
          rcases front with rfl | rfl
          · exact .inr (by decide)
          · exact .inl isDigit

end Floats

end Toml

end PoolArbiter

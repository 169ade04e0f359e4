/-!
# Binary floating-point values

A 64-bit float by its bits, with what the arbiter needs of such values beyond
comparison: the total order of all values, arithmetic that keeps the sign of a value
that is not a number, the exact magnitude behind the bits, conversion to 64-bit words
with saturation, and limits. Everything is read off the bits, so each function can be
evaluated inside a proof.
-/

namespace PoolArbiter

/-- A 64-bit float by its bits. Values that are not numbers are many here, each with
a sign and a place in the order, while `Float` has only one. -/
structure Binary64 where
  bits : UInt64
  deriving DecidableEq, Repr

namespace Binary64

/-- The bits of a value. -/
def ofFloat (value : Float) : Binary64 :=
  ⟨value.toBits⟩

/-- The value of the bits. -/
def toFloat (word : Binary64) : Float :=
  Float.ofBits word.bits

/-- The greatest 64-bit word. -/
def greatestWord : Nat :=
  0xFFFFFFFFFFFFFFFF

/-- The place value of the sign bit. -/
def signPlace : Nat :=
  0x8000000000000000

/-- The place value of the last bit of the exponent field. -/
def exponentPlace : Nat :=
  0x10000000000000

/-- The bits without the sign bit. -/
def magnitudeBits (word : Binary64) : Nat :=
  word.bits.toNat % signPlace

/-- Whether the sign bit is set; negative zero counts. -/
def hasSign (word : Binary64) : Bool :=
  signPlace ≤ word.bits.toNat

/-- The value with the opposite sign. -/
def negated (word : Binary64) : Binary64 :=
  ⟨word.bits ^^^ 0x8000000000000000⟩

/-- The bits of the exponent field, all set; those of infinity. -/
def infinityBits : Nat :=
  0x7FF0000000000000

/-- Whether the value is not a number. -/
def isNaN (word : Binary64) : Bool :=
  infinityBits < word.magnitudeBits

/-- Place of a value in the total order of all floats: by size, with negative zero
below zero, and with the values that are not numbers outside the infinities, each on
the side of its sign. -/
def rank (word : Binary64) : Int :=
  if word.hasSign then
    -(word.magnitudeBits : Int) - 1
  else
    word.magnitudeBits

/-- The result of an operation that has none, such as infinity minus infinity. -/
def invalid : Binary64 :=
  ⟨0xFFF8000000000000⟩

/-- A value that is not a number, as the result of an operation on it: the first bit
of its fraction is set. -/
def quiet (word : Binary64) : Binary64 :=
  ⟨word.bits ||| 0x8000000000000⟩

/-- Carry out an operation. The first operand that is not a number is the result. -/
def combine (operation : Float → Float → Float) (first second : Binary64) : Binary64 :=
  if first.isNaN then
    first.quiet
  else if second.isNaN then
    second.quiet
  else
    let result := ofFloat (operation first.toFloat second.toFloat)
    if result.isNaN then invalid else result

instance : Add Binary64 :=
  ⟨combine (· + ·)⟩

instance : Sub Binary64 :=
  ⟨combine (· - ·)⟩

instance : Mul Binary64 :=
  ⟨combine (· * ·)⟩

/-- A finite magnitude, equal to `mantissa * 2 ^ exponent`. -/
structure Magnitude where
  mantissa : Nat
  exponent : Int
  deriving DecidableEq, Repr

/-- The exact magnitude of a finite value. -/
def magnitude? (word : Binary64) : Option Magnitude :=
  let exponentField : Nat := word.magnitudeBits / exponentPlace
  let fraction : Nat := word.magnitudeBits % exponentPlace
  if exponentField = 2047 then
    none
  else if exponentField = 0 then
    some ⟨fraction, -1074⟩
  else
    some ⟨fraction + exponentPlace, (exponentField : Int) - 1075⟩

/-- The greatest whole number that is not above the magnitude. -/
def Magnitude.floor (magnitude : Magnitude) : Nat :=
  if 0 ≤ magnitude.exponent then
    magnitude.mantissa * Nat.pow 2 magnitude.exponent.toNat
  else
    magnitude.mantissa / Nat.pow 2 (-magnitude.exponent).toNat

/-- The least whole number that is not below the magnitude. -/
def Magnitude.ceil (magnitude : Magnitude) : Nat :=
  if 0 ≤ magnitude.exponent then
    magnitude.mantissa * Nat.pow 2 magnitude.exponent.toNat
  else
    let unit := Nat.pow 2 (-magnitude.exponent).toNat
    (magnitude.mantissa + (unit - 1)) / unit

/-- Turn a value into a word by a rounding of magnitudes. Values below zero and
the value that is not a number become zero; values past the greatest word
become that word. -/
def toWord (round : Magnitude → Nat) (value : Float) : Nat :=
  if value.isNaN || (ofFloat value).hasSign then
    0
  else
    match (ofFloat value).magnitude? with
    | none => greatestWord
    | some magnitude => min greatestWord (round magnitude)

/-- Round down to a word. -/
def floorWord : Float → Nat :=
  toWord Magnitude.floor

/-- Round up to a word. -/
def ceilWord : Float → Nat :=
  toWord Magnitude.ceil

/-- The value if it is above zero, and zero otherwise; a value that is not a
number becomes zero. -/
def atLeastZero (value : Float) : Float :=
  if 0 < value then value else 0

/-- The value if it is below the limit, and the limit otherwise. -/
def atMost (limit value : Float) : Float :=
  if value < limit then value else limit

/-- Move a value into an interval; a value that is not a number stays. -/
def clamp (low high : Float) (word : Binary64) : Binary64 :=
  if word.toFloat < low then ofFloat low
  else if high < word.toFloat then ofFloat high
  else word

/-- Whatever the rounding, the result is a word. -/
theorem toWord_le (round : Magnitude → Nat) (value : Float) :
    toWord round value ≤ greatestWord := by
  unfold toWord
  split
  · exact Nat.zero_le _
  · split
    · exact Nat.le_refl _
    · exact Nat.min_le_left _ _

end Binary64

end PoolArbiter

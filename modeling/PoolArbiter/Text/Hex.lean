/-!
# Hexadecimal text

Numbers and bytes written in base sixteen with small letters.
-/

namespace PoolArbiter.Hex

/-- The base-sixteen digits of a number, with zeros in front up to a width. -/
def ofNat (width number : Nat) : String :=
  let digits := Nat.toDigits 16 number
  String.ofList (List.replicate (width - digits.length) '0' ++ digits)

/-- Two digits for each byte. -/
def ofBytes (bytes : List UInt8) : String :=
  String.join (bytes.map fun byte => ofNat 2 byte.toNat)

end PoolArbiter.Hex

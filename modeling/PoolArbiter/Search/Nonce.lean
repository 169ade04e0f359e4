import PoolArbiter.Outcome
import PoolArbiter.Search.Range
import PoolArbiter.Search.Sha256

/-!
# Nonce search

A worker looks for a nonce whose digest, taken over the payload and the eight
bytes of the nonce, starts with enough zero bits. It scans a range of nonces
from its low end and gives up after a budget.
-/

namespace PoolArbiter

namespace Nonce

/-- The greatest nonce. -/
def greatest : Nat :=
  0xFFFFFFFFFFFFFFFF

/-- The eight bytes of a nonce, least byte first. -/
def bytes (nonce : Nat) : List UInt8 :=
  Sha256.littleEndian 8 nonce

/-- Number of zero bits in front of the highest set bit of a byte. -/
def leadingZerosOfByte (byte : UInt8) : Nat :=
  if byte = 0 then 8 else 7 - byte.toNat.log2

/-- Number of zero bits at the start of a list of bytes. -/
def leadingZeroBits : List UInt8 → Nat
  | [] => 0
  | byte :: rest => if byte = 0 then 8 + leadingZeroBits rest else leadingZerosOfByte byte

/-- Whether a nonce answers a payload at a difficulty. -/
def qualifies (payload : Payload) (difficulty nonce : Nat) : Bool :=
  difficulty ≤ leadingZeroBits (Sha256.digest (payload.bytes ++ bytes nonce))

/-- The last nonce of a scan: the end of the range, of the budget or of the
nonces, whichever comes first. -/
def scanEnd (range : SearchRange) (budget : Nat) : Nat :=
  min range.hi (min (range.lo + (budget - 1)) greatest)

/-- Number of nonces in a scan that finds nothing. -/
def scanLength (range : SearchRange) (budget : Nat) : Nat :=
  scanEnd range budget + 1 - range.lo

/-- The first of `count` nonces from `start` that satisfies a test. -/
def firstFrom (test : Nat → Bool) : (count start : Nat) → Option Nat
  | 0, _ => none
  | count + 1, start => if test start then some start else firstFrom test count (start + 1)

/-- Scan a range. The result is the outcome and the number of nonces tried. -/
def search (payload : Payload) (range : SearchRange) (difficulty budget : Nat) :
    Outcome × Nat :=
  let count := scanLength range budget
  match firstFrom (qualifies payload difficulty) count range.lo with
  | some nonce => (.found (bytes nonce), nonce + 1 - range.lo)
  | none => (.exhausted, count)

end Nonce

end PoolArbiter

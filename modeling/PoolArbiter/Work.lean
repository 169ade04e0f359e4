import PoolArbiter.Tier

/-!
# Work items

A work item is a payload to search for, with the tier it was submitted at and
the round of its submission. `Payload.fault?` says which payloads are refused
and why; the first fault in the order of the tests is the one reported.
-/

namespace PoolArbiter

/-- Number of a worker slot in the pool. -/
abbrev WorkerId := Nat

/-- Number given to a work item when it is submitted. -/
abbrev WorkId := Nat

/-- Number of a decision round; the first one is round 1. -/
abbrev Round := Nat

/-- Search target handed to a worker; its bytes mean nothing to the arbiter. -/
structure Payload where
  bytes : List UInt8
  deriving DecidableEq, Repr

/-- What makes a work item unacceptable. -/
inductive ItemFault where
  | unknownTier (name : String)
  | emptyPayload
  | oversizedPayload (size limit : Nat)
  | allZeroPayload
  | reservedPayload (word : Nat)
  deriving DecidableEq, Repr

namespace Payload

/-- Leading words that mark a payload as corrupt. -/
def reservedWords : List Nat :=
  [0xDEADBEEF, 0xFFFFFFFF]

/-- The first four bytes, read as a number with its least byte first. -/
def leadingWord? (payload : Payload) : Option Nat :=
  match payload.bytes with
  | first :: second :: third :: fourth :: _ =>
      some (first.toNat + 0x100 * second.toNat + 0x10000 * third.toNat +
        0x1000000 * fourth.toNat)
  | _ => none

/-- The first four bytes, if they spell a reserved word. -/
def reservedWord? (payload : Payload) : Option Nat :=
  payload.leadingWord?.filter fun word => reservedWords.contains word

/-- The first reason to refuse a payload: it is empty, it is longer than the
limit, all its bytes are zero, or it starts with a reserved word. -/
def fault? (payload : Payload) (limit : Nat) : Option ItemFault :=
  if payload.bytes.isEmpty then
    some .emptyPayload
  else if limit < payload.bytes.length then
    some (.oversizedPayload payload.bytes.length limit)
  else if payload.bytes.all (· == 0) then
    some .allZeroPayload
  else
    payload.reservedWord?.map .reservedPayload

end Payload

/-- A unit of search work. -/
structure WorkItem where
  id : WorkId
  tier : Tier
  payload : Payload
  submittedRound : Round
  deriving DecidableEq, Repr

end PoolArbiter

import PoolArbiter.Proofs.Admission.Room
import PoolArbiter.Proofs.Words.Bytes

/-!
# What the queues refuse

A payload is valid if there is something to search for: it is not empty, fits into the limit,
has a byte that is not zero, and does not start with a reserved word. The queues refuse a new
item for an invalid payload first and for a full tier second, and they refuse to withdraw a
number that is not queued.
-/

namespace PoolArbiter

namespace Payload

/-- A payload that may be searched for. -/
structure IsValid (limit : Nat) (payload : Payload) : Prop where
  nonempty : payload.bytes ≠ []
  fits : payload.bytes.length ≤ limit
  nonzero : ∃ byte ∈ payload.bytes, byte ≠ 0
  /-- The first four bytes, if there are as many, spell no reserved word. -/
  unreserved : 4 ≤ payload.bytes.length →
    littleEndianValue (payload.bytes.take 4) ≠ 0xDEADBEEF ∧
      littleEndianValue (payload.bytes.take 4) ≠ 0xFFFFFFFF

variable {payload : Payload} {limit : Nat}

/-- The leading word is the number that the first four bytes spell, the least place first. -/
theorem leadingWord?_eq (payload : Payload) :
    payload.leadingWord? =
      if 4 ≤ payload.bytes.length then some (littleEndianValue (payload.bytes.take 4))
      else none := by
  obtain ⟨bytes⟩ := payload
  rcases bytes with _ | ⟨first, _ | ⟨second, _ | ⟨third, _ | ⟨fourth, rest⟩⟩⟩⟩
  case cons.cons.cons.cons =>
    have long : 4 ≤ (first :: second :: third :: fourth :: rest).length :=
      Nat.le_add_left 4 rest.length
    rw [if_pos long, leadingWord?]
    simp only [littleEndianValue, List.take_succ_cons, List.take_zero, List.map_cons,
      List.map_nil, Nat.ofDigits_cons, Nat.ofDigits_nil]
    exact congrArg some (by omega)
  all_goals rfl

/-- A payload is not reserved if it is too short for a word or its leading word is none of the two
reserved ones. -/
theorem reservedWord?_eq_none_iff :
    payload.reservedWord? = none ↔
      (4 ≤ payload.bytes.length →
        littleEndianValue (payload.bytes.take 4) ≠ 0xDEADBEEF ∧
          littleEndianValue (payload.bytes.take 4) ≠ 0xFFFFFFFF) := by
  rw [reservedWord?, leadingWord?_eq]
  split
  next long => simp [reservedWords, long]
  next short => simp [short]

/-- A payload without a fault is a valid one. -/
theorem fault?_eq_none_iff : payload.fault? limit = none ↔ payload.IsValid limit := by
  unfold fault?
  split
  next empty =>
    exact iff_of_false nofun fun valid => valid.nonempty (List.isEmpty_iff.1 empty)
  next nonempty =>
    split
    next long => exact iff_of_false nofun fun valid => absurd valid.fits (Nat.not_le_of_lt long)
    next short =>
      split
      next zero =>
        refine iff_of_false nofun fun valid => ?_
        obtain ⟨byte, member, nonzero⟩ := valid.nonzero
        exact nonzero (by simpa using List.all_eq_true.1 zero byte member)
      next nonzero =>
        rw [Option.map_eq_none_iff, reservedWord?_eq_none_iff]
        refine ⟨fun unreserved => ⟨?_, Nat.le_of_not_lt short, ?_, unreserved⟩,
          IsValid.unreserved⟩
        · exact fun empty => nonempty (List.isEmpty_iff.2 empty)
        · simpa using nonzero

end Payload

namespace AdmissionQueues

variable {queues next : AdmissionQueues} {item : WorkItem} {work : WorkId}

/-- The queues answer a new item by its payload first and by its tier second. -/
theorem enqueue_of_isValid (item : WorkItem)
    (valid : item.payload.IsValid queues.payloadLimit) :
    queues.enqueue item =
      if queues.capacity item.tier ≤ queues.depth item.tier then .error (.queueFull item.tier)
      else .ok (queues.withItems item.tier (queues.items item.tier ++ [item])) := by
  rw [enqueue, Payload.fault?_eq_none_iff.2 valid]

/-- The queues refuse an item whose payload is not valid. -/
theorem enqueue_of_not_isValid (item : WorkItem)
    (invalid : ¬ item.payload.IsValid queues.payloadLimit) :
    ∃ fault, queues.enqueue item = .error (.invalidItem fault) := by
  cases found : item.payload.fault? queues.payloadLimit with
  | none => exact absurd (Payload.fault?_eq_none_iff.1 found) invalid
  | some fault => exact ⟨fault, by rw [enqueue, found]⟩

/-- Only a number that is not queued cannot be withdrawn. -/
theorem withdraw?_eq_none_iff :
    queues.withdraw? work = none ↔ ∀ tier, ∀ item ∈ queues.items tier, item.id ≠ work := by
  constructor
  · intro refused tier item member named
    -- Some tier holds the number, so the first such tier and the first such item are found.
    have holds : (queues.tierOf? work).isSome := by
      refine List.find?_isSome.2 ⟨tier, tier.mem_all, ?_⟩
      exact List.any_eq_true.2 ⟨item, member, beq_iff_eq.2 named⟩
    obtain ⟨first, found⟩ := Option.isSome_iff_exists.1 holds
    have present : (queues.items first).any (·.id == work) = true :=
      List.find?_some (p := fun tier => (queues.items tier).any (·.id == work)) found
    obtain ⟨taken, foundItem⟩ :=
      Option.isSome_iff_exists.1 (List.find?_isSome.2 (List.any_eq_true.1 present))
    simp [withdraw?, found, foundItem] at refused
  · intro absent
    cases taken : queues.withdraw? work with
    | none => rfl
    | some entry =>
        obtain ⟨named, tier, before, after, items, _⟩ := withdraw?_eq_some taken
        exact absurd named (absent tier entry.1 (by simp [items]))

/-- Admission leaves the limit of the payloads alone. -/
theorem payloadLimit_enqueue (accepted : queues.enqueue item = .ok next) :
    next.payloadLimit = queues.payloadLimit := by
  rw [enqueue_eq_ok accepted]
  rfl

/-- A withdrawal leaves the limit of the payloads alone. -/
theorem payloadLimit_withdraw? (withdrawn : queues.withdraw? work = some (item, next)) :
    next.payloadLimit = queues.payloadLimit := by
  obtain ⟨_, _, _, _, _, rfl⟩ := withdraw?_eq_some withdrawn
  rfl

end AdmissionQueues

end PoolArbiter

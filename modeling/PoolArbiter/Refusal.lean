import PoolArbiter.Configuration.Validity
import PoolArbiter.Text.Hex
import PoolArbiter.Work

/-!
# Refusals

Every way in which an operation of the arbiter can fail, by cause, with the text
that is shown for it. The texts of a malformed document and of an unreadable file
come from elsewhere and are not part of the cause.
-/

namespace PoolArbiter

/-- The text of an unacceptable item. -/
def ItemFault.message : ItemFault → String
  | .unknownTier name => "unknown tier '" ++ name ++ "'"
  | .emptyPayload => "empty payload"
  | .oversizedPayload size limit =>
      "payload is " ++ toString size ++ " bytes, limit is " ++ toString limit
  | .allZeroPayload => "all-zero payload"
  | .reservedPayload word => "payload prefix 0x" ++ Hex.ofNat 8 word ++ " is reserved"

/-- Why an operation is refused. -/
inductive Refusal where
  /-- The queue of a tier is full. -/
  | queueFull (tier : Tier)
  /-- The item itself is unacceptable. -/
  | invalidItem (fault : ItemFault)
  /-- The lockdown halts admission. -/
  | lockdown
  /-- There is no worker of this number. -/
  | unknownWorker (worker : WorkerId)
  /-- No queue holds an item of this number. -/
  | notQueued (work : WorkId)
  /-- The configuration breaks a constraint. -/
  | invalidConfiguration (fault : ConfigurationFault)
  /-- A configuration document cannot be read. -/
  | malformedDocument
  /-- A configuration file cannot be opened. -/
  | unreadableFile

namespace Refusal

/-- The text of a refusal. -/
def message : Refusal → String
  | .queueFull tier => "admission rejected: " ++ tier.name ++ " queue is full"
  | .invalidItem fault => "invalid work item: " ++ fault.message
  | .lockdown => "security lockdown active, admission halted"
  | .unknownWorker worker => "unknown worker: " ++ toString worker
  | .notQueued work => "work item not queued: " ++ toString work
  | .invalidConfiguration fault => "config error: " ++ fault.message
  | .malformedDocument => "config parse error"
  | .unreadableFile => "config I/O error"

/-- Whether a refusal ends the caller's loop: only the lockdown does. -/
def isFatal : Refusal → Bool
  | .lockdown => true
  | _ => false

end Refusal

/-- The tier named by a text, or the refusal of an item that names it. -/
def Tier.read (text : String) : Except Refusal Tier :=
  match Tier.ofText? text with
  | some tier => .ok tier
  | none => .error (.invalidItem (.unknownTier text.toLower))

/-- Refuse an unacceptable payload. -/
def Payload.check (payload : Payload) (limit : Nat) : Except Refusal Unit :=
  match payload.fault? limit with
  | none => .ok ()
  | some fault => .error (.invalidItem fault)

/-- Refuse an unacceptable configuration. -/
def Configuration.check (config : Configuration) : Except Refusal Unit :=
  match config.fault? with
  | none => .ok ()
  | some fault => .error (.invalidConfiguration fault)

end PoolArbiter

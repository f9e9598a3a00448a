import Mathlib.Data.Nat.Basic

/-! # Foreign-storage deposits

A deposit is one file that a *depositor* node cuts into encrypted chunks and leaves on the disk of a *host* node.
-/

namespace NexusGrid.Storage

/-- The `status` column. -/
inductive DepositStatus
  | offeringMulti
  | queuedOffline
  | offered
  | accepted
  | declined
  | rejected
  | transferring
  | paused (reason : String)
  | stored
  | evictionRequested
  | evictingToCloud
  | inDbGrace
  | rescuedEncrypted
  | completed
  | withdrawn
  | failedInTransit
  | purged
deriving DecidableEq

namespace DepositStatus

/-- `{"stored", "withdrawn", "failed_in_transit", "purged"}`. -/
def settled : DepositStatus → Bool
  | stored | withdrawn | failedInTransit | purged => true
  | _ => false

/-- `{"stored", "withdrawn", "purged"}`: what `_persist_failed_in_transit` leaves alone. -/
def kept : DepositStatus → Bool
  | stored | withdrawn | purged => true
  | _ => false

/-- The pauses from which `_foreign_storage_transit_retry_pass` asks for a resume. -/
def retryable : DepositStatus → Bool
  | paused reason => reason ∈ ["send_failed", "silent", "host_shutdown", "host_down"]
  | _ => false

/-- The `in_flight_states` of `_broadcast_storage_pause_on_shutdown`. -/
def inFlight : DepositStatus → Bool
  | transferring => true
  | paused reason => reason ∈
      ["send_failed", "silent", "host_shutdown", "host_down", "depositor_shutdown", "depositor_down"]
  | _ => false

end DepositStatus

def chunkPlaintextBytes : Nat := 64 * 1024

/-- The number of chunks of a file of `fileSize` bytes. -/
def chunkCount (fileSize : Nat) : Nat := (fileSize + chunkPlaintextBytes - 1) / chunkPlaintextBytes

/-- When reading at the offset of chunk `idx` returns bytes. -/
theorem lt_chunkCount_iff (fileSize idx : Nat) : idx < chunkCount fileSize ↔ idx * chunkPlaintextBytes < fileSize := by
  unfold chunkCount chunkPlaintextBytes
  omega

/-- The settings and row overrides that the transfer reads. -/
structure Setup where
  fileSize : Nat
  /-- The row's `window_chunks`, `0` for the node setting. -/
  windowChunks : Nat
  /-- `storage_window_chunks`. -/
  storageWindowChunks : Nat
  /-- The row's `transit_retries`, `0` for the node setting. -/
  transitRetries : Nat
  /-- `fs_transit_max_retries`. -/
  fsTransitMaxRetries : Nat
deriving DecidableEq

namespace Setup

/-- The `chunk_count` of both rows. -/
def chunks (c : Setup) : Nat := chunkCount c.fileSize

/-- The row's own value, then the node's, clamped. -/
def window (c : Setup) : Nat :=
  let window :=
    if c.windowChunks = 0 then
      (if c.storageWindowChunks = 0 then 32 else c.storageWindowChunks)
    else c.windowChunks
  max 1 (min 128 window)

/-- `fs_transit_max_retries` as it is read, `0` meaning `5`. -/
def maxRetries (c : Setup) : Nat := if c.fsTransitMaxRetries = 0 then 5 else c.fsTransitMaxRetries

/-- The number of missing-chunks rounds `_handle_missing_chunks` allows. -/
def missingRoundCap (c : Setup) : Nat :=
  if c.transitRetries = 0 then max 1 c.maxRetries else max 1 (min 20 c.transitRetries)

/-- The number of resume requests `_foreign_storage_transit_retry_pass` allows. -/
def transitRetryCap (c : Setup) : Nat := if c.transitRetries = 0 then c.maxRetries else c.transitRetries

end Setup

end NexusGrid.Storage

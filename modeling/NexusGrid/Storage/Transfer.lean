import Mathlib.Data.List.Sort
import NexusGrid.Lib.Run
import NexusGrid.Storage.Pump

/-! # The transfer of a deposit

The depositor and the host of one deposit run separate state machines over a network that may delay, reorder, lose and
repeat frames.
-/

namespace NexusGrid.Storage

open Lib

/-- Frames from the depositor to the host. -/
inductive HostFrame
  | chunk (chunkIdx : Nat)
  | complete
  | resumeRequest
  | pause (reason : String)
  | offerCancelled
  | deleteNow
deriving DecidableEq

inductive DepositorFrame
  | offerResponse (accepted : Bool)
  | chunkAck (chunkIdx : Nat) (ok : Bool) (reason : String)
  | missingChunks (missing : List Nat)
  | resumeReply (receivedChunks : List Nat)
  | pause (reason : String)
deriving DecidableEq

/-- The host's entry in `STATE.foreign_storage_pumps`. -/
structure HostPump where
  chunkCount : Nat
  /-- `pump["received_idx"] + 1`. -/
  received : Nat
deriving DecidableEq

/-- The host's row, its pump entry and the indices of its chunk files. -/
structure Host where
  status : DepositStatus
  chunkCount : Nat
  pump : Option HostPump
  disk : List Nat
deriving DecidableEq

/-- How `_write_bytes` ends. -/
inductive WriteOutcome
  | written
  | failed (leftover : Bool)
deriving DecidableEq

namespace Host

/-- `foreign_storage_respond`: accept or decline a pending offer. -/
def respond (h : Host) (accept : Bool) : Host × List DepositorFrame :=
  if h.status = .offered then
    if accept then
      ({ h with status := .accepted, pump := some ⟨h.chunkCount, 0⟩ }, [.offerResponse true])
    else ({ h with status := .declined }, [.offerResponse false])
  else (h, [])

def receiveChunk (h : Host) (idx : Nat) (write : WriteOutcome) : Host × List DepositorFrame :=
  match h.pump with
  | none => (h, [.chunkAck idx false "no_pump"])
  | some pump =>
    if pump.chunkCount ≠ 0 ∧ pump.chunkCount ≤ idx then
      (h, [.chunkAck idx false "out_of_range"])
    else match write with
      | .failed leftover =>
        ({ h with disk := if leftover then h.disk.insert idx else h.disk }, [.chunkAck idx false "io_error"])
      | .written =>
        ({ h with
            disk := h.disk.insert idx,
            pump := some { pump with received := max pump.received (idx + 1) } },
          [.chunkAck idx true ""])

def scanReceivedChunks (h : Host) : List Nat := h.disk.insertionSort (· ≤ ·)

def handleComplete (h : Host) : Host × List DepositorFrame :=
  let received := h.scanReceivedChunks
  let missing := (List.range h.chunkCount).filter (fun i => i ∉ received)
  if 0 < h.chunkCount ∧ received = [] then (h, [.missingChunks (List.range h.chunkCount)])
  else if missing ≠ [] then (h, [.missingChunks missing])
  else ({ h with status := .stored }, [])

/-- `_handle_resume_request` rebuilds a lost pump entry and replies. -/
def handleResumeRequest (h : Host) : Host × List DepositorFrame :=
  let received := h.scanReceivedChunks
  let pump := h.pump.getD ⟨h.chunkCount, (received.getLast?.map (· + 1)).getD 0⟩
  ({ h with pump := some pump }, [.resumeReply received])

/-- `_handle_delete_now` finds the files through the pump entry. -/
def handleDeleteNow (h : Host) : Host :=
  { h with status := .purged, pump := none, disk := if h.pump.isSome then [] else h.disk }

def receive (h : Host) (write : WriteOutcome) : HostFrame → Host × List DepositorFrame
  | .chunk idx => h.receiveChunk idx write
  | .complete => h.handleComplete
  | .resumeRequest => h.handleResumeRequest
  | .pause reason => (if h.status.settled then h else { h with status := .paused reason }, [])
  | .offerCancelled => (if h.status = .offered ∨ h.status = .accepted then { h with status := .withdrawn } else h, [])
  | .deleteNow => (h.handleDeleteNow, [])

/-- The process restarts and the pump entry is gone. -/
def restart (h : Host) (orderly : Bool) : Host × List DepositorFrame := ({ h with pump := none },
    if orderly && h.status.inFlight then [.pause "host_shutdown"] else [])

end Host

structure Depositor where
  status : DepositStatus
  transferredChunks : Nat
  retryCount : Nat
  keyCached : Bool
  /-- `STATE.foreign_storage_missing_rounds`. -/
  missingRounds : Nat
  pumps : List Pump
  /-- The last one started. -/
  current : Option Nat

namespace Depositor

/-- Start a `transfer_deposit`; it registers itself as the deposit's pump. -/
def launch (c : Setup) (d : Depositor) (kind : PumpKind) (sendPlan : List Nat) : Depositor :=
  { d with
    pumps := d.pumps ++ [Pump.start kind sendPlan c.window], current := some d.pumps.length }

/-- Let pump `k` take a step. -/
def updatePump (d : Depositor) (k : Nat) (f : Pump → Pump) : Depositor :=
  match d.pumps[k]? with
  | none => d
  | some p => { d with pumps := d.pumps.set k (f p) }

/-- `_handle_offer_response` for the host of this deposit. -/
def handleOfferResponse (c : Setup) (d : Depositor) (accepted : Bool) : Depositor × List HostFrame :=
  match d.status, accepted with
  | .transferring, true | .stored, true => (d, [.offerCancelled])
  | .offeringMulti, false => ({ d with status := .withdrawn }, [])
  | _, false => ({ d with status := .declined }, [])
  | _, true =>
    let d := { d with status := .transferring }
    (if d.keyCached then d.launch c .initial (List.range c.chunks) else d, [])

def recordChunkAck (d : Depositor) (idx : Nat) (ok : Bool) : Depositor :=
  match d.current with
  | none => d
  | some k => d.updatePump k (·.recordChunkAck idx ok)

def handleResumeReply (c : Setup) (d : Depositor) (received : List Nat) : Depositor :=
  let missing := (List.range c.chunks).filter (fun i => i ∉ received)
  if missing = [] then { d with status := .stored }
  else
    let d := { d with status := .transferring, transferredChunks := received.foldl max 0 }
    if d.keyCached then d.launch c .resume missing else d

def handleMissingChunks (c : Setup) (d : Depositor) (missing : List Nat) : Depositor × List HostFrame :=
  let missing := missing.dedup.insertionSort (· ≤ ·)
  if d.status.settled then (d, [])
  else if missing = [] then ({ d with status := .stored, missingRounds := 0 }, [])
  else if c.missingRoundCap < d.missingRounds + 1 then
    ({ d with status := .failedInTransit, keyCached := false, missingRounds := 0 }, [.deleteNow])
  else
    let d := { d with missingRounds := d.missingRounds + 1 }
    (if d.keyCached then d.launch c .missing missing else d, [])

def receive (c : Setup) (d : Depositor) : DepositorFrame → Depositor × List HostFrame
  | .offerResponse accepted => d.handleOfferResponse c accepted
  | .chunkAck idx ok _ => (d.recordChunkAck idx ok, [])
  | .missingChunks missing => d.handleMissingChunks c missing
  | .resumeReply received => (d.handleResumeReply c received, [])
  | .pause reason => (if d.status.settled then d else { d with status := .paused reason }, [])

/-- The send step of pump `k`. -/
def pumpSend (c : Setup) (d : Depositor) (k : Nat) (outcome : Pump.SendOutcome) : Depositor × List HostFrame :=
  match d.pumps[k]? with
  | none => (d, [])
  | some p =>
    let (p, chunk) := p.send c.fileSize outcome
    ({ d with pumps := d.pumps.set k p }, (chunk.map HostFrame.chunk).toList)

/-- The end of `transfer_deposit` for pump `k`, and what its caller sends on `True`. -/
def pumpReturn (d : Depositor) (k : Nat) : Depositor × List HostFrame :=
  match d.pumps[k]? with
  | none => (d, [])
  | some p =>
    if p.drained then
      -- `_persist_acked_progress`
      let d := { d with transferredChunks := max d.transferredChunks p.acked }
      let leave (phase : PumpPhase) := d.pumps.set k { p with phase }
      match p.failure, p.kind with
      | some .fileChanged, _ =>
        ({ d with
            status := if d.status.kept then d.status else .failedInTransit,
            keyCached := false, pumps := leave .returned }, [.deleteNow])
      | some _, _ =>
        ({ d with
            status := if d.status.settled then d.status else .paused "send_failed",
            pumps := leave .returned }, [.pause "send_failed"])
      | none, .initial => ({ d with pumps := leave .completing }, [.complete])
      | none, .missing => ({ d with pumps := leave .returned }, [.complete])
      | none, .resume => ({ d with pumps := leave .returned }, [])
    else (d, [])

/-- The end of `_run_transfer`: the row becomes `stored`. -/
def markStored (d : Depositor) (k : Nat) : Depositor :=
  match d.pumps[k]? with
  | none => d
  | some p =>
    if p.kind = .initial ∧ p.phase = .completing then
      { d with status := .stored, pumps := d.pumps.set k { p with phase := .returned } }
    else d

/-- `_foreign_storage_transit_retry_pass`. -/
def transitRetryPass (c : Setup) (d : Depositor) (reachable : Bool) : Depositor × List HostFrame :=
  if d.status.retryable then
    if c.transitRetryCap ≤ d.retryCount then
      ({ d with status := .failedInTransit, keyCached := false }, [.deleteNow])
    else if d.keyCached && reachable then
      ({ d with retryCount := d.retryCount + 1 }, [.resumeRequest])
    else (d, [])
  else (d, [])

/-- `foreign_storage_delete`. -/
def delete (d : Depositor) : Depositor × List HostFrame :=
  if d.status = .offeringMulti then
    ({ d with status := .withdrawn, keyCached := false }, [.offerCancelled])
  else ({ d with status := .withdrawn }, [.deleteNow])

def restart (d : Depositor) (orderly : Bool) : Depositor × List HostFrame :=
  ({ d with keyCached := false, missingRounds := 0, pumps := [], current := none },
    if orderly && d.status.inFlight then [.pause "depositor_shutdown"] else [])

/-- `foreign_storage_resume`: the user unlocks the key again, with the file as deposited. -/
def resume (d : Depositor) : Depositor :=
  if d.status.settled then d else { d with keyCached := true, retryCount := 0 }

end Depositor

/-- Both parties, every frame sent, and whether an end was issued. -/
structure Sys where
  depositor : Depositor
  host : Host
  toHost : List HostFrame
  toDepositor : List DepositorFrame
  deleteIssued : Bool

def Sys.init (c : Setup) : Sys where
  depositor := ⟨.offered, 0, 0, true, 0, [], none⟩
  host := ⟨.offered, c.chunks, none, []⟩
  toHost := []
  toDepositor := []
  deleteIssued := false

inductive TransferEvent
  | hostRespond (accept : Bool)
  /-- `write` is how the disk behaves for a chunk. -/
  | hostReceive (i : Nat) (write : WriteOutcome)
  | hostRestart (orderly : Bool)
  | hostPurge
  /-- Frame number `i` to the depositor arrives. -/
  | depositorReceive (i : Nat)
  | pumpAcquire (k : Nat)
  | pumpSend (k : Nat) (outcome : Pump.SendOutcome)
  | ackDone (k idx : Nat)
  | ackTimeout (k idx : Nat)
  | pumpReturn (k : Nat)
  | markStored (k : Nat)
  | pumpCrash (k : Nat)
  | transitRetryPass (reachable : Bool)
  | userDelete
  | userResume
  | depositorRestart (orderly : Bool)
deriving DecidableEq

namespace Sys

def hostStep (s : Sys) (r : Host × List DepositorFrame) : Sys :=
  { s with host := r.1, toDepositor := s.toDepositor ++ r.2 }

def depositorStep (s : Sys) (r : Depositor × List HostFrame) : Sys :=
  { s with
    depositor := r.1, toHost := s.toHost ++ r.2,
    deleteIssued := s.deleteIssued || r.2.contains .deleteNow }

def step (c : Setup) (s : Sys) : TransferEvent → Sys
  | .hostRespond accept => s.hostStep (s.host.respond accept)
  | .hostReceive i write =>
    match s.toHost[i]? with
    | none => s
    | some frame => s.hostStep (s.host.receive write frame)
  | .hostRestart orderly => s.hostStep (s.host.restart orderly)
  | .hostPurge => { s with host := { s.host with status := .purged, disk := [] }, deleteIssued := true }
  | .depositorReceive i =>
    match s.toDepositor[i]? with
    | none => s
    | some frame => s.depositorStep (s.depositor.receive c frame)
  | .pumpAcquire k => s.depositorStep (s.depositor.updatePump k (·.acquire), [])
  | .pumpSend k outcome => s.depositorStep (s.depositor.pumpSend c k outcome)
  | .ackDone k idx => s.depositorStep (s.depositor.updatePump k (·.ackDone idx), [])
  | .ackTimeout k idx => s.depositorStep (s.depositor.updatePump k (·.ackTimeout idx), [])
  | .pumpReturn k => s.depositorStep (s.depositor.pumpReturn k)
  | .markStored k => s.depositorStep (s.depositor.markStored k, [])
  | .pumpCrash k => s.depositorStep (s.depositor.updatePump k (fun p => { p with phase := .returned }), [])
  | .transitRetryPass reachable => s.depositorStep (s.depositor.transitRetryPass c reachable)
  | .userDelete => { s.depositorStep s.depositor.delete with deleteIssued := true }
  | .userResume => s.depositorStep (s.depositor.resume, [])
  | .depositorRestart orderly => s.depositorStep (s.depositor.restart orderly)

end Sys

end NexusGrid.Storage

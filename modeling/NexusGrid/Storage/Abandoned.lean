import NexusGrid.Storage.Custody

/-! # The purge of abandoned chunks

`_foreign_storage_abandoned_chunk_purge_pass` deletes chunks that wait for their depositor for more than a day.
-/

namespace NexusGrid.Storage

open Lib

def DepositStatus.abandonable : DepositStatus → Bool
  | transferring => true
  | paused reason => reason ∈ ["send_failed", "silent", "depositor_shutdown", "depositor_down"]
  | _ => false

structure Retention where
  /-- The row's `created_at`, if it has one. -/
  createdAt : Option Nat
  /-- `fs_transit_abandoned_chunk_ttl_hours`. -/
  abandonedChunkTtlHours : Nat
deriving DecidableEq

namespace Retention

/-- The setting as it is read, `0` meaning `24`. -/
def ttlHours (r : Retention) : Nat := if r.abandonedChunkTtlHours = 0 then 24 else r.abandonedChunkTtlHours

def expired (r : Retention) (now : Nat) : Bool :=
  match r.createdAt with
  | none => false
  | some createdAt => createdAt + r.ttlHours * 3600 < now

end Retention

/-- The pass on the host's row: `undeleted` are the files that do not go. -/
def Host.abandonedChunkPurgePass (h : Host) (r : Retention) (now : Nat) (undeleted : List Nat) : Host :=
  if h.status.abandonable && r.expired now then
    { h with status := .withdrawn, disk := h.disk.filter (· ∈ undeleted) }
  else h

inductive PurgeEvent
  | transfer (e : TransferEvent)
  | purgePass (now : Nat) (undeleted : List Nat)
deriving DecidableEq

def Sys.purgeStep (c : Setup) (r : Retention) (s : Sys) : PurgeEvent → Sys
  | .transfer e => s.step c e
  | .purgePass now undeleted => { s with host := s.host.abandonedChunkPurgePass r now undeleted }

/-- A frame that makes the depositor write `stored`. -/
def DepositorFrame.settles (c : Setup) : DepositorFrame → Bool
  | .resumeReply received => (List.range c.chunks).all (· ∈ received)
  | .missingChunks missing => missing = []
  | _ => false

/-- The depositor and the host do not pass each other at `stored`. -/
def Sys.inStep (c : Setup) (s : Sys) : PurgeEvent → Bool
  | .transfer (.depositorReceive i) =>
    match s.toDepositor[i]? with
    | none => true
    | some frame => !frame.settles c || !s.host.status.abandonable
  | .transfer (.markStored k) => (s.depositor.markStored k).status ≠ .stored || !s.host.status.abandonable
  | .transfer (.hostReceive i _) =>
    match s.toHost[i]? with
    | some (.pause reason) =>
      s.depositor.status ≠ .stored || s.host.status.settled || !(DepositStatus.paused reason).abandonable
    | _ => true
  | _ => true

section Depositor

variable {c : Setup} {d : Depositor}

theorem Depositor.stored_of_offerResponse {accepted : Bool}
    (h : (d.handleOfferResponse c accepted).1.status = .stored) : d.status = .stored := by
  unfold handleOfferResponse at h
  split at h
  · exact h
  · exact h
  · cases h
  · cases h
  dsimp only at h
  split at h
  · cases h
  · cases h

theorem Depositor.stored_of_resumeReply {received : List Nat} (h : (d.handleResumeReply c received).status = .stored) :
    (DepositorFrame.resumeReply received).settles c = true := by
  unfold handleResumeReply at h
  dsimp only at h
  split at h
  case isTrue hmissing =>
    simpa [DepositorFrame.settles] using hmissing
  case isFalse =>
    split at h
    · cases h
    · cases h

theorem Depositor.stored_of_missingChunks {missing : List Nat}
    (h : (d.handleMissingChunks c missing).1.status = .stored) :
    d.status = .stored ∨ (DepositorFrame.missingChunks missing).settles c = true := by
  unfold handleMissingChunks at h
  dsimp only at h
  split at h
  · exact .inl h
  split at h
  case isTrue hnil =>
    right
    have hperm := (List.perm_insertionSort (· ≤ ·) missing.dedup).symm
    rw [hnil, List.perm_nil, List.dedup_eq_nil] at hperm
    exact decide_eq_true hperm
  case isFalse =>
    split at h
    · cases h
    split at h
    · exact .inl h
    · exact .inl h

theorem Depositor.stored_of_receive {f : DepositorFrame} (h : (d.receive c f).1.status = .stored) :
    d.status = .stored ∨ f.settles c = true := by
  cases f with
  | offerResponse accepted => exact .inl (stored_of_offerResponse h)
  | chunkAck idx ok reason =>
    left
    simp only [receive, recordChunkAck, updatePump] at h
    split at h
    · exact h
    split at h
    · exact h
    · exact h
  | missingChunks missing => exact stored_of_missingChunks h
  | resumeReply received => exact .inr (stored_of_resumeReply h)
  | pause reason =>
    simp only [receive] at h
    split at h
    · exact .inl h
    · cases h

theorem Depositor.status_updatePump (k : Nat) (f : Pump → Pump) : (d.updatePump k f).status = d.status := by
  unfold updatePump
  split
  · rfl
  · rfl

theorem Depositor.status_pumpSend (k : Nat) (outcome : Pump.SendOutcome) :
    (d.pumpSend c k outcome).1.status = d.status := by
  unfold pumpSend
  split
  · rfl
  · rfl

theorem Depositor.stored_of_pumpReturn {k : Nat} (h : (d.pumpReturn k).1.status = .stored) : d.status = .stored := by
  unfold pumpReturn at h
  split at h
  case h_1 => exact h
  case h_2 p hp =>
    split at h
    case isFalse => exact h
    case isTrue =>
      split at h
      · -- `_persist_failed_in_transit`
        dsimp only at h
        split at h
        · exact h
        · cases h
      · -- `_persist_paused`
        dsimp only at h
        split at h
        · exact h
        · cases h
      · exact h
      · exact h
      · exact h

theorem Depositor.stored_of_transitRetryPass {reachable : Bool}
    (h : (d.transitRetryPass c reachable).1.status = .stored) : d.status = .stored := by
  unfold transitRetryPass at h
  split at h
  case isTrue =>
    split at h
    · cases h
    split at h
    · exact h
    · exact h
  case isFalse => exact h

end Depositor

section Host

variable {h : Host}

theorem Host.abandonable_of_receive {write : WriteOutcome} {f : HostFrame}
    (habandonable : (h.receive write f).1.status.abandonable = true) : h.status.abandonable = true ∨
      ∃ reason, f = .pause reason ∧ h.status.settled = false ∧ (DepositStatus.paused reason).abandonable = true := by
  cases f with
  | chunk idx =>
    left
    simp only [receive, receiveChunk] at habandonable
    split at habandonable
    · exact habandonable
    split at habandonable
    · exact habandonable
    split at habandonable
    · exact habandonable
    · exact habandonable
  | complete =>
    left
    simp only [receive, handleComplete] at habandonable
    split at habandonable
    · exact habandonable
    split at habandonable
    · exact habandonable
    · cases habandonable
  | resumeRequest => exact .inl habandonable
  | pause reason =>
    simp only [receive] at habandonable
    split at habandonable
    case isTrue => exact .inl habandonable
    case isFalse hsettled => exact .inr ⟨reason, rfl, by simpa using hsettled, habandonable⟩
  | offerCancelled =>
    left
    simp only [receive] at habandonable
    split at habandonable
    · cases habandonable
    · exact habandonable
  | deleteNow => cases habandonable

theorem Host.abandonable_of_respond {accept : Bool}
    (habandonable : (h.respond accept).1.status.abandonable = true) : h.status.abandonable = true := by
  unfold respond at habandonable
  split at habandonable
  · split at habandonable
    · cases habandonable
    · cases habandonable
  · exact habandonable

theorem Host.receive_reports {write : WriteOutcome} {f : HostFrame} : .missingChunks [] ∉ (h.receive write f).2 := by
  intro hmem
  by_cases hdelete : f = .deleteNow
  · subst hdelete
    cases hmem
  · exact (h.receive_honest write hdelete).backed _ hmem rfl

end Host

structure Sys.Settled (s : Sys) : Prop where
  rows : s.depositor.status = .stored → s.host.status.abandonable = false
  reports : .missingChunks [] ∉ s.toDepositor

namespace Sys

variable {c : Setup} {r : Retention} {s : Sys}

theorem settled_init (c : Setup) : (Sys.init c).Settled := ⟨nofun, List.not_mem_nil⟩

theorem Settled.hostStep (h : s.Settled) {x : Host × List DepositorFrame}
    (hrows : s.depositor.status = .stored → x.1.status.abandonable = true → s.host.status.abandonable = true)
    (hreports : .missingChunks [] ∉ x.2) : (s.hostStep x).Settled where
  rows hstored := by
    cases habandonable : x.1.status.abandonable with
    | false => exact habandonable
    | true =>
      have hbefore := hrows hstored habandonable
      rw [h.rows hstored] at hbefore
      cases hbefore
  reports hmem := (List.mem_append.mp hmem).elim h.reports hreports

theorem Settled.depositorStep (h : s.Settled) {x : Depositor × List HostFrame}
    (hrows : x.1.status = .stored → s.depositor.status = .stored ∨ s.host.status.abandonable = false) :
    (s.depositorStep x).Settled where
  rows hstored := (hrows hstored).elim h.rows id
  reports := h.reports

theorem Settled.hostReceive (h : s.Settled) (i : Nat) (write : WriteOutcome)
    (hin : s.inStep c (.transfer (.hostReceive i write)) = true) : (s.step c (.hostReceive i write)).Settled := by
  simp only [Sys.step]
  simp only [Sys.inStep] at hin
  cases hf : s.toHost[i]? with
  | none => exact h
  | some f =>
    refine h.hostStep (fun hstored habandonable => ?_) Host.receive_reports
    rcases Host.abandonable_of_receive habandonable with hbefore | ⟨reason, rfl, hsettled, hpause⟩
    · exact hbefore
    rw [hf] at hin
    simp [hstored, hsettled, hpause] at hin

theorem Settled.depositorReceive (h : s.Settled) (i : Nat)
    (hin : s.inStep c (.transfer (.depositorReceive i)) = true) : (s.step c (.depositorReceive i)).Settled := by
  simp only [Sys.step]
  simp only [Sys.inStep] at hin
  cases hf : s.toDepositor[i]? with
  | none => exact h
  | some f =>
    rw [hf] at hin
    refine h.depositorStep fun hstored => ?_
    rcases Depositor.stored_of_receive hstored with hbefore | hsettles
    · exact .inl hbefore
    right
    simpa [hsettles] using hin

theorem Settled.step (h : s.Settled) {e : TransferEvent} (hin : s.inStep c (.transfer e) = true) :
    (s.step c e).Settled := by
  cases e with
  | hostRespond accept =>
    refine h.hostStep (fun _ => Host.abandonable_of_respond) fun hmem => ?_
    exact (s.host.respond_honest accept).backed _ hmem rfl
  | hostReceive i write => exact h.hostReceive i write hin
  | hostRestart orderly =>
    refine h.hostStep (fun _ habandonable => habandonable) fun hmem => ?_
    exact (s.host.restart_honest orderly).backed _ hmem rfl
  | hostPurge => exact ⟨fun _ => rfl, h.reports⟩
  | depositorReceive i => exact h.depositorReceive i hin
  | pumpAcquire k => exact h.depositorStep fun hs => .inl (Depositor.status_updatePump k _ ▸ hs)
  | pumpSend k outcome => exact h.depositorStep fun hs => .inl (Depositor.status_pumpSend k outcome ▸ hs)
  | ackDone k idx => exact h.depositorStep fun hs => .inl (Depositor.status_updatePump k _ ▸ hs)
  | ackTimeout k idx => exact h.depositorStep fun hs => .inl (Depositor.status_updatePump k _ ▸ hs)
  | pumpReturn k => exact h.depositorStep fun hs => .inl (Depositor.stored_of_pumpReturn hs)
  | markStored k =>
    refine h.depositorStep fun hs => .inr ?_
    have hs' : (s.depositor.markStored k).status = .stored := hs
    simpa [inStep, hs'] using hin
  | pumpCrash k => exact h.depositorStep fun hs => .inl (Depositor.status_updatePump k _ ▸ hs)
  | transitRetryPass reachable => exact h.depositorStep fun hs => .inl (Depositor.stored_of_transitRetryPass hs)
  | userDelete =>
    have hdelete : (s.depositor.delete).1.status ≠ .stored := by
      unfold Depositor.delete
      split
      · nofun
      · nofun
    have hstep := h.depositorStep (x := s.depositor.delete) fun hs => absurd hs hdelete
    exact ⟨hstep.rows, hstep.reports⟩
  | userResume =>
    refine h.depositorStep fun hs => .inl ?_
    unfold Depositor.resume at hs
    split at hs
    · exact hs
    · exact hs
  | depositorRestart orderly => exact h.depositorStep fun hs => .inl hs

theorem Settled.purgeStep (h : s.Settled) {e : PurgeEvent} (hin : s.inStep c e = true) :
    (s.purgeStep c r e).Settled := by
  cases e with
  | transfer e => exact h.step hin
  | purgePass now undeleted =>
    refine ⟨fun hstored => ?_, h.reports⟩
    simp only [Sys.purgeStep, Host.abandonedChunkPurgePass]
    split
    · rfl
    · exact h.rows hstored

end Sys

/-- **The purge pass leaves stored deposits alone.** -/
theorem purge_spares_stored (c : Setup) (r : Retention) (es : List PurgeEvent)
    (hes : Along (Sys.purgeStep c r) (fun s e => s.inStep c e = true) (Sys.init c) es) (now : Nat)
    (undeleted : List Nat) (hstored : (run (Sys.purgeStep c r) (Sys.init c) es).depositor.status = .stored) :
    (run (Sys.purgeStep c r) (Sys.init c) (es ++ [.purgePass now undeleted])).host =
      (run (Sys.purgeStep c r) (Sys.init c) es).host := by
  have hsettled : (run (Sys.purgeStep c r) (Sys.init c) es).Settled :=
    run_invariant (fun _ _ hin h => h.purgeStep hin) (Sys.settled_init c) hes
  rw [run_concat]
  show Host.abandonedChunkPurgePass _ r now undeleted = _
  unfold Host.abandonedChunkPurgePass
  rw [hsettled.rows hstored]
  rfl

def aDay : Retention := ⟨some 0, 24⟩

theorem purge_spares_stored_delivered : (run (Sys.purgeStep oneChunk aDay) (Sys.init oneChunk)
        ((deliveredRun .written).map .transfer ++ [.purgePass 100000 []])).host =
      (run (Sys.purgeStep oneChunk aDay) (Sys.init oneChunk) ((deliveredRun .written).map .transfer)).host :=
  purge_spares_stored oneChunk aDay _ (by decide) 100000 [] (by decide)

def resumedRun : List TransferEvent :=
  [.hostRespond true, .depositorReceive 0, .pumpAcquire 0, .pumpSend 0 .sent, .hostReceive 0 .written,
    .pumpAcquire 0, .ackTimeout 0 0, .pumpReturn 0, .hostReceive 1 .written, .transitRetryPass true,
    .hostReceive 2 .written, .depositorReceive 2]

/-- **A stored deposit is purged.** -/
theorem resumed_deposit_purged :
    let es := resumedRun.map PurgeEvent.transfer
    let s := run (Sys.purgeStep oneChunk aDay) (Sys.init oneChunk) es
    let s' := run (Sys.purgeStep oneChunk aDay) (Sys.init oneChunk) (es ++ [.purgePass 100000 []])
    s.depositor.status = .stored ∧ s.host.disk = [0] ∧ s.deleteIssued = false ∧
      s'.depositor.status = .stored ∧ s'.host.disk = [] := by
  decide

end NexusGrid.Storage

import Mathlib.Data.List.Dedup
import NexusGrid.Storage.Transfer

/-! # Custody: a stored deposit is on the host

Why the depositor's row says `stored`.
-/

namespace NexusGrid.Storage

open Lib

def DepositorFrame.BackedBy (disk : List Nat) : DepositorFrame → Prop
  | .chunkAck idx true _ => idx ∈ disk
  | .missingChunks missing => missing ≠ []
  | .resumeReply received => ∀ idx ∈ received, idx ∈ disk
  | _ => True

theorem DepositorFrame.BackedBy.mono {disk disk' : List Nat} (hsub : disk ⊆ disk')
    {f : DepositorFrame} (h : f.BackedBy disk) : f.BackedBy disk' := by
  match f with
  | .chunkAck _ true _ => exact hsub h
  | .chunkAck _ false _ => trivial
  | .missingChunks _ => exact h
  | .resumeReply _ => exact fun idx hidx => hsub (h idx hidx)
  | .offerResponse _ => trivial
  | .pause _ => trivial

/-- The host forgets no chunk and sends only frames that its disk backs. -/
structure Host.Honest (h : Host) (r : Host × List DepositorFrame) : Prop where
  keeps : h.disk ⊆ r.1.disk
  backed : ∀ f ∈ r.2, f.BackedBy r.1.disk

namespace Host

variable (h : Host)

theorem respond_honest (accept : Bool) : h.Honest (h.respond accept) := by
  unfold respond
  split_ifs <;> exact ⟨.refl _, by simp [DepositorFrame.BackedBy]⟩

theorem receiveChunk_honest (idx : Nat) (write : WriteOutcome) : h.Honest (h.receiveChunk idx write) := by
  have hkeeps : h.disk ⊆ h.disk.insert idx := fun i hi => List.mem_insert_of_mem hi
  unfold receiveChunk
  split
  · exact ⟨.refl _, by simp [DepositorFrame.BackedBy]⟩
  split
  · exact ⟨.refl _, by simp [DepositorFrame.BackedBy]⟩
  split
  · refine ⟨?_, by simp [DepositorFrame.BackedBy]⟩
    split_ifs
    · exact hkeeps
    · exact .refl _
  · exact ⟨hkeeps, by simp [DepositorFrame.BackedBy]⟩

theorem handleComplete_honest : h.Honest h.handleComplete := by
  unfold handleComplete
  dsimp only
  split_ifs with hwiped hmissing
  · refine ⟨.refl _, ?_⟩
    simp only [List.mem_singleton, forall_eq, DepositorFrame.BackedBy, ne_eq, List.range_eq_nil]
    omega
  · exact ⟨.refl _, by simpa [DepositorFrame.BackedBy] using hmissing⟩
  · exact ⟨.refl _, by simp⟩

theorem handleResumeRequest_honest : h.Honest h.handleResumeRequest := ⟨.refl _, by
    simp [handleResumeRequest, scanReceivedChunks, DepositorFrame.BackedBy]⟩

theorem receive_honest (write : WriteOutcome) {f : HostFrame} (hf : f ≠ .deleteNow) : h.Honest (h.receive write f) := by
  match f with
  | .chunk idx => exact h.receiveChunk_honest idx write
  | .complete => exact h.handleComplete_honest
  | .resumeRequest => exact h.handleResumeRequest_honest
  | .pause reason => unfold receive; split_ifs <;> exact ⟨.refl _, by simp⟩
  | .offerCancelled => unfold receive; split_ifs <;> exact ⟨.refl _, by simp⟩
  | .deleteNow => exact absurd rfl hf

theorem restart_honest (orderly : Bool) : h.Honest (h.restart orderly) := by
  refine ⟨.refl _, ?_⟩
  unfold restart
  split_ifs <;> simp [DepositorFrame.BackedBy]

end Host

structure Depositor.Backed (c : Setup) (held : Nat → Prop) (d : Depositor) : Prop where
  pumps : ∀ p ∈ d.pumps, p.kind = .initial → p.Sound c.fileSize held
  stored : d.status = .stored → ∀ idx < c.chunks, held idx

namespace Depositor

variable {c : Setup} {held : Nat → Prop} {d : Depositor}

section

variable (h : d.Backed c held)
include h

theorem Backed.mono {held' : Nat → Prop} (hsub : ∀ idx, held idx → held' idx) : d.Backed c held' where
  pumps p hp hkind := (h.pumps p hp hkind).mono hsub
  stored hst idx hidx := hsub idx (h.stored hst idx hidx)

theorem Backed.of_pumps_eq {d' : Depositor} (hpumps : d'.pumps = d.pumps)
    (hstatus : d'.status = d.status ∨ d'.status ≠ .stored) : d'.Backed c held where
  pumps p hp hkind := h.pumps p (hpumps ▸ hp) hkind
  stored hst := by
    rcases hstatus with heq | hne
    · exact h.stored (heq ▸ hst)
    · exact absurd hst hne

theorem Backed.launch (kind : PumpKind) (sendPlan : List Nat)
    (hinit : kind = .initial → sendPlan = List.range c.chunks) : (d.launch c kind sendPlan).Backed c held where
  pumps p hp hkind := by
    simp only [Depositor.launch, List.mem_append, List.mem_singleton] at hp
    rcases hp with hp | rfl
    · exact h.pumps p hp hkind
    have hk : kind = .initial := hkind
    rw [hk, hinit hk]
    exact Pump.sound_start c.window
  stored := h.stored

theorem Backed.set {d' : Depositor} {k : Nat} {q : Pump} (hpumps : d'.pumps = d.pumps.set k q)
    (hq : q.kind = .initial → q.Sound c.fileSize held)
    (hstored : d'.status = .stored → ∀ idx < c.chunks, held idx) : d'.Backed c held where
  pumps p hp hkind := by
    rw [hpumps] at hp
    rcases List.mem_or_eq_of_mem_set hp with hp | rfl
    · exact h.pumps p hp hkind
    · exact hq hkind
  stored := hstored

theorem Backed.sound_of_getElem? {k : Nat} {p : Pump}
    (hp : d.pumps[k]? = some p) (hkind : p.kind = .initial) : p.Sound c.fileSize held :=
  h.pumps p (List.mem_of_getElem? hp) hkind

theorem Backed.updatePump (k : Nat) {f : Pump → Pump} (hkind : ∀ p, (f p).kind = p.kind)
    (hf : ∀ p, d.pumps[k]? = some p → p.kind = .initial → p.Sound c.fileSize held →
      (f p).Sound c.fileSize held) : (d.updatePump k f).Backed c held := by
  unfold Depositor.updatePump
  split
  case h_1 => exact h
  case h_2 p hp =>
    refine h.set rfl (fun hinit => ?_) h.stored
    rw [hkind] at hinit
    exact hf p hp hinit (h.sound_of_getElem? hp hinit)

theorem handleOfferResponse_backed (accepted : Bool) : (d.handleOfferResponse c accepted).1.Backed c held := by
  unfold handleOfferResponse
  split
  · exact h
  · exact h
  · exact h.of_pumps_eq rfl (.inr (by simp))
  · exact h.of_pumps_eq rfl (.inr (by simp))
  have h' : ({ d with status := .transferring } : Depositor).Backed c held := h.of_pumps_eq rfl (.inr (by simp))
  dsimp only
  split_ifs
  · exact h'.launch .initial _ (fun _ => rfl)
  · exact h'

theorem handleResumeReply_backed {received : List Nat}
    (hreceived : ∀ idx ∈ received, held idx) : (d.handleResumeReply c received).Backed c held := by
  unfold handleResumeReply
  dsimp only
  split
  case isTrue hnone =>
    refine ⟨h.pumps, fun _ idx hidx => ?_⟩
    simp only [List.filter_eq_nil_iff, List.mem_range, decide_not, Bool.not_eq_true',
      decide_eq_false_iff_not, Classical.not_not] at hnone
    exact hreceived idx (hnone idx hidx)
  case isFalse =>
    have h' : ({ d with
        status := .transferring, transferredChunks := received.foldl max 0 } : Depositor).Backed
          c held := h.of_pumps_eq rfl (.inr (by simp))
    split_ifs
    · exact h'.launch .resume _ (by simp)
    · exact h'

theorem handleMissingChunks_backed {missing : List Nat}
    (hmissing : missing ≠ []) : (d.handleMissingChunks c missing).1.Backed c held := by
  unfold handleMissingChunks
  dsimp only
  split
  · exact h
  split
  case isTrue hnil =>
    -- an empty report is never sent
    have hdedup : missing.dedup = [] := by simpa using congrArg List.length hnil
    exact absurd ((List.dedup_eq_nil missing).mp hdedup) hmissing
  case isFalse =>
    split
    · exact h.of_pumps_eq rfl (.inr (by simp))
    have h' : ({ d with missingRounds := d.missingRounds + 1 } : Depositor).Backed c held :=
      h.of_pumps_eq rfl (.inl rfl)
    split_ifs
    · exact h'.launch .missing _ (by simp)
    · exact h'

theorem pumpSend_backed (k : Nat) (outcome : Pump.SendOutcome) : (d.pumpSend c k outcome).1.Backed c held := by
  unfold pumpSend
  split
  case h_1 => exact h
  case h_2 p hp =>
    refine h.set (q := (p.send c.fileSize outcome).1) rfl (fun hinit => ?_) h.stored
    rw [Pump.send_kind] at hinit
    exact Pump.send_sound (h.sound_of_getElem? hp hinit) outcome

/-- A pump that returns `True` has delivered the file. -/
theorem pumpReturn_backed (k : Nat) : (d.pumpReturn k).1.Backed c held := by
  unfold pumpReturn
  split
  case h_1 => exact h
  case h_2 p hp =>
    split
    case isFalse => exact h
    case isTrue hdrained =>
      have hreturned (hinit : p.kind = .initial) : ({ p with phase := .returned } : Pump).Sound c.fileSize held :=
        (h.sound_of_getElem? hp hinit).returned
      split
      · refine h.set rfl hreturned fun hst => ?_
        dsimp only at hst
        split_ifs at hst
        exact h.stored hst
      · refine h.set rfl hreturned fun hst => ?_
        dsimp only at hst
        split_ifs at hst
        exact h.stored hst
      case h_3 hfail hinit =>
        -- the initial pump drained without a failure, so the host holds every chunk
        have hsound := h.sound_of_getElem? hp hinit
        have hall := hsound.all_held hdrained hfail
        exact h.set rfl (fun _ => ⟨hsound.events, hsound.planned, by simp, by simp,
          fun _ => hall, fun _ _ idx hidx => .inl (hall idx hidx)⟩) h.stored
      · exact h.set rfl hreturned h.stored
      · exact h.set rfl hreturned h.stored

theorem markStored_backed (k : Nat) : (d.markStored k).Backed c held := by
  unfold markStored
  split
  case h_1 => exact h
  case h_2 p hp =>
    split
    case isFalse => exact h
    case isTrue hcompleting =>
      have hsound := h.sound_of_getElem? hp hcompleting.1
      exact h.set rfl (fun _ => hsound.returned) fun _ => hsound.completes hcompleting.2

theorem transitRetryPass_backed (reachable : Bool) : (d.transitRetryPass c reachable).1.Backed c held := by
  unfold transitRetryPass
  split_ifs
  · exact h.of_pumps_eq rfl (.inr (by simp))
  · exact h.of_pumps_eq rfl (.inl rfl)
  · exact h
  · exact h

theorem resume_backed : d.resume.Backed c held := by
  unfold resume
  split_ifs
  · exact h
  · exact h.of_pumps_eq rfl (.inl rfl)

/-- The index whose event the current pump waits on, when that pump is an initial one. -/
def awaitsInitial (d : Depositor) (idx : Nat) : Bool :=
  match d.current.bind (d.pumps[·]?) with
  | none => false
  | some p => p.kind == .initial && p.ackEvents.get idx == some false

theorem recordChunkAck_backed {idx : Nat} (ok : Bool)
    (hheld : d.awaitsInitial idx = true → held idx) : (d.recordChunkAck idx ok).Backed c held := by
  unfold recordChunkAck
  split
  case h_1 => exact h
  case h_2 k hcurrent =>
    refine h.updatePump k (fun p => p.recordChunkAck_kind idx ok) fun p hp hinit hsound => ?_
    refine Pump.recordChunkAck_sound hsound ok fun hwaits => hheld ?_
    simp [awaitsInitial, hcurrent, hp, hinit, hwaits]

end

/-- Frames that the host's disk backs keep the account. -/
theorem receive_backed {disk : List Nat} (h : d.Backed c (· ∈ disk)) {f : DepositorFrame} (hf : f.BackedBy disk)
    (hnak : ∀ idx reason, f = .chunkAck idx false reason → d.awaitsInitial idx = true → idx ∈ disk) :
    (d.receive c f).1.Backed c (· ∈ disk) := by
  match f with
  | .offerResponse accepted => exact handleOfferResponse_backed h accepted
  | .chunkAck idx true reason => exact recordChunkAck_backed h true fun _ => hf
  | .chunkAck idx false reason => exact recordChunkAck_backed h false (hnak idx reason rfl)
  | .missingChunks missing => exact handleMissingChunks_backed h hf
  | .resumeReply received => exact handleResumeReply_backed h hf
  | .pause reason =>
    unfold receive
    split_ifs
    · exact h
    · exact h.of_pumps_eq rfl (.inr (by simp))

end Depositor

structure Custody (c : Setup) (s : Sys) : Prop where
  frames : ∀ f ∈ s.toDepositor, f.BackedBy s.host.disk
  depositor : s.depositor.Backed c (· ∈ s.host.disk)
  noDelete : .deleteNow ∉ s.toHost

/-- A negative ack for a missing chunk that the initial pump waits for. -/
def Sys.losesNak (s : Sys) : TransferEvent → Bool
  | .depositorReceive i =>
    match s.toDepositor[i]? with
    | some (.chunkAck idx false _) => s.depositor.awaitsInitial idx && decide (idx ∉ s.host.disk)
    | _ => false
  | _ => false

namespace Custody

variable {c : Setup} {s : Sys}

theorem init (c : Setup) : Custody c (Sys.init c) where
  frames := by simp [Sys.init]
  depositor := ⟨by simp [Sys.init], by simp [Sys.init]⟩
  noDelete := by simp [Sys.init]

theorem hostStep (h : Custody c s) {r : Host × List DepositorFrame} (hr : s.host.Honest r) :
    Custody c (s.hostStep r) where
  frames f hf := by
    rcases List.mem_append.mp hf with hf | hf
    · exact (h.frames f hf).mono hr.keeps
    · exact hr.backed f hf
  depositor := h.depositor.mono fun _ hidx => hr.keeps hidx
  noDelete := h.noDelete

theorem depositorStep (h : Custody c s) {r : Depositor × List HostFrame}
    (hr : r.1.Backed c (· ∈ s.host.disk)) (hdel : (s.depositorStep r).deleteIssued = false) :
    Custody c (s.depositorStep r) where
  frames := h.frames
  depositor := hr
  noDelete := by
    simp only [Sys.depositorStep, Bool.or_eq_false_iff, List.contains_eq_mem, decide_eq_false_iff_not] at hdel
    simp only [Sys.depositorStep, List.mem_append, not_or]
    exact ⟨h.noDelete, hdel.2⟩

/-- **One step** keeps the invariant unless it loses a negative ack. -/
theorem step (h : Custody c s) {e : TransferEvent} (hnak : s.losesNak e = false)
    (hdel : (s.step c e).deleteIssued = false) : Custody c (s.step c e) := by
  cases e with
  | hostRespond accept => exact h.hostStep (s.host.respond_honest accept)
  | hostReceive i write =>
    simp only [Sys.step]
    split
    case h_1 => exact h
    case h_2 f hf =>
      have hmem : f ∈ s.toHost := List.mem_of_getElem? hf
      refine h.hostStep (s.host.receive_honest write ?_)
      rintro rfl
      exact h.noDelete hmem
  | hostRestart orderly => exact h.hostStep (s.host.restart_honest orderly)
  | hostPurge => simp [Sys.step] at hdel
  | depositorReceive i =>
    cases hf : s.toDepositor[i]? with
    | none => simpa only [Sys.step, hf] using h
    | some f =>
      simp only [Sys.step, hf] at hdel ⊢
      refine h.depositorStep ?_ hdel
      refine Depositor.receive_backed h.depositor (h.frames f (List.mem_of_getElem? hf)) ?_
      rintro idx reason rfl hwaits
      simpa [Sys.losesNak, hf, hwaits] using hnak
  | pumpAcquire k =>
    exact h.depositorStep (h.depositor.updatePump k Pump.acquire_kind
      fun _ _ _ hsound => Pump.acquire_sound hsound) hdel
  | pumpSend k outcome => exact h.depositorStep (Depositor.pumpSend_backed h.depositor k outcome) hdel
  | ackDone k idx =>
    exact h.depositorStep (h.depositor.updatePump k (fun p => p.ackDone_kind idx)
      fun _ _ _ hsound => Pump.ackDone_sound hsound idx) hdel
  | ackTimeout k idx =>
    exact h.depositorStep (h.depositor.updatePump k (fun p => p.ackTimeout_kind idx)
      fun _ _ _ hsound => Pump.ackTimeout_sound hsound idx) hdel
  | pumpReturn k => exact h.depositorStep (Depositor.pumpReturn_backed h.depositor k) hdel
  | markStored k => exact h.depositorStep (Depositor.markStored_backed h.depositor k) hdel
  | pumpCrash k =>
    exact h.depositorStep (h.depositor.updatePump k (fun _ => rfl)
      fun _ _ _ hsound => hsound.returned) hdel
  | transitRetryPass reachable => exact h.depositorStep (Depositor.transitRetryPass_backed h.depositor reachable) hdel
  | userDelete => simp [Sys.step] at hdel
  | userResume => exact h.depositorStep (Depositor.resume_backed h.depositor) hdel
  | depositorRestart orderly => exact h.depositorStep ⟨by simp [Depositor.restart], h.depositor.stored⟩ hdel

end Custody

theorem Sys.deleteIssued_step {c : Setup} {s : Sys} (e : TransferEvent)
    (h : (s.step c e).deleteIssued = false) : s.deleteIssued = false := by
  have hstep (r : Depositor × List HostFrame) (hr : (s.depositorStep r).deleteIssued = false) :
      s.deleteIssued = false := by
    simp only [Sys.depositorStep, Bool.or_eq_false_iff] at hr
    exact hr.1
  cases e with
  | hostRespond accept => exact h
  | hostReceive i write => simp only [Sys.step] at h; split at h <;> exact h
  | hostRestart orderly => exact h
  | hostPurge => simp [Sys.step] at h
  | depositorReceive i =>
    simp only [Sys.step] at h
    split at h
    · exact h
    · exact hstep _ h
  | userDelete => simp [Sys.step] at h
  | _ => exact hstep _ h

/-- **A stored deposit is on the host.** -/
theorem stored_on_host_of_no_lost_nak (c : Setup) (es : List TransferEvent)
    (hes : Along (Sys.step c) (fun s e => s.losesNak e = false) (Sys.init c) es)
    (hstored : (run (Sys.step c) (Sys.init c) es).depositor.status = .stored)
    (hdel : (run (Sys.step c) (Sys.init c) es).deleteIssued = false) :
    ∀ idx < c.chunks, idx ∈ (run (Sys.step c) (Sys.init c) es).host.disk := by
  have hinv : (run (Sys.step c) (Sys.init c) es).deleteIssued = false →
      Custody c (run (Sys.step c) (Sys.init c) es) := by
    refine run_invariant (P := fun s => s.deleteIssued = false → Custody c s) ?_
      (fun _ => Custody.init c) hes
    intro s e hnak ih hdel'
    exact (ih (Sys.deleteIssued_step e hdel')).step hnak hdel'
  exact (hinv hdel).depositor.stored hstored

def oneChunk : Setup := ⟨1, 0, 32, 0, 5⟩

def deliveredRun (write : WriteOutcome) : List TransferEvent :=
  [.hostRespond true, .depositorReceive 0, .pumpAcquire 0, .pumpSend 0 .sent,
    .hostReceive 0 write, .depositorReceive 1, .ackDone 0 0, .pumpAcquire 0,
    .pumpReturn 0, .markStored 0]

theorem stored_on_host_delivered :
    (run (Sys.step oneChunk) (Sys.init oneChunk) (deliveredRun .written)).depositor.status = .stored ∧
      ∀ idx < oneChunk.chunks, idx ∈ (run (Sys.step oneChunk) (Sys.init oneChunk) (deliveredRun .written)).host.disk :=
  ⟨by decide, stored_on_host_of_no_lost_nak oneChunk (deliveredRun .written) (by decide) (by decide)
    (by decide)⟩

/-- **One failed disk write.** -/
theorem stored_without_chunk :
    let s := run (Sys.step oneChunk) (Sys.init oneChunk) (deliveredRun (.failed false))
    s.depositor.status = .stored ∧ s.deleteIssued = false ∧ oneChunk.chunks = 1 ∧ 0 ∉ s.host.disk := by
  decide

end NexusGrid.Storage

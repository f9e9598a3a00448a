import NexusGrid.Lib.Blocks
import NexusGrid.Storage.Transfer

/-! # Versions of the source file

`Transfer` has the frames of a deposit without what is in them, and a source file that stays as it is. Here the
source may be edited between any two steps. Each pump keeps the stat (size and mtime) it was started with and
compares it before every chunk, each chunk frame has the bytes read for it, and the host has what it wrote. The
check is made within one pump: a resumed deposit gets a new pump, with a new stat.
-/

namespace NexusGrid.Storage

open Lib

structure SourceFile where
  size : Nat
  byteAt : Nat → UInt8
  mtimeNs : Nat

namespace SourceFile

def bytes (f : SourceFile) : List UInt8 := (List.range f.size).map f.byteAt

/-- `_stat_file` and `_fstat_file`. -/
def stat (f : SourceFile) : Nat × Nat := (f.size, f.mtimeNs)

def readChunk (f : SourceFile) (chunkIdx : Nat) : List UInt8 :=
  let offset := chunkIdx * chunkPlaintextBytes
  (List.range' offset (min chunkPlaintextBytes (f.size - offset))).map f.byteAt

theorem flatMap_readChunk (f : SourceFile) (n : Nat) : (List.range n).flatMap f.readChunk =
      (List.range (min (n * chunkPlaintextBytes) f.size)).map f.byteAt := by
  induction n with
  | zero => simp
  | succ n ih =>
    rw [List.range_succ, List.flatMap_append, ih, List.flatMap_singleton, readChunk, ← List.map_append,
      List.range_eq_range', List.range_eq_range']
    congr 1
    rw [Nat.succ_mul]
    generalize n * chunkPlaintextBytes = offset
    by_cases hle : offset ≤ f.size
    · have happend := @List.range'_append_1 0 offset (min chunkPlaintextBytes (f.size - offset))
      rw [Nat.zero_add] at happend
      rw [Nat.min_eq_left hle, happend]
      congr 1
      omega
    have hrest : min chunkPlaintextBytes (f.size - offset) = 0 := by omega
    rw [hrest, List.range'_zero, List.append_nil]
    congr 1
    omega

theorem flatMap_readChunk_chunkCount (f : SourceFile) :
    (List.range (chunkCount f.size)).flatMap f.readChunk = f.bytes := by
  have hall : f.size ≤ chunkCount f.size * chunkPlaintextBytes := by
    unfold chunkCount chunkPlaintextBytes
    omega
  rw [flatMap_readChunk, Nat.min_eq_right hall, bytes]

theorem head?_readChunk (f : SourceFile) {idx : Nat} (h : idx * chunkPlaintextBytes < f.size) :
    (f.readChunk idx).head? = some (f.byteAt (idx * chunkPlaintextBytes)) := by
  have hsome : min chunkPlaintextBytes (f.size - idx * chunkPlaintextBytes) ≠ 0 := by
    unfold chunkPlaintextBytes at h ⊢
    omega
  rw [readChunk, List.head?_map, List.head?_range', if_neg hsome, Option.map_some]

end SourceFile

structure Versioned where
  sys : Sys
  source : SourceFile
  /-- The `initial_stat` of every pump. -/
  stats : List (Nat × Nat)
  payloads : List (Option (List UInt8))
  /-- `none` for what a failed write has left. -/
  files : Table Nat (Option (List UInt8))

inductive VersionEvent
  /-- A step of the transfer other than a send. -/
  | transfer (e : TransferEvent)
  /-- The send step of pump `k`. -/
  | pumpSend (k : Nat) (fstatFails sent : Bool)
  | edit (f : SourceFile)

def Setup.withSize (c : Setup) (fileSize : Nat) : Setup := { c with fileSize }

/-- What `receive_chunk` does to the chunk files. -/
def storeChunk (h : Host) (files : Table Nat (Option (List UInt8))) (idx : Nat) (write : WriteOutcome)
    (blob : Option (List UInt8)) : Table Nat (Option (List UInt8)) :=
  match h.pump with
  | none => files
  | some pump =>
    if pump.chunkCount ≠ 0 ∧ pump.chunkCount ≤ idx then files
    else match write with
      | .written => files.put idx blob
      | .failed true => files.put idx none
      | .failed false => files

namespace Versioned

section Steps

variable (c : Setup) (deposited : SourceFile) (encryptChunk : List UInt8 → Nat → List UInt8)

def init : Versioned where
  sys := Sys.init (c.withSize deposited.size)
  source := deposited
  stats := []
  payloads := []
  files := ∅

def payload (f : SourceFile) : HostFrame → Option (List UInt8)
  | .chunk idx => some (encryptChunk (f.readChunk idx) idx)
  | _ => none

/-- New pumps take their `stat`, new frames their payload. -/
def settle (s : Versioned) (sys : Sys) (files : Table Nat (Option (List UInt8))) : Versioned :=
  let pumps := sys.depositor.pumps.length
  { s with
    sys
    stats := (s.stats ++ List.replicate (pumps - s.stats.length) s.source.stat).take pumps
    payloads := s.payloads ++ (sys.toHost.drop s.sys.toHost.length).map (payload encryptChunk s.source)
    files := files.deleteWhere fun idx _ => idx ∉ sys.host.disk }

def filesAfter (s : Versioned) : TransferEvent → Table Nat (Option (List UInt8))
  | .hostReceive i write =>
    match s.sys.toHost[i]? with
    | some (.chunk idx) => storeChunk s.sys.host s.files idx write (s.payloads[i]?.join)
    | _ => s.files
  | _ => s.files

/-- The initial pump counts the chunks of the file it finds. -/
def setupFor (s : Versioned) : TransferEvent → Setup
  | .depositorReceive i =>
    match s.sys.toDepositor[i]? with
    | some (.offerResponse _) => c.withSize s.source.size
    | _ => c.withSize deposited.size
  | _ => c.withSize deposited.size

/-- The drift check of pump `k`, then the send. -/
def outcome (s : Versioned) (k : Nat) (fstatFails sent : Bool) : Pump.SendOutcome :=
  if !fstatFails && s.stats[k]? ≠ some s.source.stat then .drift
  else if sent then .sent
  else .failed

/-- `_fail_in_transit_and_wipe_host`. -/
def failAndWipe (s : Sys) : Sys :=
  s.depositorStep ({ s.depositor with status := .failedInTransit, keyCached := false }, [.deleteNow])

/-- The file must have the size and the hash of the deposited one. -/
def userResume (s : Versioned) : Sys :=
  if s.sys.depositor.status.settled then s.sys
  else if deposited.size ≠ 0 ∧ s.source.size ≠ deposited.size then s.sys
  else if s.source.bytes ≠ deposited.bytes then failAndWipe s.sys
  else s.sys.step (c.withSize deposited.size) .userResume

def step (s : Versioned) : VersionEvent → Versioned
  | .edit f => { s with source := f }
  | .pumpSend k fstatFails sent =>
    let sys := s.sys.step (c.withSize s.source.size) (.pumpSend k (s.outcome k fstatFails sent))
    s.settle encryptChunk sys s.files
  | .transfer (.pumpSend ..) => s
  | .transfer .userResume => s.settle encryptChunk (s.userResume c deposited) s.files
  | .transfer e => s.settle encryptChunk (s.sys.step (s.setupFor c deposited e) e) (s.filesAfter e)

/-- A new pump, and a send whose `fstat` fails, finds the stat of `v`, and no failed write leaves a file. -/
def Guarded (v : SourceFile) (s : Versioned) (e : VersionEvent) : Prop :=
  (s.stats.length < (s.step c deposited encryptChunk e).stats.length → s.source.stat = v.stat) ∧
  match e with
  | .pumpSend _ fstatFails _ => fstatFails = true → s.source.stat = v.stat
  | .transfer (.hostReceive _ (.failed true)) => False
  | _ => True

instance (v : SourceFile) (s : Versioned) (e : VersionEvent) : Decidable (s.Guarded c deposited encryptChunk v e) := by
  unfold Guarded
  exact @instDecidableAnd _ _ _ (by split <;> infer_instance)

end Steps

section Sys

variable {c : Setup} {s : Sys} {e : TransferEvent}

theorem toHost_grows (c : Setup) (s : Sys) (e : TransferEvent) : s.toHost <+: (s.step c e).toHost := by
  have hdepositor (r : Depositor × List HostFrame) : s.toHost <+: (s.depositorStep r).toHost := List.prefix_append _ _
  cases e with
  | hostRespond accept => exact List.prefix_rfl
  | hostReceive i write =>
    simp only [Sys.step]
    split
    · exact List.prefix_rfl
    · exact List.prefix_rfl
  | hostRestart orderly => exact List.prefix_rfl
  | hostPurge => exact List.prefix_rfl
  | depositorReceive i =>
    simp only [Sys.step]
    split
    · exact List.prefix_rfl
    · exact hdepositor _
  | _ => exact hdepositor _

/-- Only a send sends a chunk. -/
theorem sent_of_chunk {idx : Nat} (h : .chunk idx ∈ (s.step c e).toHost.drop s.toHost.length) :
    ∃ k, e = .pumpSend k .sent := by
  have hframes {r : Depositor × List HostFrame} (hr : .chunk idx ∈ (s.depositorStep r).toHost.drop s.toHost.length) :
      .chunk idx ∈ r.2 := by
    rwa [Sys.depositorStep, List.drop_left] at hr
  cases e with
  | pumpSend k outcome =>
    have hsent := hframes h
    unfold Depositor.pumpSend Pump.send at hsent
    grind
  | depositorReceive i =>
    simp only [Sys.step] at h
    split at h
    · simp at h
    · have hsent := hframes h
      unfold Depositor.receive Depositor.handleOfferResponse Depositor.handleMissingChunks at hsent
      grind
  | pumpReturn k =>
    have hsent := hframes h
    unfold Depositor.pumpReturn at hsent
    grind
  | transitRetryPass reachable =>
    have hsent := hframes h
    unfold Depositor.transitRetryPass at hsent
    grind
  | depositorRestart orderly =>
    have hsent := hframes h
    unfold Depositor.restart at hsent
    grind
  | userDelete =>
    have hsent := hframes (r := s.depositor.delete) h
    unfold Depositor.delete at hsent
    grind
  | hostReceive i write =>
    simp only [Sys.step] at h
    split at h
    · simp at h
    · simp [Sys.hostStep] at h
  | hostRespond accept => simp [Sys.step, Sys.hostStep] at h
  | hostRestart orderly => simp [Sys.step, Sys.hostStep] at h
  | hostPurge => simp [Sys.step] at h
  | _ => exact absurd (hframes h) List.not_mem_nil

theorem Host.disk_receive_subset (h : Host) (write : WriteOutcome) {f : HostFrame}
    (hf : ∀ idx, f ≠ .chunk idx) : (h.receive write f).1.disk ⊆ h.disk := by
  cases f with
  | chunk idx => exact absurd rfl (hf idx)
  | complete =>
    simp only [Host.receive, Host.handleComplete]
    split
    · exact .refl _
    split
    · exact .refl _
    · exact .refl _
  | resumeRequest => exact .refl _
  | pause reason =>
    simp only [Host.receive]
    split
    · exact .refl _
    · exact .refl _
  | offerCancelled =>
    simp only [Host.receive]
    split
    · exact .refl _
    · exact .refl _
  | deleteNow =>
    simp only [Host.receive, Host.handleDeleteNow]
    split
    · exact List.nil_subset _
    · exact .refl _

theorem disk_step_subset (he : ∀ i write, e = .hostReceive i write → ∀ idx, s.toHost[i]? ≠ some (.chunk idx)) :
    (s.step c e).host.disk ⊆ s.host.disk := by
  cases e with
  | hostRespond accept =>
    simp only [Sys.step, Sys.hostStep, Host.respond]
    split
    · split
      · exact .refl _
      · exact .refl _
    · exact .refl _
  | hostReceive i write =>
    simp only [Sys.step]
    cases hf : s.toHost[i]? with
    | none => exact .refl _
    | some f =>
      refine Host.disk_receive_subset s.host write fun idx => ?_
      rintro rfl
      exact he i write rfl idx hf
  | hostRestart orderly => exact .refl _
  | hostPurge => exact List.nil_subset _
  | depositorReceive i =>
    simp only [Sys.step]
    split
    · exact .refl _
    · exact .refl _
  | _ => exact .refl _

theorem get_storeChunk {h : Host} {files : Table Nat (Option (List UInt8))} {write : WriteOutcome}
    {blob : Option (List UInt8)} {idx : Nat} {good : Nat → Option (Option (List UInt8))}
    (hfiles : ∀ i ∈ h.disk, files.get i = good i) (hblob : some blob = good idx) (hwrite : write ≠ .failed true) :
    ∀ i ∈ (h.receiveChunk idx write).1.disk, (storeChunk h files idx write blob).get i = good i := by
  unfold Host.receiveChunk storeChunk
  cases h.pump with
  | none => exact hfiles
  | some pump =>
    dsimp only
    split
    · exact hfiles
    match write with
    | .failed true => exact absurd rfl hwrite
    | .failed false => exact hfiles
    | .written =>
      intro i hi
      rw [Table.get_put]
      split
      case isTrue heq => rw [heq, hblob]
      case isFalse hne => exact hfiles i ((List.mem_insert_iff.mp hi).resolve_left hne)

end Sys

section Run

variable {c : Setup} {deposited v : SourceFile} {encryptChunk : List UInt8 → Nat → List UInt8}
  {s : Versioned} {e : VersionEvent}

/-- What is on the way to the host, and what it holds, is of the version `v`. -/
structure HoldsOf (encryptChunk : List UInt8 → Nat → List UInt8) (v : SourceFile) (s : Versioned) : Prop where
  length : s.payloads.length = s.sys.toHost.length
  frames : ∀ (i idx : Nat), s.sys.toHost[i]? = some (HostFrame.chunk idx) →
    s.payloads[i]? = some (some (encryptChunk (v.readChunk idx) idx))
  files : ∀ idx ∈ s.sys.host.disk, s.files.get idx = some (some (encryptChunk (v.readChunk idx) idx))

section

variable (h : HoldsOf encryptChunk v s)
include h

theorem HoldsOf.settle {sys : Sys} {files : Table Nat (Option (List UInt8))} (hextends : s.sys.toHost <+: sys.toHost)
    (hsends : ∀ idx, .chunk idx ∈ sys.toHost.drop s.sys.toHost.length → s.source.readChunk idx = v.readChunk idx)
    (hfiles : ∀ idx ∈ sys.host.disk, files.get idx = some (some (encryptChunk (v.readChunk idx) idx))) :
    HoldsOf encryptChunk v (s.settle encryptChunk sys files) := by
  obtain ⟨new, hnew⟩ := hextends
  rw [← hnew, List.drop_left] at hsends
  have hpayloads : (s.settle encryptChunk sys files).payloads =
      s.payloads ++ new.map (payload encryptChunk s.source) := by
    show s.payloads ++ (sys.toHost.drop s.sys.toHost.length).map (payload encryptChunk s.source) = _
    rw [← hnew, List.drop_left]
  refine ⟨?_, fun i idx hi => ?_, fun idx hidx => ?_⟩
  · rw [hpayloads, List.length_append, List.length_map, h.length]
    show _ = sys.toHost.length
    rw [← hnew, List.length_append]
  · have hi' : (s.sys.toHost ++ new)[i]? = some (.chunk idx) := by
      rw [hnew]
      exact hi
    rw [hpayloads]
    by_cases hold : i < s.sys.toHost.length
    · rw [List.getElem?_append_left hold] at hi'
      rw [List.getElem?_append_left (by rw [h.length]; exact hold)]
      exact h.frames i idx hi'
    rw [List.getElem?_append_right (Nat.le_of_not_lt hold)] at hi'
    rw [List.getElem?_append_right (by rw [h.length]; exact Nat.le_of_not_lt hold), h.length,
      List.getElem?_map, hi', Option.map_some, payload, hsends idx (List.mem_of_getElem? hi')]
  · show (files.deleteWhere fun idx _ => idx ∉ sys.host.disk).get idx = _
    rw [Table.get_deleteWhere, hfiles idx hidx]
    have hkeep : idx ∈ sys.host.disk := hidx
    simp [hkeep]

omit h in
theorem holdsOf_init : HoldsOf encryptChunk v (init c deposited) :=
  ⟨rfl, fun _ _ h => absurd h (by simp [init, Sys.init]), fun _ h => absurd h List.not_mem_nil⟩

theorem HoldsOf.files_of_subset {sys : Sys}
    (hsub : sys.host.disk ⊆ s.sys.host.disk) (idx : Nat) (hidx : idx ∈ sys.host.disk) :
    s.files.get idx = some (some (encryptChunk (v.readChunk idx) idx)) :=
  h.files idx (hsub hidx)

theorem HoldsOf.filesAfter (c : Setup) (e : TransferEvent)
    (hwrite : ∀ i, e ≠ .hostReceive i (.failed true)) : ∀ idx ∈ (s.sys.step c e).host.disk,
      (s.filesAfter e).get idx = some (some (encryptChunk (v.readChunk idx) idx)) := by
  by_cases hchunk : ∃ i write idx, e = .hostReceive i write ∧ s.sys.toHost[i]? = some (.chunk idx)
  · obtain ⟨i, write, idx, rfl, hi⟩ := hchunk
    simp only [Sys.step, Versioned.filesAfter, hi]
    have hblob : some (s.payloads[i]?.join) = some (some (encryptChunk (v.readChunk idx) idx)) := by
      rw [h.frames i idx hi]
      rfl
    exact get_storeChunk h.files hblob (by rintro rfl; exact hwrite i rfl)
  have hsame : s.filesAfter e = s.files := by
    cases e with
    | hostReceive i write =>
      simp only [Versioned.filesAfter]
      split
      · rename_i idx hi
        exact absurd ⟨i, write, idx, rfl, hi⟩ hchunk
      · rfl
    | _ => rfl
  rw [hsame]
  refine h.files_of_subset (disk_step_subset fun i write he idx hi => ?_)
  exact hchunk ⟨i, write, idx, he, hi⟩

theorem HoldsOf.userResume (hsends :
    ∀ idx, HostFrame.chunk idx ∈ (s.userResume c deposited).toHost.drop s.sys.toHost.length →
      s.source.readChunk idx = v.readChunk idx) :
    HoldsOf encryptChunk v (s.settle encryptChunk (s.userResume c deposited) s.files) := by
  have hextends : s.sys.toHost <+: (s.userResume c deposited).toHost := by
    unfold Versioned.userResume
    split_ifs
    · exact List.prefix_rfl
    · exact List.prefix_rfl
    · exact List.prefix_append _ _
    · exact toHost_grows _ _ _
  have hdisk : (s.userResume c deposited).host.disk ⊆ s.sys.host.disk := by
    unfold Versioned.userResume
    split_ifs
    · exact .refl _
    · exact .refl _
    · exact .refl _
    · exact .refl _
  exact h.settle hextends hsends (h.files_of_subset hdisk)

theorem HoldsOf.step (hwrite : ∀ i, e ≠ .transfer (.hostReceive i (.failed true)))
    (hchunks : ∀ idx, .chunk idx ∈ (s.step c deposited encryptChunk e).sys.toHost.drop s.sys.toHost.length →
      s.source.readChunk idx = v.readChunk idx) : HoldsOf encryptChunk v (s.step c deposited encryptChunk e) := by
  cases e with
  | edit f => exact ⟨h.length, h.frames, h.files⟩
  | pumpSend k fstatFails sent =>
    refine h.settle (toHost_grows _ _ _) hchunks (h.files_of_subset ?_)
    exact .refl _
  | transfer e =>
    have hwrite' : ∀ i, e ≠ .hostReceive i (.failed true) := by
      rintro i rfl
      exact hwrite i rfl
    cases e with
    | pumpSend k outcome => exact h
    | userResume => exact h.userResume hchunks
    | _ => exact h.settle (toHost_grows _ _ _) hchunks (h.filesAfter _ _ hwrite')

end

/-- A chunk is sent by a pump whose stat is still that of the source, or that has none to compare. -/
theorem checked_of_chunk {idx : Nat}
    (h : .chunk idx ∈ (s.step c deposited encryptChunk e).sys.toHost.drop s.sys.toHost.length) :
    ∃ k fstatFails sent, e = .pumpSend k fstatFails sent ∧
      (fstatFails = true ∨ s.source.stat ∈ s.stats) := by
  cases e with
  | edit f => simp [Versioned.step] at h
  | pumpSend k fstatFails sent =>
    obtain ⟨k', heq⟩ := sent_of_chunk h
    simp only [TransferEvent.pumpSend.injEq, outcome] at heq
    refine ⟨k, fstatFails, sent, rfl, ?_⟩
    cases fstatFails with
    | true => exact .inl rfl
    | false =>
      refine .inr (List.mem_of_getElem? (i := k) ?_)
      by_contra hdrift
      simp [hdrift] at heq
  | transfer e =>
    exfalso
    cases e with
    | pumpSend k outcome => simp [Versioned.step] at h
    | userResume =>
      have hframes : (s.userResume c deposited).toHost = s.sys.toHost ∨
          (s.userResume c deposited).toHost = s.sys.toHost ++ [.deleteNow] := by
        unfold Versioned.userResume
        split_ifs
        · exact .inl rfl
        · exact .inl rfl
        · exact .inr rfl
        · exact .inl (List.append_nil _)
      simp only [Versioned.step, Versioned.settle] at h
      rcases hframes with hsame | hdelete
      · simp [hsame] at h
      · simp [hdelete] at h
    | _ =>
      obtain ⟨k, hk⟩ := sent_of_chunk h
      cases hk

theorem mem_stats_step {stat : Nat × Nat} (h : stat ∈ (s.step c deposited encryptChunk e).stats) :
    stat ∈ s.stats ∨
      s.stats.length < (s.step c deposited encryptChunk e).stats.length ∧ stat = s.source.stat := by
  have hsettle {sys : Sys} {files : Table Nat (Option (List UInt8))}
      (h : stat ∈ (s.settle encryptChunk sys files).stats) : stat ∈ s.stats ∨
        s.stats.length < (s.settle encryptChunk sys files).stats.length ∧ stat = s.source.stat := by
    simp only [Versioned.settle] at h ⊢
    rcases List.mem_append.mp (List.mem_of_mem_take h) with hold | hnew
    · exact .inl hold
    · obtain ⟨hpumps, rfl⟩ := List.mem_replicate.mp hnew
      refine .inr ⟨?_, rfl⟩
      rw [List.length_take, List.length_append, List.length_replicate]
      omega
  cases e with
  | edit f => exact .inl h
  | pumpSend k fstatFails sent => exact hsettle h
  | transfer e =>
    cases e with
    | pumpSend k outcome => exact .inl h
    | _ => exact hsettle h

theorem source_step (h : ∀ f, e ≠ .edit f) : (s.step c deposited encryptChunk e).source = s.source := by
  cases e with
  | edit f => exact absurd rfl (h f)
  | pumpSend k fstatFails sent => rfl
  | transfer e => cases e <;> rfl

/-- Every pump started from the stat of `v`, and a source with that stat has the chunks of `v`. -/
structure Tracks (encryptChunk : List UInt8 → Nat → List UInt8) (v : SourceFile) (s : Versioned) : Prop where
  holds : HoldsOf encryptChunk v s
  stats : ∀ stat ∈ s.stats, stat = v.stat
  source : s.source.stat = v.stat → s.source.readChunk = v.readChunk

theorem Tracks.step (h : Tracks encryptChunk v s) (hguarded : s.Guarded c deposited encryptChunk v e)
    (htells : ∀ f, e = .edit f → f.stat = v.stat → f.readChunk = v.readChunk) :
    Tracks encryptChunk v (s.step c deposited encryptChunk e) := by
  obtain ⟨hstart, hevent⟩ := hguarded
  refine ⟨h.holds.step ?_ ?_, fun stat hstat => ?_, ?_⟩
  · rintro i rfl
    exact hevent
  · -- the drift check, or the `fstat` that fails, finds the stat of `v`
    intro idx hidx
    obtain ⟨k, fstatFails, sent, rfl, hchecked⟩ := checked_of_chunk hidx
    have hstat : s.source.stat = v.stat := by
      rcases hchecked with hfails | hmem
      · exact hevent hfails
      · exact h.stats _ hmem
    rw [h.source hstat]
  · rcases mem_stats_step hstat with hold | ⟨hmore, rfl⟩
    · exact h.stats stat hold
    · exact hstart hmore
  · cases e with
    | edit f => exact htells f rfl
    | pumpSend k fstatFails sent => exact h.source
    | transfer e =>
      rw [source_step (by rintro f ⟨⟩)]
      exact h.source

theorem Tracks.run {es : List VersionEvent} (h : Tracks encryptChunk v s)
    (hes : Along (Versioned.step c deposited encryptChunk) (Guarded c deposited encryptChunk v) s es)
    (htells : ∀ f, .edit f ∈ es → f.stat = v.stat → f.readChunk = v.readChunk) :
    Tracks encryptChunk v (Lib.run (Versioned.step c deposited encryptChunk) s es) := by
  induction es generalizing s with
  | nil => exact h
  | cons e es ih =>
    refine ih (h.step hes.1 ?_) hes.2 fun f hf => htells f (List.mem_cons_of_mem _ hf)
    rintro f rfl
    exact htells f List.mem_cons_self

end Run

def restore (decryptChunk : List UInt8 → Nat → Option (List UInt8)) (s : Versioned) (chunks : Nat) :
    Option (List UInt8) :=
  reassemble (fun idx => (s.files.get idx).join.bind (decryptChunk · idx)) chunks

/-- The host holds chunks of one version, and all of them give it back. -/
def OneVersion (c : Setup) (deposited : SourceFile) (encryptChunk : List UInt8 → Nat → List UInt8)
    (decryptChunk : List UInt8 → Nat → Option (List UInt8)) (es : List VersionEvent) : Prop :=
  let s := run (step c deposited encryptChunk) (init c deposited) es
  ∃ v, (∃ pre, pre <+: es ∧ (run (step c deposited encryptChunk) (init c deposited) pre).source = v) ∧
    (∀ idx ∈ s.sys.host.disk, s.files.get idx = some (some (encryptChunk (v.readChunk idx) idx))) ∧
    ((∀ idx < chunkCount v.size, idx ∈ s.sys.host.disk) → s.restore decryptChunk (chunkCount v.size) = some v.bytes)

/-- **The host holds one version of the file**, `v`, if every pump starts from the stat of `v`, and no edit
changes what is in the file and keeps this stat: the drift check of each pump does the rest. -/
theorem held_chunks_are_one_version (c : Setup) (deposited : SourceFile)
    (encryptChunk : List UInt8 → Nat → List UInt8) (decryptChunk : List UInt8 → Nat → Option (List UInt8))
    (hdecrypt : ∀ plaintext idx, decryptChunk (encryptChunk plaintext idx) idx = some plaintext)
    (es : List VersionEvent) (v : SourceFile) (hv : ∃ pre, pre <+: es ∧
      (run (step c deposited encryptChunk) (init c deposited) pre).source = v)
    (htells : ∀ f, f = deposited ∨ .edit f ∈ es → f.stat = v.stat → f.readChunk = v.readChunk)
    (hes : Along (step c deposited encryptChunk) (Guarded c deposited encryptChunk v) (init c deposited) es) :
    OneVersion c deposited encryptChunk decryptChunk es := by
  have hinit : Tracks encryptChunk v (init c deposited) :=
    ⟨holdsOf_init, fun _ h => absurd h List.not_mem_nil, htells deposited (.inl rfl)⟩
  have hholds := (hinit.run hes fun f hf => htells f (.inr hf)).holds
  refine ⟨v, hv, hholds.files, fun hall => ?_⟩
  have hread : ∀ idx < chunkCount v.size,
      ((run (step c deposited encryptChunk) (init c deposited) es).files.get idx).join.bind
        (decryptChunk · idx) = some (v.readChunk idx) := by
    intro idx hidx
    rw [hholds.files idx (hall idx hidx), Option.join_some, Option.bind_some, hdecrypt]
  rw [restore, reassemble_eq_some hread, v.flatMap_readChunk_chunkCount]

/-- A file of two chunks, all of whose bytes are `b`. -/
def twoChunks (b : UInt8) (mtimeNs : Nat) : SourceFile := ⟨65537, fun _ => b, mtimeNs⟩

def indexed (plaintext : List UInt8) (idx : Nat) : List UInt8 := .ofNat idx :: plaintext

def unindexed (blob : List UInt8) (_idx : Nat) : Option (List UInt8) := blob.tail?

def resumedTwice (edits : List VersionEvent) : List VersionEvent :=
  [.transfer (.hostRespond true), .transfer (.depositorReceive 0), .transfer (.pumpAcquire 0),
    .pumpSend 0 false true, .transfer (.hostReceive 0 .written), .transfer (.depositorReceive 1),
    .transfer (.ackDone 0 0), .transfer (.pumpAcquire 0), .pumpSend 0 false false,
    .transfer (.pumpReturn 0)] ++ edits ++
  [.transfer (.transitRetryPass true), .transfer (.hostReceive 2 .written),
    .transfer (.depositorReceive 2), .transfer (.pumpAcquire 1), .pumpSend 1 false true,
    .transfer (.hostReceive 3 .written), .transfer (.pumpAcquire 1), .transfer (.ackTimeout 1 1),
    .transfer (.pumpReturn 1), .transfer (.transitRetryPass true), .transfer (.hostReceive 5 .written),
    .transfer (.depositorReceive 4)]

def exampleSetup : Setup := ⟨0, 0, 32, 0, 5⟩

/-- The file is edited after the first pump, and is as before when the second starts. -/
def undoneRun : List VersionEvent := resumedTwice [.edit (twoChunks 1 2), .edit (twoChunks 0 1)]

theorem held_chunks_are_one_version_undone :
    (run (step exampleSetup (twoChunks 0 1) indexed) (init exampleSetup (twoChunks 0 1))
        undoneRun).sys.depositor.status = .stored ∧
      OneVersion exampleSetup (twoChunks 0 1) indexed unindexed undoneRun := by
  refine ⟨by decide +kernel, held_chunks_are_one_version _ _ _ _ (fun _ _ => rfl) _ (twoChunks 0 1)
    ⟨[], List.nil_prefix, rfl⟩ ?_ (by decide +kernel)⟩
  rintro f (rfl | hf) hstat
  · rfl
  simp only [undoneRun, resumedTwice, List.cons_append, List.nil_append, List.mem_cons, reduceCtorEq,
    VersionEvent.edit.injEq, List.not_mem_nil, or_false, false_or] at hf
  rcases hf with rfl | rfl
  · exact absurd hstat (by decide)
  · rfl

def editedRun : List VersionEvent := resumedTwice [.edit (twoChunks 1 2)]

theorem editedRun_versions : ∀ pre ∈ editedRun.inits,
    let f := (run (step exampleSetup (twoChunks 0 1) indexed) (init exampleSetup (twoChunks 0 1))
      pre).source
    0 * chunkPlaintextBytes < f.size ∧ 1 * chunkPlaintextBytes < f.size ∧
      f.byteAt (0 * chunkPlaintextBytes) = f.byteAt (1 * chunkPlaintextBytes) := by
  decide +kernel

theorem editedRun_files :
    let s := run (step exampleSetup (twoChunks 0 1) indexed) (init exampleSetup (twoChunks 0 1)) editedRun
    (s.files.get 0).map (·.map (·.tail.head?)) = some (some (some 0)) ∧
      (s.files.get 1).map (·.map (·.tail.head?)) = some (some (some 1)) := by
  decide +kernel

theorem byteAt_of_file {v : SourceFile} {idx : Nat} {b : UInt8} {file : Option (Option (List UInt8))}
    (hsize : idx * chunkPlaintextBytes < v.size) (hfile : file = some (some (indexed (v.readChunk idx) idx)))
    (hb : file.map (·.map (·.tail.head?)) = some (some (some b))) : v.byteAt (idx * chunkPlaintextBytes) = b := by
  rw [hfile, Option.map_some, Option.map_some, indexed, List.tail_cons, v.head?_readChunk hsize] at hb
  exact Option.some.inj (Option.some.inj (Option.some.inj hb))

/-- **One edit between two pumps.** -/
theorem stored_deposit_mixes_versions :
    let s := run (step exampleSetup (twoChunks 0 1) indexed) (init exampleSetup (twoChunks 0 1)) editedRun
    s.sys.depositor.status = .stored ∧ s.sys.host.disk = [1, 0] ∧
      ¬ OneVersion exampleSetup (twoChunks 0 1) indexed unindexed editedRun := by
  have hdisk : (run (step exampleSetup (twoChunks 0 1) indexed) (init exampleSetup (twoChunks 0 1))
      editedRun).sys.host.disk = [1, 0] := by decide +kernel
  refine ⟨by decide +kernel, hdisk, ?_⟩
  rintro ⟨v, ⟨pre, hpre, hv⟩, hfiles, -⟩
  obtain ⟨hsize0, hsize1, hbyte⟩ := editedRun_versions pre ((List.mem_inits _ _).mpr hpre)
  rw [hv] at hsize0 hsize1 hbyte
  rw [hdisk] at hfiles
  have hfirst := byteAt_of_file hsize0 (hfiles 0 (by simp)) editedRun_files.1
  have hsecond := byteAt_of_file hsize1 (hfiles 1 (by simp)) editedRun_files.2
  rw [hbyte, hsecond] at hfirst
  cases hfirst

end Versioned

end NexusGrid.Storage

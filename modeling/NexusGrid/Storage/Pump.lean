import NexusGrid.Lib.Table
import NexusGrid.Storage.Deposit

/-! # The depositor's pump

`transfer_deposit` and its `_wait_ack` tasks.
-/

namespace NexusGrid.Storage

open Lib

/-- Who called `transfer_deposit`. -/
inductive PumpKind
  | initial
  | resume
  | missing
deriving DecidableEq

/-- The texts that end up in the `failure` slot, without the chunk index. -/
inductive PumpFailure
  | missingAckEvent
  | ackTimeout
  | fileChanged
  | sendFailed
deriving DecidableEq

inductive PumpPhase
  /-- At the top of the send loop. -/
  | sending
  /-- It has a permit for this chunk. -/
  | reading (chunkIdx : Nat)
  /-- Left the loop, waits for its ack waiters. -/
  | draining
  /-- About to write the row. -/
  | completing
  | returned
deriving DecidableEq

/-- A running `transfer_deposit`. -/
structure Pump where
  kind : PumpKind
  sendPlan : List Nat
  /-- Free permits of `window_sem`. -/
  windowSem : Nat
  ackEvents : Table Nat Bool
  /-- The indices with a live `_wait_ack` task. -/
  ackTasks : List Nat
  /-- `pump["acked_idx"] + 1`. -/
  acked : Nat
  failure : Option PumpFailure
  phase : PumpPhase

namespace Pump

/-- The pump as `transfer_deposit` creates it. -/
def start (kind : PumpKind) (sendPlan : List Nat) (window : Nat) : Pump where
  kind := kind
  sendPlan := sendPlan
  windowSem := window
  ackEvents := ∅
  ackTasks := []
  acked := 0
  failure := none
  phase := .sending

/-- `if not failure: failure.append(f)`. -/
def fail (p : Pump) (f : PumpFailure) : Pump := { p with failure := p.failure <|> some f }

/-- The top of the loop. -/
def acquire (p : Pump) : Pump :=
  match p.phase with
  | .sending =>
    if p.failure.isSome then { p with phase := .draining }
    else match p.sendPlan with
      | [] => { p with phase := .draining }
      | idx :: rest =>
        if p.windowSem = 0 then p
        else { p with sendPlan := rest, windowSem := p.windowSem - 1, phase := .reading idx }
  | _ => p

/-- What happens to the chunk that is being read. -/
inductive SendOutcome
  | drift
  | sent
  | failed
deriving DecidableEq

/-- The rest of the loop body. -/
def send (p : Pump) (fileSize : Nat) (outcome : SendOutcome) : Pump × Option Nat :=
  match p.phase with
  | .reading idx =>
    match outcome with
    | .drift => ({ p with windowSem := p.windowSem + 1, phase := .draining }.fail .fileChanged, none)
    | outcome =>
      -- an empty read ends the loop without a failure
      if fileSize ≤ idx * chunkPlaintextBytes then
        ({ p with windowSem := p.windowSem + 1, phase := .draining }, none)
      else
        let p := { p with ackEvents := p.ackEvents.put idx false }
        if outcome = .sent then
          ({ p with ackTasks := p.ackTasks ++ [idx], phase := .sending }, some idx)
        else
          ({ p with windowSem := p.windowSem + 1, phase := .draining }.fail .sendFailed, none)
  | _ => (p, none)

/-- `_wait_ack` for an index whose event is set, or gone. -/
def ackDone (p : Pump) (idx : Nat) : Pump :=
  if idx ∈ p.ackTasks then
    match p.ackEvents.get idx with
    | none => { p with ackTasks := p.ackTasks.erase idx, windowSem := p.windowSem + 1 }.fail .missingAckEvent
    | some true =>
      { p with
        ackTasks := p.ackTasks.erase idx, windowSem := p.windowSem + 1,
        ackEvents := p.ackEvents.delete idx, acked := max p.acked (idx + 1) }
    | some false => p
  else p

/-- `_wait_ack` for an index whose event was not set in time. -/
def ackTimeout (p : Pump) (idx : Nat) : Pump :=
  if idx ∈ p.ackTasks ∧ p.ackEvents.get idx = some false then
    { p with ackTasks := p.ackTasks.erase idx, windowSem := p.windowSem + 1 }.fail .ackTimeout
  else p

/-- `record_chunk_ack` on the pump that is registered for the deposit. -/
def recordChunkAck (p : Pump) (idx : Nat) (_ok : Bool) : Pump :=
  match p.ackEvents.get idx with
  | none => p
  | some _ => { p with ackEvents := p.ackEvents.put idx true }

/-- The loop has ended and every waiter is done: `transfer_deposit` is about to return. -/
def drained (p : Pump) : Bool := p.phase == .draining && p.ackTasks.isEmpty

/-! No step changes who called the pump. -/

theorem acquire_kind (p : Pump) : p.acquire.kind = p.kind := by
  unfold acquire
  split
  · split_ifs
    · rfl
    · split
      · rfl
      · rfl
    split
    · rfl
    · rfl
  · rfl

theorem send_kind (p : Pump) (fileSize : Nat) (outcome : SendOutcome) : (p.send fileSize outcome).1.kind = p.kind := by
  unfold send
  split
  · split
    · rfl
    · split_ifs <;> rfl
  · rfl

theorem ackDone_kind (p : Pump) (idx : Nat) : (p.ackDone idx).kind = p.kind := by
  unfold ackDone
  split
  · split <;> rfl
  · rfl

theorem ackTimeout_kind (p : Pump) (idx : Nat) : (p.ackTimeout idx).kind = p.kind := by
  unfold ackTimeout
  split_ifs <;> rfl

theorem recordChunkAck_kind (p : Pump) (idx : Nat) (ok : Bool) : (p.recordChunkAck idx ok).kind = p.kind := by
  unfold recordChunkAck
  split <;> rfl

/-! ## What a pump without a failure has accounted for

`held` is the set of chunk indices the other side holds. A sound pump has an explanation for
every index of the file: it is held, or planned, or being read, or waited for. Each step of
the pump keeps that, and setting an ack event keeps it when the index is held. -/

structure Sound (fileSize : Nat) (held : Nat → Prop) (p : Pump) : Prop where
  events : ∀ idx, p.ackEvents.get idx = some true → held idx
  planned : ∀ idx ∈ p.sendPlan, idx < chunkCount fileSize
  reading : ∀ idx, p.phase = .reading idx → idx < chunkCount fileSize
  drains : p.phase = .draining → p.failure = none → p.sendPlan = []
  completes : p.phase = .completing → ∀ idx < chunkCount fileSize, held idx
  covers : p.phase ≠ .returned → p.failure = none → ∀ idx < chunkCount fileSize,
    held idx ∨ idx ∈ p.sendPlan ∨ p.phase = .reading idx ∨ idx ∈ p.ackTasks

variable {fileSize : Nat} {held : Nat → Prop} {p : Pump}

section

variable (h : p.Sound fileSize held)
include h

theorem Sound.mono {held' : Nat → Prop} (hsub : ∀ idx, held idx → held' idx) : p.Sound fileSize held' where
  events idx hidx := hsub idx (h.events idx hidx)
  planned := h.planned
  reading := h.reading
  drains := h.drains
  completes hp idx hidx := hsub idx (h.completes hp idx hidx)
  covers hp hf idx hidx := (h.covers hp hf idx hidx).imp_left (hsub idx)

theorem Sound.returned : ({ p with phase := .returned } : Pump).Sound fileSize held where
  events := h.events
  planned := h.planned
  reading _ hp := nomatch hp
  drains hp := nomatch hp
  completes hp := nomatch hp
  covers hp := absurd rfl hp

omit h in
theorem sound_start (window : Nat) :
    (start .initial (List.range (chunkCount fileSize)) window).Sound fileSize held where
  events idx h := by simp [start] at h
  planned idx h := List.mem_range.mp h
  reading _ hp := nomatch hp
  drains hp := nomatch hp
  completes hp := nomatch hp
  covers _ _ idx hidx := .inr (.inl (List.mem_range.mpr hidx))

omit h in
@[simp] theorem fail_failure_ne_none (f : PumpFailure) : (p.fail f).failure ≠ none := by
  cases h : p.failure <;> simp [fail, h]

omit h in
theorem Sound.of_failure {q : Pump} (hfail : q.failure ≠ none)
    (events : ∀ idx, q.ackEvents.get idx = some true → held idx)
    (planned : ∀ idx ∈ q.sendPlan, idx < chunkCount fileSize)
    (reading : ∀ idx, q.phase = .reading idx → idx < chunkCount fileSize)
    (completes : q.phase = .completing → ∀ idx < chunkCount fileSize, held idx) : q.Sound fileSize held where
  events := events
  planned := planned
  reading := reading
  drains _ hf := absurd hf hfail
  completes := completes
  covers _ hf := absurd hf hfail

theorem acquire_sound : p.acquire.Sound fileSize held := by
  unfold acquire
  split
  case h_2 => exact h
  case h_1 hphase =>
    split
    case isTrue hfail => exact .of_failure (Option.isSome_iff_ne_none.mp hfail) h.events h.planned (by simp) (by simp)
    case isFalse hfail =>
      have hcov := h.covers (by simp [hphase]) (by simpa using hfail)
      split
      case h_1 hplan =>
        refine ⟨h.events, h.planned, by simp, fun _ _ => hplan, by simp, fun _ _ => ?_⟩
        simpa [hphase, hplan] using hcov
      case h_2 next rest hplan =>
        split
        · exact h
        have hplanned := h.planned
        simp only [hplan, List.mem_cons, forall_eq_or_imp] at hplanned hcov
        refine ⟨h.events, hplanned.2, ?_, by simp, by simp, fun _ _ idx hidx => ?_⟩
        · rintro idx ⟨⟩
          exact hplanned.1
        have := hcov idx hidx
        simp only [hphase, reduceCtorEq, false_or, PumpPhase.reading.injEq] at this ⊢
        tauto

theorem send_sound (outcome : SendOutcome) : (p.send fileSize outcome).1.Sound fileSize held := by
  unfold send
  split
  case h_2 => exact h
  case h_1 idx hphase =>
    have hidx := h.reading idx hphase
    have hevents : ∀ i, (p.ackEvents.put idx false).get i = some true → held i := by
      intro i hi
      rw [Table.get_put] at hi
      split at hi
      · simp at hi
      · exact h.events i hi
    split
    · exact .of_failure (by simp) h.events h.planned (by simp [fail]) (by simp [fail])
    -- the plan stays inside the file, so the read is never empty
    rw [if_neg (not_le.mpr ((lt_chunkCount_iff fileSize idx).mp hidx))]
    split
    · refine ⟨hevents, h.planned, by simp, by simp, by simp, fun _ hf i hi => ?_⟩
      have := h.covers (by simp [hphase]) hf i hi
      simp only [hphase, PumpPhase.reading.injEq] at this
      simp only [List.mem_append, List.mem_singleton]
      tauto
    · exact .of_failure (by simp) hevents h.planned (by simp [fail]) (by simp [fail])

theorem ackDone_sound (idx : Nat) : (p.ackDone idx).Sound fileSize held := by
  unfold ackDone
  split
  case isFalse => exact h
  case isTrue hmem =>
    split
    case h_3 => exact h
    case h_1 => exact .of_failure (by simp) h.events h.planned h.reading h.completes
    case h_2 hset =>
      refine ⟨fun i hi => ?_, h.planned, h.reading, h.drains, h.completes, fun hp hf i hi => ?_⟩
      · rw [Table.get_delete] at hi
        split at hi
        · simp at hi
        · exact h.events i hi
      by_cases heq : i = idx
      · exact .inl (heq ▸ h.events idx hset)
      rw [List.mem_erase_of_ne heq]
      exact h.covers hp hf i hi

theorem ackTimeout_sound (idx : Nat) : (p.ackTimeout idx).Sound fileSize held := by
  unfold ackTimeout
  split
  · exact .of_failure (by simp) h.events h.planned h.reading h.completes
  · exact h

/-- The pump does not look at the sign of the ack. -/
theorem recordChunkAck_sound {idx : Nat} (ok : Bool)
    (hheld : p.ackEvents.get idx = some false → held idx) : (p.recordChunkAck idx ok).Sound fileSize held := by
  unfold recordChunkAck
  split
  case h_1 => exact h
  case h_2 set hset =>
    have hidx : held idx := by
      cases set with
      | false => exact hheld hset
      | true => exact h.events idx hset
    refine ⟨fun i hi => ?_, h.planned, h.reading, h.drains, h.completes, h.covers⟩
    rw [Table.get_put] at hi
    split at hi
    case isTrue heq => exact heq ▸ hidx
    case isFalse => exact h.events i hi

/-- **A drained pump without a failure has delivered the file**: nothing is left in its plan
and nobody waits, so every index is held. -/
theorem Sound.all_held (hdrained : p.drained = true)
    (hfail : p.failure = none) : ∀ idx < chunkCount fileSize, held idx := by
  intro idx hidx
  simp only [drained, Bool.and_eq_true, beq_iff_eq, List.isEmpty_iff] at hdrained
  have := h.covers (by simp [hdrained.1]) hfail idx hidx
  simpa [h.drains hdrained.1 hfail, hdrained.1, hdrained.2] using this

end

end Pump

end NexusGrid.Storage

import NexusGrid.Lib.Permits
import NexusGrid.Lib.Run
import NexusGrid.Storage.Pump

/-! # The send window

`Pump` names the event and the `_wait_ack` task of a chunk by its index.

Here every turn of the loop has a ticket of its own, so that an index that is planned twice has two.
The permits of the semaphore are counted over the loop and its tasks, which is the invariant of runs.
-/

namespace NexusGrid.Storage

open Lib

/-! ## The loop and its tasks -/

/-- One turn of the send loop: its ticket and the index of the chunk. -/
structure Turn where
  ticket : Nat
  idx : Int
deriving DecidableEq

/-- How a `_wait_ack` task ends. -/
inductive TaskEnd
  | acked
  | timedOut
  /-- There was no event for the index when the task started. -/
  | noEvent
deriving DecidableEq

/-- Why the loop stops before the end of its plan. -/
inductive LoopStop
  | fileChanged
  | emptyRead
  | sendFailed
deriving DecidableEq

inductive SenderPhase
  /-- At the top of the loop. -/
  | looping
  | acquiring (idx : Int)
  /-- Has the permit; looks at the file and reads. -/
  | reading (t : Turn)
  /-- The event is registered and `_send_to_peer` runs. -/
  | sending (t : Turn)
  | draining
  | returned (result : Bool)
  /-- A turn that was under way keeps its permit. -/
  | raised (t : Option Turn)
deriving DecidableEq

/-- A running `transfer_deposit` with its tasks. -/
structure Sender where
  sendPlan : List Int
  windowSem : Semaphore
  /-- `pump["ack_events"]`. -/
  ackEvents : Table Int Turn
  /-- The events that are set. -/
  isSet : List Turn
  /-- The tasks that have not run yet. -/
  created : List Turn
  waiting : List (Turn × Turn)
  acked : List Turn
  ended : List (Turn × TaskEnd)
  failure : Option PumpFailure
  phase : SenderPhase
  /-- Where the loop has stopped, and why. -/
  stopped : Option (Int × LoopStop)
  /-- The acknowledgements that have come in. -/
  acks : List (Int × Bool)

namespace Sender

/-- `transfer_deposit` as it enters the loop. -/
def start (sendPlan : List Int) (window : Nat) : Sender where
  sendPlan := sendPlan
  windowSem := .new window
  ackEvents := ∅
  isSet := []
  created := []
  waiting := []
  acked := []
  ended := []
  failure := none
  phase := .looping
  stopped := none
  acks := []

variable (s : Sender)

/-- `if not failure: failure.append(f)`. -/
def fail (f : PumpFailure) : Sender := { s with failure := s.failure <|> some f }

def next : Sender :=
  match s.phase with
  | .looping =>
    if s.failure.isSome then { s with phase := .draining }
    else match s.sendPlan with
      | [] => { s with phase := .draining }
      | idx :: rest => { s with sendPlan := rest, phase := .acquiring idx }
  | _ => s

/-- `await window_sem.acquire()` returns, and the failure slot is looked at once more. -/
def acquire : Sender :=
  match s.phase with
  | .acquiring idx =>
    if s.windowSem.value = 0 then s
    else
      let sem := s.windowSem.acquire
      if s.failure.isSome then
        { s with windowSem := sem.release s.windowSem.taken, phase := .draining }
      else { s with windowSem := sem, phase := .reading ⟨s.windowSem.taken, idx⟩ }
  | _ => s

/-- What the turn finds. -/
inductive ReadEnd
  | drift
  | empty
  | data
deriving DecidableEq

def stop (t : Turn) (why : LoopStop) : Sender :=
  { s with
    windowSem := s.windowSem.release t.ticket, stopped := some (t.idx, why), phase := .draining }

def read (r : ReadEnd) : Sender :=
  match s.phase with
  | .reading t =>
    match r with
    | .drift => (s.stop t .fileChanged).fail .fileChanged
    -- an empty read ends the loop without a failure
    | .empty => s.stop t .emptyRead
    | .data => { s with ackEvents := s.ackEvents.put t.idx t, phase := .sending t }
  | _ => s

/-- `_send_to_peer` returns. -/
def sent (ok : Bool) : Sender :=
  match s.phase with
  | .sending t =>
    if ok then { s with created := s.created ++ [t], phase := .looping }
    else (s.stop t .sendFailed).fail .sendFailed
  | _ => s

def raise : Sender :=
  match s.phase with
  | .acquiring _ | .draining => { s with phase := .raised none }
  | .reading t | .sending t => { s with phase := .raised (some t) }
  | _ => s

def endTask (t : Turn) (e : TaskEnd) : Sender :=
  { s with windowSem := s.windowSem.release t.ticket, ended := (t, e) :: s.ended }

def waitAckStart (t : Turn) : Sender :=
  if t ∈ s.created then
    let s := { s with created := s.created.erase t }
    match s.ackEvents.get t.idx with
    | none => (s.endTask t .noEvent).fail .missingAckEvent
    | some event => { s with waiting := s.waiting ++ [(t, event)] }
  else s

/-- A task wakes up because its event is set. -/
def waitAckWake (t event : Turn) : Sender :=
  if (t, event) ∈ s.waiting ∧ event ∈ s.isSet then
    { s with
      waiting := s.waiting.erase (t, event), acked := s.acked ++ [t],
      ackEvents := s.ackEvents.delete t.idx }
  else s

def waitAckEnd (t : Turn) : Sender := if t ∈ s.acked then { s with acked := s.acked.erase t }.endTask t .acked else s

/-- `asyncio.wait_for` raises; it may do so just as the event is set. -/
def waitAckTimeout (t event : Turn) : Sender :=
  if (t, event) ∈ s.waiting then
    ({ s with waiting := s.waiting.erase (t, event) }.endTask t .timedOut).fail .ackTimeout
  else s

/-- `record_chunk_ack`: the event is set for a negative acknowledgement too. -/
def recordChunkAck (idx : Int) (ok : Bool) : Sender :=
  { s with
    acks := s.acks ++ [(idx, ok)],
    isSet := match s.ackEvents.get idx with
      | none => s.isSet
      | some event => event :: s.isSet }

/-- All tasks are done, and `transfer_deposit` returns. -/
def ret : Sender :=
  if s.phase = .draining ∧ s.created = [] ∧ s.waiting = [] ∧ s.acked = [] then
    { s with phase := .returned s.failure.isNone }
  else s

end Sender

/-! ## Events -/

inductive SenderEvent
  | next
  | acquire
  | read (r : Sender.ReadEnd)
  | sent (ok : Bool)
  | raise
  | waitAckStart (t : Turn)
  | waitAckWake (t event : Turn)
  | waitAckEnd (t : Turn)
  | waitAckTimeout (t event : Turn)
  | recordChunkAck (idx : Int) (ok : Bool)
  | ret
deriving DecidableEq

namespace Sender

def step (s : Sender) : SenderEvent → Sender
  | .next => s.next
  | .acquire => s.acquire
  | .read r => s.read r
  | .sent ok => s.sent ok
  | .raise => s.raise
  | .waitAckStart t => s.waitAckStart t
  | .waitAckWake t event => s.waitAckWake t event
  | .waitAckEnd t => s.waitAckEnd t
  | .waitAckTimeout t event => s.waitAckTimeout t event
  | .recordChunkAck idx ok => s.recordChunkAck idx ok
  | .ret => s.ret

end Sender

/-! ## Counting turns

A turn is with the loop or with one of its tasks. An orphan is a task that ended without an event.
-/

def SenderPhase.turn? : SenderPhase → Option Turn
  | .reading t | .sending t => some t
  | .raised t => t
  | .looping | .acquiring _ | .draining | .returned _ => none

section Turn

variable (t : Turn)

@[simp] theorem turn?_looping : SenderPhase.looping.turn? = none := rfl
@[simp] theorem turn?_acquiring (idx : Int) : (SenderPhase.acquiring idx).turn? = none := rfl
@[simp] theorem turn?_reading : (SenderPhase.reading t).turn? = some t := rfl
@[simp] theorem turn?_sending : (SenderPhase.sending t).turn? = some t := rfl
@[simp] theorem turn?_draining : SenderPhase.draining.turn? = none := rfl
@[simp] theorem turn?_returned (result : Bool) : (SenderPhase.returned result).turn? = none := rfl
@[simp] theorem turn?_raised (t : Option Turn) : (SenderPhase.raised t).turn? = t := rfl

end Turn

namespace Sender

/-- The turns whose permit is out. -/
def turns (s : Sender) : List Turn := s.phase.turn?.toList ++ s.created ++ s.waiting.map Prod.fst ++ s.acked

/-- The tasks that ended without an event. -/
def orphans (s : Sender) : Nat := s.ended.countP fun e => e.2 = .noEvent

/-- Chunks sent, or being sent, and neither acknowledged nor timed out. -/
def inFlight (s : Sender) : Nat :=
  (match s.phase with
    | .sending _ => 1
    | _ => 0) + s.created.length + s.waiting.length + s.orphans

def load (s : Sender) : Nat := s.phase.turn?.toList.length + s.created.length + s.waiting.length + s.orphans

theorem inFlight_le_load (s : Sender) : s.inFlight ≤ s.load := by
  unfold inFlight load
  cases s.phase <;> simp

/-! ## The window is kept by every event -/

/-- The turns have the permits that are out of `w`. -/
structure Windowed (w : Nat) (s : Sender) : Prop where
  balanced : s.windowSem.Balanced w (s.turns.map Turn.ticket)
  clean : s.failure = none → s.orphans = 0
  fits : s.load ≤ w

variable {w : Nat} {s s' : Sender} {t : Turn}

theorem windowed_start (sendPlan : List Int) (w : Nat) : (start sendPlan w).Windowed w where
  balanced := Semaphore.balanced_new w
  clean _ := rfl
  fits := Nat.zero_le w

theorem load_le_of_clean (h : s.orphans = 0) : s.load ≤ (s.turns.map Turn.ticket).length := by
  simp only [load, h, turns, List.length_map, List.length_append]
  omega

theorem Windowed.move (h : s.Windowed w) (hsem : s'.windowSem = s.windowSem) (hturns : s.turns.Perm s'.turns)
    (hclean : s'.failure = none → s.failure = none ∧ s'.orphans = s.orphans) (hload : s'.load ≤ s.load) :
    s'.Windowed w where
  balanced := by
    rw [hsem]
    exact h.balanced.of_perm (hturns.map Turn.ticket)
  clean hf := by
    obtain ⟨hf, horphans⟩ := hclean hf
    rw [horphans]
    exact h.clean hf
  fits := hload.trans h.fits

theorem Windowed.giveBack (h : s.Windowed w) (hsem : s'.windowSem = s.windowSem.release t.ticket)
    (hturns : s.turns.Perm (t :: s'.turns))
    (hclean : s'.failure = none → s.failure = none ∧ s'.orphans = s.orphans) (hload : s'.load ≤ s.load) :
    s'.Windowed w where
  balanced := by
    rw [hsem]
    exact (h.balanced.of_perm (hturns.map Turn.ticket)).release
  clean hf := by
    obtain ⟨hf, horphans⟩ := hclean hf
    rw [horphans]
    exact h.clean hf
  fits := hload.trans h.fits

theorem fail_failure_ne_none (s : Sender) (f : PumpFailure) : (s.fail f).failure ≠ none := by
  cases h : s.failure <;> simp [fail, h]

theorem map_fst_erase {event : Turn} {l : List (Turn × Turn)} (h : (t, event) ∈ l) :
    (l.map Prod.fst).Perm (t :: (l.erase (t, event)).map Prod.fst) :=
  (List.perm_cons_erase h).map Prod.fst

theorem turns_stop (hphase : s.phase.turn? = some t) (why : LoopStop) : s.turns.Perm (t :: (s.stop t why).turns) := by
  simp [turns, stop, hphase]

theorem turns_sent (hphase : s.phase = .sending t) : s.turns.Perm (s.sent true).turns := by
  refine List.perm_iff_count.mpr fun x => ?_
  simp only [sent, turns, hphase, turn?_looping, turn?_sending, Option.toList_some, Option.toList_none,
    List.count_append, List.nil_append, if_true]
  omega

theorem turns_erase_created (h : t ∈ s.created) :
    s.turns.Perm (t :: ({ s with created := s.created.erase t } : Sender).turns) := by
  refine List.perm_iff_count.mpr fun x => ?_
  have hcount := (List.perm_cons_erase h).count_eq x
  simp only [turns, List.count_append, List.count_cons] at hcount ⊢
  omega

theorem turns_erase_waiting {event : Turn} (h : (t, event) ∈ s.waiting) :
    s.turns.Perm (t :: ({ s with waiting := s.waiting.erase (t, event) } : Sender).turns) := by
  refine List.perm_iff_count.mpr fun x => ?_
  have hcount := (map_fst_erase h).count_eq x
  simp only [turns, List.count_append, List.count_cons] at hcount ⊢
  omega

theorem turns_erase_acked (h : t ∈ s.acked) :
    s.turns.Perm (t :: ({ s with acked := s.acked.erase t } : Sender).turns) := by
  refine List.perm_iff_count.mpr fun x => ?_
  have hcount := (List.perm_cons_erase h).count_eq x
  simp only [turns, List.count_append, List.count_cons] at hcount ⊢
  omega

theorem turns_add_waiting (s : Sender) (t event : Turn) :
    (t :: s.turns).Perm ({ s with waiting := s.waiting ++ [(t, event)] } : Sender).turns := by
  refine List.perm_iff_count.mpr fun x => ?_
  simp only [turns, List.count_append, List.count_cons, List.map_append, List.map_cons, List.map_nil, List.count_nil]
  omega

theorem turns_add_acked (s : Sender) (t : Turn) :
    (t :: s.turns).Perm ({ s with acked := s.acked ++ [t] } : Sender).turns := by
  refine List.perm_iff_count.mpr fun x => ?_
  simp only [turns, List.count_append, List.count_cons, List.count_nil]
  omega

section

variable (h : s.Windowed w)
include h

theorem next_windowed : s.next.Windowed w := by
  unfold next
  split
  case h_2 => exact h
  case h_1 hphase =>
    have hmove (plan : List Int) (phase : SenderPhase) (hturn : phase.turn? = none) :
        ({ s with sendPlan := plan, phase := phase } : Sender).Windowed w := by
      refine h.move rfl ?_ (fun hf => ⟨hf, rfl⟩) ?_
      · simp [turns, hphase, hturn]
      · simp [load, orphans, hphase, hturn]
    split
    · exact hmove s.sendPlan .draining rfl
    split
    · exact hmove s.sendPlan .draining rfl
    next idx rest _ => exact hmove rest (.acquiring idx) rfl

theorem acquire_windowed : s.acquire.Windowed w := by
  unfold acquire
  split
  case h_2 => exact h
  case h_1 idx hphase =>
    split
    · exact h
    case isFalse hfree =>
      have hout := h.balanced.acquire hfree
      have hnone : s.phase.turn? = none := by rw [hphase]; rfl
      split
      · -- a failure has come up meanwhile: the permit goes back at once
        next hfail =>
          refine ⟨?_, fun hf => absurd hf (Option.isSome_iff_ne_none.mp hfail), ?_⟩
          · have hback := hout.release
            simpa [turns, hnone] using hback
          have hfits := h.fits
          simpa [load, orphans, hnone] using hfits
      next hfail =>
        have hf : s.failure = none := by simpa using hfail
        have hclean := h.clean hf
        refine ⟨?_, fun _ => hclean, ?_⟩
        · simpa [turns, hnone] using hout
        -- there is room for one more, as every other chunk has a permit
        have hroom := h.balanced.length_lt hfree
        have hload := load_le_of_clean hclean
        simp only [load, orphans, hnone, turn?_reading, Option.toList_none, Option.toList_some,
          List.length_nil, List.length_singleton] at hload ⊢
        omega

theorem stop_windowed (hphase : s.phase.turn? = some t) (why : LoopStop) : (s.stop t why).Windowed w := by
  refine h.giveBack rfl (turns_stop hphase why) (fun hf => ⟨hf, rfl⟩) ?_
  simp [load, orphans, stop, hphase]

theorem fail_windowed (f : PumpFailure) : (s.fail f).Windowed w :=
  h.move rfl (.refl _) (fun hf => absurd hf (s.fail_failure_ne_none f)) (Nat.le_refl _)

theorem read_windowed (r : ReadEnd) : (s.read r).Windowed w := by
  unfold read
  split
  case h_2 => exact h
  case h_1 t hphase =>
    have hturn : s.phase.turn? = some t := by rw [hphase]; rfl
    cases r with
    | drift => exact fail_windowed (stop_windowed h hturn _) _
    | empty => exact stop_windowed h hturn _
    | data =>
      refine h.move rfl ?_ (fun hf => ⟨hf, rfl⟩) ?_
      · simp [turns, hturn]
      · simp [load, orphans, hturn]

theorem sent_windowed (ok : Bool) : (s.sent ok).Windowed w := by
  unfold sent
  split
  case h_2 => exact h
  case h_1 t hphase =>
    have hturn : s.phase.turn? = some t := by rw [hphase]; rfl
    cases ok with
    | false => exact fail_windowed (stop_windowed h hturn _) _
    | true =>
      have hturns := turns_sent hphase
      simp only [sent, hphase, if_true] at hturns
      refine h.move rfl hturns (fun hf => ⟨hf, rfl⟩) ?_
      simp only [if_true, load, orphans, hturn, turn?_looping, Option.toList_none, Option.toList_some, List.length_nil,
        List.length_singleton, List.length_append]
      omega

theorem raise_windowed : s.raise.Windowed w := by
  have hmove (phase : SenderPhase) (hturn : phase.turn? = s.phase.turn?) :
      ({ s with phase := phase } : Sender).Windowed w := by
    refine h.move rfl ?_ (fun hf => ⟨hf, rfl⟩) ?_
    · simp [turns, hturn]
    · simp [load, orphans, hturn]
  unfold raise
  split
  all_goals first | exact h | skip
  all_goals
    next hphase =>
      refine hmove _ ?_
      rw [hphase]
      rfl

theorem waitAckStart_windowed (t : Turn) : (s.waitAckStart t).Windowed w := by
  unfold waitAckStart
  split
  case isFalse => exact h
  case isTrue hmem =>
    have hturns := turns_erase_created hmem
    have hlen := (List.perm_cons_erase hmem).length_eq
    rw [List.length_cons] at hlen
    dsimp only
    split
    · -- the chunk stays under way, without a task
      refine h.giveBack rfl hturns (fun hf => absurd hf (fail_failure_ne_none _ _)) ?_
      simp only [load, orphans, fail, endTask, List.countP_cons, decide_true, if_true]
      omega
    next event _ =>
      refine h.move rfl (hturns.trans (turns_add_waiting _ t event)) (fun hf => ⟨hf, rfl⟩) ?_
      simp only [load, orphans, List.length_append, List.length_singleton]
      omega

theorem waitAckWake_windowed (t event : Turn) : (s.waitAckWake t event).Windowed w := by
  unfold waitAckWake
  split
  case isFalse => exact h
  case isTrue hmem =>
    have hlen := (List.perm_cons_erase hmem.1).length_eq
    rw [List.length_cons] at hlen
    refine h.move rfl ((turns_erase_waiting hmem.1).trans (turns_add_acked _ t)) (fun hf => ⟨hf, rfl⟩) ?_
    simp only [load, orphans]
    omega

theorem waitAckEnd_windowed (t : Turn) : (s.waitAckEnd t).Windowed w := by
  unfold waitAckEnd
  split
  case isFalse => exact h
  case isTrue hmem =>
    refine h.giveBack rfl (turns_erase_acked hmem) (fun hf => ⟨hf, ?_⟩) ?_
    · simp [orphans, endTask]
    · simp [load, orphans, endTask]

theorem waitAckTimeout_windowed (t event : Turn) : (s.waitAckTimeout t event).Windowed w := by
  unfold waitAckTimeout
  split
  case isFalse => exact h
  case isTrue hmem =>
    have hlen := (List.perm_cons_erase hmem).length_eq
    rw [List.length_cons] at hlen
    refine h.giveBack rfl (turns_erase_waiting hmem) (fun hf => absurd hf (fail_failure_ne_none _ _)) ?_
    simp only [load, orphans, fail, endTask, List.countP_cons, reduceCtorEq, decide_false, Bool.false_eq_true, if_false]
    omega

theorem ret_windowed : s.ret.Windowed w := by
  unfold ret
  split
  case isFalse => exact h
  case isTrue hdrained =>
    refine h.move rfl ?_ (fun hf => ⟨hf, rfl⟩) ?_
    · simp [turns, hdrained.1]
    · simp [load, orphans, hdrained.1]

theorem step_windowed (e : SenderEvent) : (s.step e).Windowed w := by
  cases e with
  | next => exact next_windowed h
  | acquire => exact acquire_windowed h
  | read r => exact read_windowed h r
  | sent ok => exact sent_windowed h ok
  | raise => exact raise_windowed h
  | waitAckStart t => exact waitAckStart_windowed h t
  | waitAckWake t event => exact waitAckWake_windowed h t event
  | waitAckEnd t => exact waitAckEnd_windowed h t
  | waitAckTimeout t event => exact waitAckTimeout_windowed h t event
  | recordChunkAck idx ok => exact h.move rfl (.refl _) (fun hf => ⟨hf, rfl⟩) (Nat.le_refl _)
  | ret => exact ret_windowed h

end

/-! ## The return -/

/-- A call that has returned has no task left, and says if it failed. -/
def Settled (s : Sender) : Prop :=
  ∀ b, s.phase = .returned b → s.created = [] ∧ s.waiting = [] ∧ s.acked = [] ∧ b = s.failure.isNone

theorem settled_of_ne (h : ∀ b, s.phase ≠ .returned b) : s.Settled := fun b hb => absurd hb (h b)

theorem Settled.ne_returned (h : s.Settled) (ht : t ∈ s.created ∨ t ∈ s.waiting.map Prod.fst ∨ t ∈ s.acked)
    (b : Bool) : s.phase ≠ .returned b := by
  intro hb
  obtain ⟨hcreated, hwaiting, hacked, -⟩ := h b hb
  simp [hcreated, hwaiting, hacked] at ht

theorem step_settled (h : s.Settled) (e : SenderEvent) : (s.step e).Settled := by
  cases e with
  | next =>
    simp only [step, next]
    split
    · split
      · exact settled_of_ne nofun
      · split <;> exact settled_of_ne nofun
    · exact h
  | acquire =>
    simp only [step, acquire]
    split
    · split
      · exact h
      · split <;> exact settled_of_ne nofun
    · exact h
  | read r =>
    simp only [step, read]
    split
    · cases r <;> exact settled_of_ne nofun
    · exact h
  | sent ok =>
    simp only [step, sent]
    split
    · cases ok <;> exact settled_of_ne nofun
    · exact h
  | raise =>
    simp only [step, raise]
    split
    all_goals first | exact h | exact settled_of_ne nofun
  | waitAckStart t =>
    simp only [step, waitAckStart]
    split
    next hmem =>
      have hne := h.ne_returned (.inl hmem)
      split <;> exact settled_of_ne hne
    · exact h
  | waitAckWake t event =>
    simp only [step, waitAckWake]
    split
    next hmem => exact settled_of_ne (h.ne_returned (.inr (.inl (List.mem_map_of_mem hmem.1))))
    · exact h
  | waitAckEnd t =>
    simp only [step, waitAckEnd]
    split
    next hmem => exact settled_of_ne (h.ne_returned (.inr (.inr hmem)))
    · exact h
  | waitAckTimeout t event =>
    simp only [step, waitAckTimeout]
    split
    next hmem => exact settled_of_ne (h.ne_returned (.inr (.inl (List.mem_map_of_mem hmem))))
    · exact h
  | recordChunkAck idx ok => exact h
  | ret =>
    simp only [step, ret]
    split
    next hdrained =>
      intro b hb
      cases hb
      exact ⟨hdrained.2.1, hdrained.2.2.1, hdrained.2.2.2, rfl⟩
    · exact h

theorem settled_start (sendPlan : List Int) (w : Nat) : (start sendPlan w).Settled :=
  settled_of_ne fun _ hb => nomatch hb

theorem run_windowed (sendPlan : List Int) (w : Nat) (es : List SenderEvent) :
    (run step (start sendPlan w) es).Windowed w :=
  run_invariant_of_step (P := Windowed w) (fun _ e h => step_windowed h e) (windowed_start sendPlan w) es

theorem run_settled (sendPlan : List Int) (w : Nat) (es : List SenderEvent) :
    (run step (start sendPlan w) es).Settled :=
  run_invariant_of_step (P := Settled) (fun _ e h => step_settled h e) (settled_start sendPlan w) es

/-- **The send window.** -/
theorem window_kept (sendPlan : List Int) (w : Nat) (es : List SenderEvent) :
    (run step (start sendPlan w) es).inFlight ≤ w ∧ ∀ b, (run step (start sendPlan w) es).phase = .returned b →
        (run step (start sendPlan w) es).windowSem.value = w ∧
          ∀ k, (run step (start sendPlan w) es).windowSem.given.count k =
            if k < (run step (start sendPlan w) es).windowSem.taken then 1 else 0 := by
  have h := run_windowed sendPlan w es
  refine ⟨(inFlight_le_load _).trans h.fits, fun b hb => ?_⟩
  obtain ⟨hcreated, hwaiting, hacked, -⟩ := run_settled sendPlan w es b hb
  have hturns : (run step (start sendPlan w) es).turns = [] := by simp [turns, hb, hcreated, hwaiting, hacked]
  have hbalanced := h.balanced
  rw [hturns] at hbalanced
  exact hbalanced.settled

end Sender

end NexusGrid.Storage

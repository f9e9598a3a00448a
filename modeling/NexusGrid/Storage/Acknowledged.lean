import NexusGrid.Storage.Sender

/-! # What the result of a transfer says

`transfer_deposit` returns `True` iff every chunk was acked, says its docstring.
-/

namespace NexusGrid.Storage

open Lib

namespace Sender

variable {s s' : Sender} {t : Turn} {w : Nat} {idx : Int}

/-! ## Acknowledgements that were heard -/

def HasAck (s : Sender) (idx : Int) : Prop := ∃ ok, (idx, ok) ∈ s.acks

structure Heard (s : Sender) : Prop where
  events : ∀ idx event, s.ackEvents.get idx = some event → event.idx = idx
  waits : ∀ p ∈ s.waiting, p.2.idx = p.1.idx
  sets : ∀ event ∈ s.isSet, s.HasAck event.idx
  acked : ∀ t ∈ s.acked, s.HasAck t.idx
  ended : ∀ e ∈ s.ended, e.2 = .acked → s.HasAck e.1.idx

theorem heard_start (sendPlan : List Int) (w : Nat) : (start sendPlan w).Heard where
  events _ _ h := by simp [start] at h
  waits _ h := nomatch h
  sets _ h := nomatch h
  acked _ h := nomatch h
  ended _ h := nomatch h

section

variable (h : s.Heard)
include h

theorem Heard.same (hevents : s'.ackEvents = s.ackEvents) (hwaiting : s'.waiting = s.waiting)
    (hset : s'.isSet = s.isSet) (hacked : s'.acked = s.acked) (hended : s'.ended = s.ended)
    (hacks : s'.acks = s.acks) : s'.Heard := by
  obtain ⟨h1, h2, h3, h4, h5⟩ := h
  constructor <;> simpa only [HasAck, hevents, hwaiting, hset, hacked, hended, hacks]

theorem next_heard : s.next.Heard := by
  unfold next
  split
  · split
    · exact h.same rfl rfl rfl rfl rfl rfl
    · split <;> exact h.same rfl rfl rfl rfl rfl rfl
  · exact h

theorem acquire_heard : s.acquire.Heard := by
  unfold acquire
  split
  · split
    · exact h
    · split <;> exact h.same rfl rfl rfl rfl rfl rfl
  · exact h

theorem read_heard (r : ReadEnd) : (s.read r).Heard := by
  unfold read
  split
  case h_2 => exact h
  case h_1 t hphase =>
    cases r with
    | drift => exact h.same rfl rfl rfl rfl rfl rfl
    | empty => exact h.same rfl rfl rfl rfl rfl rfl
    | data =>
      refine ⟨fun i event hget => ?_, h.waits, h.sets, h.acked, h.ended⟩
      rw [Table.get_put] at hget
      split_ifs at hget with hi
      · rw [← Option.some.inj hget, hi]
      · exact h.events i event hget

theorem sent_heard (ok : Bool) : (s.sent ok).Heard := by
  unfold sent
  split
  · cases ok <;> exact h.same rfl rfl rfl rfl rfl rfl
  · exact h

theorem raise_heard : s.raise.Heard := by
  unfold raise
  split
  all_goals first | exact h | exact h.same rfl rfl rfl rfl rfl rfl

theorem waitAckStart_heard (t : Turn) : (s.waitAckStart t).Heard := by
  unfold waitAckStart
  split
  case isFalse => exact h
  case isTrue hmem =>
    dsimp only
    split
    · refine ⟨h.events, h.waits, h.sets, h.acked, fun e he hacked => ?_⟩
      rcases List.mem_cons.mp he with rfl | he
      · cases hacked
      · exact h.ended e he hacked
    next event hget =>
      refine ⟨h.events, fun p hp => ?_, h.sets, h.acked, h.ended⟩
      rcases List.mem_append.mp hp with hp | hp
      · exact h.waits p hp
      rw [List.mem_singleton.mp hp]
      exact h.events t.idx event hget

theorem waitAckWake_heard (t event : Turn) : (s.waitAckWake t event).Heard := by
  unfold waitAckWake
  split
  case isFalse => exact h
  case isTrue hmem =>
    refine ⟨fun i ev hget => ?_, fun p hp => h.waits p (List.mem_of_mem_erase hp), h.sets, fun k hk => ?_, h.ended⟩
    · rw [Table.get_delete] at hget
      split_ifs at hget
      exact h.events i ev hget
    rcases List.mem_append.mp hk with hk | hk
    · exact h.acked k hk
    -- the event that woke the task is one of its index
    rw [List.mem_singleton.mp hk]
    have hidx : event.idx = t.idx := h.waits (t, event) hmem.1
    exact hidx ▸ h.sets event hmem.2

theorem waitAckEnd_heard (t : Turn) : (s.waitAckEnd t).Heard := by
  unfold waitAckEnd
  split
  case isFalse => exact h
  case isTrue hmem =>
    refine ⟨h.events, h.waits, h.sets, fun k hk => h.acked k (List.mem_of_mem_erase hk), fun e he hacked => ?_⟩
    rcases List.mem_cons.mp he with rfl | he
    · exact h.acked t hmem
    · exact h.ended e he hacked

theorem waitAckTimeout_heard (t event : Turn) : (s.waitAckTimeout t event).Heard := by
  unfold waitAckTimeout
  split
  case isFalse => exact h
  case isTrue hmem =>
    refine ⟨h.events, fun p hp => h.waits p (List.mem_of_mem_erase hp), h.sets, h.acked, fun e he hacked => ?_⟩
    rcases List.mem_cons.mp he with rfl | he
    · cases hacked
    · exact h.ended e he hacked

theorem recordChunkAck_heard (idx : Int) (ok : Bool) : (s.recordChunkAck idx ok).Heard := by
  have hmono {i : Int} (hi : s.HasAck i) : (s.recordChunkAck idx ok).HasAck i := by
    obtain ⟨b, hb⟩ := hi
    exact ⟨b, List.mem_append_left _ hb⟩
  refine ⟨h.events, h.waits, fun event hevent => ?_, fun t ht => hmono (h.acked t ht),
    fun e he hacked => hmono (h.ended e he hacked)⟩
  simp only [recordChunkAck] at hevent
  split at hevent
  · exact hmono (h.sets event hevent)
  next ev hget =>
    rcases List.mem_cons.mp hevent with rfl | hevent
    · rw [h.events idx event hget]
      exact ⟨ok, List.mem_append_right _ (List.mem_singleton_self _)⟩
    · exact hmono (h.sets event hevent)

theorem ret_heard : s.ret.Heard := by
  unfold ret
  split
  · exact h.same rfl rfl rfl rfl rfl rfl
  · exact h

theorem step_heard (e : SenderEvent) : (s.step e).Heard := by
  cases e with
  | next => exact next_heard h
  | acquire => exact acquire_heard h
  | read r => exact read_heard h r
  | sent ok => exact sent_heard h ok
  | raise => exact raise_heard h
  | waitAckStart t => exact waitAckStart_heard h t
  | waitAckWake t event => exact waitAckWake_heard h t event
  | waitAckEnd t => exact waitAckEnd_heard h t
  | waitAckTimeout t event => exact waitAckTimeout_heard h t event
  | recordChunkAck idx ok => exact recordChunkAck_heard h idx ok
  | ret => exact ret_heard h

end

end Sender

/-! ## The account of the plan

As long as nothing has failed, every index of the plan is to come, with a task, or has ended.
-/

def SenderPhase.wanted? : SenderPhase → Option Int
  | .acquiring idx => some idx
  | _ => none

inductive Stage
  | inLoop
  | after
  | raised
deriving DecidableEq

def SenderPhase.stage : SenderPhase → Stage
  | .looping | .acquiring _ | .reading _ | .sending _ => .inLoop
  | .draining | .returned _ => .after
  | .raised _ => .raised

namespace Sender

variable {plan : List Int} {s s' : Sender} {t : Turn} {w : Nat} {idx : Int}

/-- The indices that are still to come, that have a permit, and whose task has ended. -/
def accounted (s : Sender) : List Int :=
  s.sendPlan ++ s.phase.wanted?.toList ++ s.turns.map Turn.idx ++ s.ended.map fun e => e.1.idx

def stoppedAt (s : Sender) : List Int :=
  match s.stopped with
  | some (idx, .fileChanged) | some (idx, .sendFailed) => [idx]
  | some (_, .emptyRead) | none => []

/-- The indices that were given up. -/
def givenUp (s : Sender) : List Int := ((s.ended.filter fun e => e.2 ≠ .acked).map fun e => e.1.idx) ++ s.stoppedAt

structure Account (plan : List Int) (s : Sender) : Prop where
  planned : ∀ idx ∈ s.accounted, idx ∈ plan
  dropped : ∀ idx ∈ s.givenUp, idx ∈ plan
  blamed : s.failure = none ↔ s.givenUp = []
  fresh : s.phase.stage = .inLoop → s.stopped = none
  covers : s.phase.stage ≠ .raised → s.failure = none → s.stopped = none → ∀ idx ∈ plan, idx ∈ s.accounted
  drains : s.phase.stage = .after → s.failure = none → s.stopped = none → s.sendPlan = []

theorem account_start (sendPlan : List Int) (w : Nat) : (start sendPlan w).Account sendPlan where
  planned idx h := by simpa [start, accounted, turns, SenderPhase.wanted?] using h
  dropped _ h := nomatch h
  blamed := by simp [start, givenUp, stoppedAt]
  fresh _ := rfl
  covers _ _ _ idx h := by simpa [start, accounted, turns, SenderPhase.wanted?] using h
  drains h := nomatch h

section

variable (h : s.Account plan)
include h

theorem Account.keep (hstage : s'.phase.stage = s.phase.stage)
    (hacc : s.accounted.Perm s'.accounted) (hplan : s.phase.stage = .after → s'.sendPlan = s.sendPlan)
    (hfail : s'.failure = s.failure) (hgiven : s'.givenUp = s.givenUp) (hstop : s'.stopped = s.stopped) :
    s'.Account plan where
  planned idx hidx := h.planned idx (hacc.mem_iff.mpr hidx)
  dropped idx hidx := h.dropped idx (hgiven ▸ hidx)
  blamed := by
    rw [hfail, hgiven]
    exact h.blamed
  fresh hloop := by
    rw [hstop]
    exact h.fresh (hstage ▸ hloop)
  covers hraised hf hs idx hidx := by
    rw [hstage] at hraised
    exact hacc.mem_iff.mp (h.covers hraised (hfail ▸ hf) (hstop ▸ hs) idx hidx)
  drains hafter hf hs := by
    rw [hstage] at hafter
    rw [hplan hafter]
    exact h.drains hafter (hfail ▸ hf) (hstop ▸ hs)

theorem Account.giveUp (hidx : idx ∈ s.accounted) (hsub : s'.accounted ⊆ s.accounted)
    (hgiven : idx ∈ s'.givenUp) (honly : ∀ i ∈ s'.givenUp, i = idx ∨ i ∈ s.givenUp) (hfail : s'.failure ≠ none)
    (hfresh : s'.phase.stage = .inLoop → s'.stopped = none) : s'.Account plan where
  planned i hi := h.planned i (hsub hi)
  dropped i hi := by
    rcases honly i hi with rfl | hi
    · exact h.planned i hidx
    · exact h.dropped i hi
  blamed := ⟨fun hf => absurd hf hfail, fun hnil => absurd (hnil ▸ hgiven) List.not_mem_nil⟩
  fresh := hfresh
  covers _ hf := absurd hf hfail
  drains _ hf := absurd hf hfail

theorem Account.leave (hsub : s'.accounted ⊆ s.accounted) (hfail : s'.failure = s.failure)
    (hgiven : s'.givenUp = s.givenUp) (hstage : s'.phase.stage ≠ .inLoop)
    (hcovers : s'.phase.stage = .after → s'.failure = none → s'.stopped = none →
      s'.sendPlan = [] ∧ ∀ idx ∈ plan, idx ∈ s'.accounted) : s'.Account plan where
  planned idx hidx := h.planned idx (hsub hidx)
  dropped idx hidx := h.dropped idx (hgiven ▸ hidx)
  blamed := by
    rw [hfail, hgiven]
    exact h.blamed
  fresh hloop := absurd hloop hstage
  covers hraised hf hs := by
    have hafter : s'.phase.stage = .after := by
      cases hst : s'.phase.stage with
      | inLoop => exact absurd hst hstage
      | after => rfl
      | raised => exact absurd hst hraised
    exact (hcovers hafter hf hs).2
  drains hafter hf hs := (hcovers hafter hf hs).1

omit h in
theorem after_ne_inLoop : Stage.after ≠ .inLoop := by decide

omit h in
theorem raised_ne_inLoop : Stage.raised ≠ .inLoop := by decide

theorem next_account : s.next.Account plan := by
  unfold next
  split
  case h_2 => exact h
  case h_1 hphase =>
    have hacc : ({ s with phase := .draining } : Sender).accounted = s.accounted := by
      simp [accounted, turns, hphase, SenderPhase.wanted?]
    split
    next hfail =>
      refine h.leave (by rw [hacc]; exact .refl _) rfl rfl after_ne_inLoop fun _ hf => ?_
      exact absurd hf (Option.isSome_iff_ne_none.mp hfail)
    next hfail =>
      have hf : s.failure = none := by simpa using hfail
      split
      next hplan =>
        refine h.leave (by rw [hacc]; exact .refl _) rfl rfl after_ne_inLoop fun _ _ hs => ⟨hplan, ?_⟩
        rw [hacc]
        exact h.covers (by rw [hphase]; decide) hf hs
      next idx rest hplan =>
        refine h.keep (by rw [hphase]; rfl) ?_ (fun hst => by rw [hphase] at hst; cases hst) rfl rfl rfl
        simp only [accounted, turns, hphase, hplan, SenderPhase.wanted?, turn?_looping, turn?_acquiring,
          Option.toList_none, Option.toList_some, List.append_nil]
        refine List.perm_iff_count.mpr fun x => ?_
        simp only [List.count_append, List.count_cons, List.count_nil]
        omega

theorem acquire_account : s.acquire.Account plan := by
  unfold acquire
  split
  case h_2 => exact h
  case h_1 idx hphase =>
    split
    · exact h
    split
    next hfail =>
      refine h.leave ?_ rfl rfl after_ne_inLoop fun _ hf => absurd hf (Option.isSome_iff_ne_none.mp hfail)
      intro i hi
      simp only [accounted, turns, hphase, SenderPhase.wanted?, turn?_draining, turn?_acquiring,
        List.mem_append] at hi ⊢
      tauto
    · refine h.keep (by rw [hphase]; rfl) ?_ (fun _ => rfl) rfl rfl rfl
      simp only [accounted, turns, hphase, SenderPhase.wanted?, turn?_reading, turn?_acquiring,
        Option.toList_none, Option.toList_some, List.append_nil, List.nil_append, List.map_append, List.map_cons,
        List.map_nil]
      refine List.perm_iff_count.mpr fun x => ?_
      simp only [List.count_append]
      omega

omit h in
theorem accounted_stop (hphase : s.phase.turn? = some t) (why : LoopStop) :
    t.idx ∈ s.accounted ∧ (s.stop t why).accounted ⊆ s.accounted := by
  have hturns := turns_stop hphase why
  constructor
  · have hmem : t ∈ s.turns := hturns.mem_iff.mpr (.head _)
    simp only [accounted, List.mem_append]
    exact .inl (.inr (List.mem_map_of_mem hmem))
  intro i hi
  simp only [accounted, List.mem_append] at hi ⊢
  rcases hi with ((hi | hi) | hi) | hi
  · exact .inl (.inl (.inl hi))
  · exact absurd hi (by simp [stop, SenderPhase.wanted?])
  · obtain ⟨t', ht', rfl⟩ := List.mem_map.mp hi
    exact .inl (.inr (List.mem_map_of_mem (hturns.mem_iff.mpr (List.mem_cons_of_mem t ht'))))
  · exact .inr hi

theorem stop_fail_account (hphase : s.phase.turn? = some t) (hloop : s.phase.stage = .inLoop)
    (why : LoopStop) (hwhy : why ≠ .emptyRead) (f : PumpFailure) : ((s.stop t why).fail f).Account plan := by
  obtain ⟨hidx, hsub⟩ := accounted_stop hphase why
  have hstopped : (s.stop t why).stoppedAt = [t.idx] := by
    cases why with
    | fileChanged => rfl
    | sendFailed => rfl
    | emptyRead => exact absurd rfl hwhy
  have hnone : s.stoppedAt = [] := by simp [stoppedAt, h.fresh hloop]
  have hgiven : ((s.stop t why).fail f).givenUp = s.givenUp ++ [t.idx] := by
    have hended : ((s.stop t why).fail f).ended = s.ended := rfl
    have hsame : ((s.stop t why).fail f).stoppedAt = (s.stop t why).stoppedAt := rfl
    rw [givenUp, hended, hsame, hstopped, givenUp, hnone, List.append_nil]
  refine h.giveUp hidx hsub ?_ ?_ (fail_failure_ne_none _ _) fun hst => by cases hst
  · simp [hgiven]
  intro i hi
  rw [hgiven, List.mem_append, List.mem_singleton] at hi
  exact hi.symm

theorem stop_empty_account (hphase : s.phase.turn? = some t)
    (hloop : s.phase.stage = .inLoop) : (s.stop t .emptyRead).Account plan := by
  have hgiven : (s.stop t .emptyRead).givenUp = s.givenUp := by simp [givenUp, stoppedAt, stop, h.fresh hloop]
  exact h.leave (accounted_stop hphase _).2 rfl hgiven after_ne_inLoop fun _ _ hs => by cases hs

theorem read_account (r : ReadEnd) : (s.read r).Account plan := by
  unfold read
  split
  case h_2 => exact h
  case h_1 t hphase =>
    have hturn : s.phase.turn? = some t := by rw [hphase]; rfl
    have hloop : s.phase.stage = .inLoop := by rw [hphase]; rfl
    cases r with
    | drift => exact stop_fail_account h hturn hloop .fileChanged (by decide) _
    | empty => exact stop_empty_account h hturn hloop
    | data =>
      refine h.keep (by rw [hphase]; rfl) ?_ (fun _ => rfl) rfl rfl rfl
      simp [accounted, turns, hphase, SenderPhase.wanted?]

theorem sent_account (ok : Bool) : (s.sent ok).Account plan := by
  unfold sent
  split
  case h_2 => exact h
  case h_1 t hphase =>
    have hturn : s.phase.turn? = some t := by rw [hphase]; rfl
    have hloop : s.phase.stage = .inLoop := by rw [hphase]; rfl
    cases ok with
    | false => exact stop_fail_account h hturn hloop .sendFailed (by decide) _
    | true =>
      have hturns := turns_sent hphase
      simp only [sent, hphase, if_true] at hturns
      refine h.keep (by rw [hphase]; rfl) ?_ (fun _ => rfl) rfl rfl rfl
      simp only [accounted, hphase, SenderPhase.wanted?]
      exact ((hturns.map Turn.idx).append_left _).append_right _

theorem raise_account : s.raise.Account plan := by
  have hleave (o : Option Turn) (ho : ∀ t ∈ o, s.phase.turn? = some t) :
      ({ s with phase := .raised o } : Sender).Account plan := by
    refine h.leave ?_ rfl rfl raised_ne_inLoop fun hst => by cases hst
    intro i hi
    simp only [accounted, turns, SenderPhase.wanted?, turn?_raised, Option.toList_none, List.append_nil,
      List.mem_append, List.map_append] at hi ⊢
    cases o with
    | none =>
      tauto
    | some t =>
      rw [ho t rfl]
      tauto
  unfold raise
  split
  · exact hleave none fun _ h => by cases h
  · exact hleave none fun _ h => by cases h
  next t hphase => exact hleave (some t) fun t' ht' => by rw [hphase, ← Option.some.inj ht']; rfl
  next t hphase => exact hleave (some t) fun t' ht' => by rw [hphase, ← Option.some.inj ht']; rfl
  · exact h

omit h in
theorem accounted_endTask {s₁ : Sender} {e : TaskEnd} (hturns : s.turns.Perm (t :: s₁.turns))
    (hplan : s₁.sendPlan = s.sendPlan) (hphase : s₁.phase = s.phase) (hended : s₁.ended = s.ended) :
    s.accounted.Perm (s₁.endTask t e).accounted := by
  have hidx := hturns.map Turn.idx
  refine List.perm_iff_count.mpr fun x => ?_
  have hcount := hidx.count_eq x
  have hacc : (s₁.endTask t e).accounted = s₁.sendPlan ++ s₁.phase.wanted?.toList ++ s₁.turns.map Turn.idx ++
      t.idx :: s₁.ended.map fun e => e.1.idx := rfl
  rw [hacc, hplan, hphase, hended]
  simp only [accounted, List.count_append, List.map_cons, List.count_cons] at hcount ⊢
  omega

omit h in
theorem endTask_fail_account {s₁ : Sender} (e : TaskEnd) (h : s.Account plan) (hturns : s.turns.Perm (t :: s₁.turns))
    (hplan : s₁.sendPlan = s.sendPlan) (hphase : s₁.phase = s.phase) (hended : s₁.ended = s.ended)
    (hstopped : s₁.stopped = s.stopped) (he : e ≠ .acked) (f : PumpFailure) :
    ((s₁.endTask t e).fail f).Account plan := by
  have hacc := accounted_endTask (e := e) hturns hplan hphase hended
  have hidx : t.idx ∈ s.accounted := by
    have hmem : t ∈ s.turns := hturns.mem_iff.mpr List.mem_cons_self
    simp only [accounted, List.mem_append]
    exact .inl (.inr (List.mem_map_of_mem hmem))
  have hgiven : ((s₁.endTask t e).fail f).givenUp = t.idx :: s.givenUp := by
    simp [givenUp, stoppedAt, fail, endTask, hended, hstopped, he]
  refine h.giveUp hidx hacc.symm.subset ?_ ?_ (fail_failure_ne_none _ _) ?_
  · simp [hgiven]
  · intro i hi
    rwa [hgiven, List.mem_cons] at hi
  intro hloop
  have hloop' : s.phase.stage = .inLoop := hphase ▸ hloop
  exact hstopped.trans (h.fresh hloop')

theorem waitAckStart_account (t : Turn) : (s.waitAckStart t).Account plan := by
  unfold waitAckStart
  split
  case isFalse => exact h
  case isTrue hmem =>
    have hturns := turns_erase_created hmem
    dsimp only
    split
    · exact endTask_fail_account .noEvent h hturns rfl rfl rfl rfl (by decide) _
    next event _ =>
      refine h.keep rfl ?_ (fun _ => rfl) rfl rfl rfl
      have hmoved := hturns.trans (turns_add_waiting _ t event)
      exact ((hmoved.map Turn.idx).append_left _).append_right _

theorem waitAckWake_account (t event : Turn) : (s.waitAckWake t event).Account plan := by
  unfold waitAckWake
  split
  case isFalse => exact h
  case isTrue hmem =>
    refine h.keep rfl ?_ (fun _ => rfl) rfl rfl rfl
    have hmoved := (turns_erase_waiting hmem.1).trans (turns_add_acked _ t)
    exact ((hmoved.map Turn.idx).append_left _).append_right _

theorem waitAckEnd_account (t : Turn) : (s.waitAckEnd t).Account plan := by
  unfold waitAckEnd
  split
  case isFalse => exact h
  case isTrue hmem =>
    refine h.keep rfl (accounted_endTask (turns_erase_acked hmem) rfl rfl rfl) (fun _ => rfl) rfl ?_ rfl
    simp [givenUp, stoppedAt, endTask]

theorem waitAckTimeout_account (t event : Turn) : (s.waitAckTimeout t event).Account plan := by
  unfold waitAckTimeout
  split
  case isFalse => exact h
  case isTrue hmem => exact endTask_fail_account .timedOut h (turns_erase_waiting hmem) rfl rfl rfl rfl (by decide) _

theorem ret_account : s.ret.Account plan := by
  unfold ret
  split
  case isFalse => exact h
  case isTrue hdrained =>
    refine h.keep (by rw [hdrained.1]; rfl) ?_ (fun _ => rfl) rfl rfl rfl
    simp [accounted, turns, hdrained.1, SenderPhase.wanted?]

theorem step_account (e : SenderEvent) : (s.step e).Account plan := by
  cases e with
  | next => exact next_account h
  | acquire => exact acquire_account h
  | read r => exact read_account h r
  | sent ok => exact sent_account h ok
  | raise => exact raise_account h
  | waitAckStart t => exact waitAckStart_account h t
  | waitAckWake t event => exact waitAckWake_account h t event
  | waitAckEnd t => exact waitAckEnd_account h t
  | waitAckTimeout t event => exact waitAckTimeout_account h t event
  | recordChunkAck idx ok => exact h.keep rfl (.refl _) (fun _ => rfl) rfl rfl rfl
  | ret => exact ret_account h

end

/-! ## What the result says -/

theorem run_heard (sendPlan : List Int) (w : Nat) (es : List SenderEvent) : (run step (start sendPlan w) es).Heard :=
  run_invariant_of_step (P := Heard) (fun _ e h => step_heard h e) (heard_start sendPlan w) es

theorem run_account (sendPlan : List Int) (w : Nat) (es : List SenderEvent) :
    (run step (start sendPlan w) es).Account sendPlan :=
  run_invariant_of_step (P := Account sendPlan) (fun _ e h => step_account h e) (account_start sendPlan w) es

theorem hasAck_of_true (hheard : s.Heard) (hacc : s.Account plan) (hsettled : s.Settled)
    (hret : s.phase = .returned true) (hread : ∀ i, s.stopped ≠ some (i, .emptyRead)) (hidx : idx ∈ plan) :
    s.HasAck idx := by
  obtain ⟨hcreated, hwaiting, hacked, hresult⟩ := hsettled true hret
  have hfail : s.failure = none := by simpa using hresult.symm
  have hgiven := hacc.blamed.mp hfail
  rw [givenUp, List.append_eq_nil_iff] at hgiven
  have hstop : s.stopped = none := by
    cases hs : s.stopped with
    | none => rfl
    | some p =>
      obtain ⟨i, why⟩ := p
      have hat := hgiven.2
      rw [stoppedAt, hs] at hat
      cases why with
      | fileChanged => cases hat
      | sendFailed => cases hat
      | emptyRead => exact absurd hs (hread i)
  have hstage : s.phase.stage = .after := by rw [hret]; rfl
  have hmem := hacc.covers (by rw [hstage]; decide) hfail hstop idx hidx
  -- nothing is left to come or under way
  have hended : idx ∈ s.ended.map fun e => e.1.idx := by
    simpa [accounted, turns, hacc.drains hstage hfail hstop, hret, SenderPhase.wanted?, hcreated, hwaiting,
      hacked] using hmem
  obtain ⟨e, he, rfl⟩ := List.mem_map.mp hended
  refine hheard.ended e he ?_
  by_contra hne
  have hfilter : e ∈ s.ended.filter fun e => e.2 ≠ .acked := List.mem_filter.mpr ⟨he, by simpa using hne⟩
  rw [List.map_eq_nil_iff.mp hgiven.1] at hfilter
  exact absurd hfilter List.not_mem_nil

/-- **The result of a transfer.** -/
theorem true_iff_all_positive (plan : List Int) (w : Nat) (es : List SenderEvent) (b : Bool) (s : Sender)
    (hs : s = run step (start plan w) es) (hret : s.phase = .returned b)
    (hneg : ∀ idx ∈ plan, (idx, false) ∈ s.acks → (idx, true) ∈ s.acks)
    (hread : ∀ idx, s.stopped ≠ some (idx, .emptyRead)) (hlate : ∀ idx ∈ s.givenUp, (idx, true) ∉ s.acks) :
    b = true ↔ ∀ idx ∈ plan, (idx, true) ∈ s.acks := by
  subst hs
  have hacc := run_account plan w es
  have hsettled := run_settled plan w es
  constructor
  · rintro rfl idx hidx
    obtain ⟨ok, hok⟩ := hasAck_of_true (run_heard plan w es) hacc hsettled hret hread hidx
    cases ok with
    | true => exact hok
    | false => exact hneg idx hidx hok
  intro hall
  obtain ⟨-, -, -, rfl⟩ := hsettled b hret
  rw [Option.isNone_iff_eq_none, hacc.blamed, List.eq_nil_iff_forall_not_mem]
  intro idx hidx
  exact hlate idx hidx (hall idx (hacc.dropped idx hidx))

/-! ## Runs of one chunk -/

def sendsOne : List SenderEvent := [.next, .acquire, .read .data, .sent true, .waitAckStart ⟨0, 0⟩]

def ackedInTime (ok : Bool) : List SenderEvent :=
  sendsOne ++ [.recordChunkAck 0 ok, .waitAckWake ⟨0, 0⟩ ⟨0, 0⟩, .waitAckEnd ⟨0, 0⟩, .next, .ret]

def ackedLate : List SenderEvent := sendsOne ++ [.waitAckTimeout ⟨0, 0⟩ ⟨0, 0⟩, .recordChunkAck 0 true, .next, .ret]

def readsNothing : List SenderEvent := [.next, .acquire, .read .empty, .ret]

theorem true_iff_all_positive_one : ((0 : Int), true) ∈ (run step (start [0] 1) (ackedInTime true)).acks :=
  (true_iff_all_positive [0] 1 (ackedInTime true) true _ rfl (by decide) (by decide) nofun (by decide)).mp rfl
    0 (List.mem_singleton.mpr rfl)

/-- A refusal that counts, and a late confirmation that does not. -/
theorem result_against_acks : ((run step (start [0] 1) (ackedInTime false)).phase = .returned true ∧
      (run step (start [0] 1) (ackedInTime false)).acks = [(0, false)]) ∧
    ((run step (start [0] 1) ackedLate).phase = .returned false ∧
      (run step (start [0] 1) ackedLate).acks = [(0, true)]) ∧
    (run step (start [0] 1) readsNothing).phase = .returned true ∧ (run step (start [0] 1) readsNothing).acks = [] := by
  decide

end Sender

end NexusGrid.Storage

import NexusGrid.Tasks.Recovery

/-! # Sessions that share a task row

A handler reads the row in a database session, changes its copy and commits later; other sessions run in between.
-/

namespace NexusGrid.Tasks

open Lib

structure Session where
  now : Nat
  op : RowOp
  /-- The row as the session has read it. -/
  read : Task

/-- The row as the session leaves it. -/
def Session.write (e : SubmitEnv) (x : Session) : Task := x.op.apply { e with now := x.now } x.read

def Session.schedules (e : SubmitEnv) (x : Session) : Bool := x.op.schedules { e with now := x.now } x.read

/-- The handlers that hold `task_assign_lock`. -/
def Session.assigns (x : Session) : Bool :=
  match x.op with
  | .assign _ _ _ _ _ => true
  | _ => false

/-- The `UPDATE` of a commit: the columns in which `write` differs from `read`. -/
def Task.update (row read write : Task) : Task where
  status := if write.status = read.status then row.status else write.status
  worker := if write.worker = read.worker then row.worker else write.worker
  parentId := if write.parentId = read.parentId then row.parentId else write.parentId
  dependsOn := if write.dependsOn = read.dependsOn then row.dependsOn else write.dependsOn
  payload := if write.payload = read.payload then row.payload else write.payload
  checkpointPayload :=
    if write.checkpointPayload = read.checkpointPayload then row.checkpointPayload else write.checkpointPayload
  logs := if write.logs = read.logs then row.logs else write.logs
  env := if write.env = read.env then row.env else write.env

theorem Task.update_self (read write : Task) : read.update read write = write := by
  have hcol {α : Type} [DecidableEq α] (a b : α) : (if b = a then a else b) = b := by
    split
    next h => exact h.symm
    · rfl
  simp only [Task.update, hcol]

structure Shared where
  row : Task
  sessions : Table Nat Session

inductive SessionEvent
  | start (k now : Nat) (op : RowOp)
  | commit (k : Nat)
  | rollback (k : Nat)

namespace Shared

/-- An assignment is started under the lock, for a queued task. -/
def admits (s : Shared) (k : Nat) (x : Session) : Bool :=
  (s.sessions.get k).isNone && (!x.assigns || (s.row.status = .queued && s.sessions.rows.all fun r => !r.2.assigns))

def step (e : SubmitEnv) (s : Shared) : SessionEvent → Shared
  | .start k now op =>
    if s.admits k ⟨now, op, s.row⟩ then { s with sessions := s.sessions.put k ⟨now, op, s.row⟩ } else s
  | .commit k =>
    match s.sessions.get k with
    | none => s
    | some x => ⟨s.row.update x.read (x.write e), s.sessions.delete k⟩
  | .rollback k => { s with sessions := s.sessions.delete k }

/-- A commit finds the row as the session has read it. -/
def Fresh (s : Shared) : SessionEvent → Prop
  | .commit k => ∀ x ∈ s.sessions.get k, x.read = s.row
  | _ => True

instance (s : Shared) (ev : SessionEvent) : Decidable (s.Fresh ev) := by cases ev <;> unfold Fresh <;> infer_instance

/-- A retry is scheduled in the session that is committed. -/
def schedules (e : SubmitEnv) (s : Shared) : SessionEvent → Bool
  | .commit k => (s.sessions.get k).any (Session.schedules e)
  | _ => false

/-- The commit of session `k` assigns the task. -/
def Assigns (s : Shared) (k : Nat) : Prop := ∃ x, s.sessions.get k = some x ∧ x.assigns = true

variable {e : SubmitEnv} {s : Shared} {ev : SessionEvent} {k : Nat}

/-- Without a stale commit the row moves by whole operations. -/
theorem outcome_step (hfresh : s.Fresh ev) : Task.Outcome (s.schedules e ev) s.row (s.step e ev).row := by
  cases ev with
  | start k now op =>
    dsimp only [step, schedules]
    split <;> exact .refl s.row
  | rollback k => exact .refl s.row
  | commit k =>
    cases hx : s.sessions.get k with
    | none =>
      simp only [step, schedules, hx]
      exact .refl s.row
    | some x =>
      have hread : x.read = s.row := hfresh x hx
      simp only [step, schedules, hx, Option.any_some]
      rw [← hread, Task.update_self]
      exact x.op.outcome _ x.read

theorem assigns_step (h : (s.step e ev).Assigns k) : s.Assigns k ∧ ev ≠ .commit k ∨
      (∃ now op, ev = .start k now op) ∧ s.row.status = .queued ∧ ∀ k', ¬ s.Assigns k' := by
  obtain ⟨x, hx, hassigns⟩ := h
  have hkept {k' : Nat} (hx : (s.sessions.delete k').get k = some x) : s.Assigns k ∧ k' ≠ k := by
    rw [Table.get_delete] at hx
    split at hx
    · cases hx
    next hne => exact ⟨⟨x, hx, hassigns⟩, Ne.symm hne⟩
  cases ev with
  | start k' now op =>
    dsimp only [step] at hx
    split at hx
    case isFalse => exact .inl ⟨⟨x, hx, hassigns⟩, nofun⟩
    case isTrue hadm =>
    rw [Table.get_put] at hx
    split at hx
    case isFalse => exact .inl ⟨⟨x, hx, hassigns⟩, nofun⟩
    case isTrue hk =>
    cases hx
    simp only [admits, hassigns, Bool.and_eq_true, Bool.or_eq_true, Bool.not_true, Bool.false_eq_true, false_or,
      decide_eq_true_eq, List.all_eq_true, Bool.not_eq_true'] at hadm
    refine .inr ⟨⟨now, op, by rw [hk]⟩, hadm.2.1, fun k' ⟨y, hy, hy'⟩ => ?_⟩
    have hfree := hadm.2.2 (k', y) ((Table.mem_rows ..).mpr hy)
    rw [hy'] at hfree
    cases hfree
  | commit k' =>
    dsimp only [step] at hx
    split at hx
    next hnone =>
      refine .inl ⟨⟨x, hx, hassigns⟩, ?_⟩
      rintro ⟨⟩
      rw [hx] at hnone
      cases hnone
    · obtain ⟨hassign, hne⟩ := hkept hx
      exact .inl ⟨hassign, fun heq => hne (SessionEvent.commit.inj heq)⟩
  | rollback k' => exact .inl ⟨(hkept hx).1, nofun⟩

/-- The lock has one holder at most. -/
def Locked (s : Shared) : Prop := ∀ k k', s.Assigns k → s.Assigns k' → k = k'

theorem Locked.step (h : s.Locked) : (s.step e ev).Locked := by
  intro k k' hk hk'
  rcases assigns_step hk with ⟨hk, -⟩ | ⟨⟨now, op, hev⟩, -, hnone⟩
  · rcases assigns_step hk' with ⟨hk', -⟩ | ⟨-, -, hnone⟩
    · exact h k k' hk hk'
    · exact absurd hk (hnone k)
  rcases assigns_step hk' with ⟨hk', -⟩ | ⟨⟨now', op', hev'⟩, -, -⟩
  · exact absurd hk' (hnone k')
  · exact (SessionEvent.start.inj (hev.symm.trans hev')).1

theorem Locked.free_of_commit (h : s.Locked) (hk : s.Assigns k) : ∀ k', ¬ (s.step e (.commit k)).Assigns k' := by
  intro k' hk'
  rcases assigns_step hk' with ⟨hbefore, hne⟩ | ⟨⟨now, op, hev⟩, -⟩
  · exact hne (congrArg _ (h k k' hk hbefore))
  · cases hev

/-- A later assignment is started while the task is queued. -/
theorem queued_before (hfree : ∀ k, ¬ s.Assigns k) {es : List SessionEvent} (h : (run (step e) s es).Assigns k) :
    ∃ part, part <+: es ∧ (run (step e) s part).row.status = .queued := by
  induction es generalizing s with
  | nil => exact absurd h (hfree k)
  | cons ev es ih =>
    by_cases hopen : ∃ k', (s.step e ev).Assigns k'
    · obtain ⟨k', hk'⟩ := hopen
      rcases assigns_step hk' with ⟨hk', -⟩ | ⟨-, hqueued, -⟩
      · exact absurd hk' (hfree k')
      · exact ⟨[], List.nil_prefix, hqueued⟩
    obtain ⟨part, hpart, hqueued⟩ := ih (not_exists.mp hopen) h
    exact ⟨ev :: part, List.cons_prefix_cons.mpr ⟨rfl, hpart⟩, hqueued⟩

end Shared

/-- **A task has one holder.** -/
theorem one_holder_of_fresh (e : SubmitEnv) (row : Task) (hrow : row.status ≠ .processing) :
    (∀ pre k mid k', (run (Shared.step e) ⟨row, ∅⟩ pre).Assigns k →
        (run (Shared.step e) ⟨row, ∅⟩ (pre ++ .commit k :: mid)).Assigns k' →
        ∃ part, part <+: mid ∧ (run (Shared.step e) ⟨row, ∅⟩ (pre ++ .commit k :: part)).row.status = .queued) ∧
      ∀ es, Along (Shared.step e) Shared.Fresh ⟨row, ∅⟩ es →
        let t := (run (Shared.step e) ⟨row, ∅⟩ es).row
        t.status = .processing → t.worker = some t.env.leaseOwner := by
  constructor
  · intro pre k mid k' hk hk'
    have hlocked : (run (Shared.step e) ⟨row, ∅⟩ pre).Locked := by
      refine run_invariant_of_step (fun _ _ h => h.step) ?_ pre
      rintro k k' ⟨x, hx, -⟩
      cases hx
    rw [run_append, run_cons] at hk'
    obtain ⟨part, hpart, hqueued⟩ := Shared.queued_before (hlocked.free_of_commit hk) hk'
    exact ⟨part, hpart, by rwa [run_append, run_cons]⟩
  intro es hes
  refine run_invariant (P := fun s => s.row.status = .processing → s.row.worker = some s.row.env.leaseOwner)
    ?_ (fun hproc => absurd hproc hrow) hes
  intro s ev hfresh hown hproc
  rcases (Shared.outcome_step hfresh).held hproc with ⟨hbefore, hworker, howner⟩ | hassigned
  · rw [hworker, howner]
    exact hown hbefore
  · exact hassigned

/-- The task of the examples, queued, with the given retries. -/
def sharedTask (retryMax : Nat) : Task :=
  { Submission.exampleTask .queued none with
    env := { (Submission.exampleTask .queued none).env with retryMax := some (retryMax : Int), retryCount := some 0 } }

def assignTo (workerId : String) : RowOp := .assign [] workerId "" "" "lease_assigned"

theorem one_holder_of_fresh_assigned :
    (run (Shared.step Submission.exampleEnv) ⟨sharedTask 2, ∅⟩ [.start 0 1 (assignTo "w"), .commit 0]).row.worker =
      some "w" :=
  (one_holder_of_fresh Submission.exampleEnv (sharedTask 2) (by decide)).2 _ (by decide) (by decide)

/-- **A lease without an owner.** -/
theorem stale_decline_drops_lease :
    let t := (run (Shared.step Submission.exampleEnv) ⟨sharedTask 2, ∅⟩
      [.start 0 1 (.notes [⟨"declined", "offer_declined", "v"⟩]), .start 1 2 (assignTo "w"), .commit 1, .commit 0]).row
    t.status = .processing ∧ t.worker = some "w" ∧ t.env.leaseOwner = "" := by
  decide

/-- The retries that are scheduled along the run. -/
def Shared.retries (e : SubmitEnv) (s : Shared) : List SessionEvent → Nat
  | [] => 0
  | ev :: es => (s.schedules e ev).toNat + (s.step e ev).retries e es

theorem Shared.retries_le {e : SubmitEnv} {s : Shared} {es : List SessionEvent}
    (hes : Along (Shared.step e) Shared.Fresh s es) (hle : s.row.retryCount ≤ s.row.retryMax) :
    s.row.retryCount + s.retries e es ≤ s.row.retryMax := by
  induction es generalizing s with
  | nil => simpa [Shared.retries] using hle
  | cons ev es ih =>
    have hstep := Shared.outcome_step (e := e) hes.1
    have hmax := hstep.retryMax
    have hcount := hstep.retryCount
    have hnext : (s.step e ev).row.retryCount ≤ (s.step e ev).row.retryMax := by
      cases hb : s.schedules e ev with
      | false =>
        rw [hb, Bool.toNat_false] at hcount
        omega
      | true =>
        have hleft := hstep.budget hb
        rw [hb, Bool.toNat_true] at hcount
        omega
    have hrest := ih hes.2 hnext
    rw [Shared.retries]
    omega

/-- **The number of retries is bounded** by a positive `retry_max`. -/
theorem retries_le_retryMax (e : SubmitEnv) (t : Task) (r : Nat) (hmax : t.env.retryMax = some (r : Int))
    (hcount : t.env.retryCount = some 0) (hr : r ≠ 0) (es : List SessionEvent)
    (hes : Along (Shared.step e) Shared.Fresh ⟨t, ∅⟩ es) : Shared.retries e ⟨t, ∅⟩ es ≤ r := by
  have hbudget : t.retryMax = r := by rw [Task.retryMax, hmax, Task.intOr_natCast (Nat.pos_of_ne_zero hr)]
  have hused : t.retryCount = 0 := by rw [Task.retryCount, hcount]; rfl
  have hle := Shared.retries_le hes (by show t.retryCount ≤ t.retryMax; omega)
  dsimp only at hle
  omega

/-- The task fails twice. -/
def twoFailures : List SessionEvent :=
  [.start 0 1 (assignTo "w"), .commit 0, .start 1 2 (.fail [] "" "" "" ""), .commit 1,
    .start 2 3 (.fail [] "" "" "" ""), .commit 2]

theorem retries_le_retryMax_one : Shared.retries Submission.exampleEnv ⟨sharedTask 1, ∅⟩ twoFailures ≤ 1 :=
  retries_le_retryMax _ _ 1 rfl rfl (by decide) _ (by decide)

/-- **A task that should not be retried** is retried twice: `retry_max` 0 is read as 2. -/
theorem retries_without_budget :
    (sharedTask 0).env.retryMax = some 0 ∧ Along (Shared.step Submission.exampleEnv) Shared.Fresh ⟨sharedTask 0, ∅⟩
      twoFailures ∧ Shared.retries Submission.exampleEnv ⟨sharedTask 0, ∅⟩ twoFailures = 2 := by
  decide

open Shared

/-- **The retry counter is exact**: a re-queue by hand does not reset it. -/
theorem retryCount_eq_retries (e : SubmitEnv) (s : Shared) (es : List SessionEvent)
    (hes : Along (step e) Fresh s es) :
    (run (step e) s es).row.retryCount = s.row.retryCount + s.retries e es ∧
      (run (step e) s es).row.retryMax = s.row.retryMax := by
  induction es generalizing s with
  | nil => simp [retries]
  | cons ev es ih =>
    have hstep := outcome_step (e := e) hes.1
    obtain ⟨hcount, hmax⟩ := ih (s.step e ev) hes.2
    rw [run_cons, retries, hcount, hmax, hstep.retryCount]
    exact ⟨by omega, hstep.retryMax⟩

theorem retryCount_eq_retries_two :
    (run (step Submission.exampleEnv) ⟨sharedTask 2, ∅⟩ twoFailures).row.retryCount = 0 + 2 :=
  (retryCount_eq_retries _ _ _ (by decide)).1.trans (by decide)

theorem RowOp.apply_completed (e : SubmitEnv) {t : Task} {op : RowOp} (hop : op ≠ .requeue)
    (h : t.status = .completed) :
    (op.apply e t).status = .completed := by
  cases op with
  | notes ns => exact (t.addNotes_status _ ns).trans h
  | sweep dead =>
    dsimp only [apply]
    rw [Task.loseWorkers_eq_self (by simp [h]), Task.expireLease_eq_self (by simp [h])]
    split <;> exact h
  | requeue => exact absurd rfl hop
  | _ => simp [apply, h, TaskStatus.terminal, Task.releaseReady, Task.approve, Task.requeueRetry, Task.resume]

/-- **What is completed stays completed** until somebody puts it back into the queue by hand. -/
theorem completed_stays (e : SubmitEnv) (s : Shared) (es : List SessionEvent) (hdone : s.row.status = .completed)
    (hes : Along (step e)
      (fun s ev => s.Fresh ev ∧ ∀ k, ev = .commit k → ∀ x ∈ s.sessions.get k, x.op ≠ .requeue) s es) :
    (run (step e) s es).row.status = .completed := by
  refine run_invariant (P := fun s : Shared => s.row.status = .completed) (fun s ev hev h => ?_) hdone hes
  cases ev with
  | start k now op =>
    dsimp only [step]
    split <;> exact h
  | rollback k => exact h
  | commit k =>
    dsimp only [step]
    split
    · exact h
    next x hx =>
      have hread : x.read = s.row := hev.1 x hx
      rw [← hread, Task.update_self]
      exact RowOp.apply_completed _ (hev.2 k rfl x hx) (hread ▸ h)

theorem completed_stays_canceled : (run (step Submission.exampleEnv)
    ⟨Submission.exampleTask .completed none, ∅⟩ [.start 0 1 .cancel, .commit 0]).row.status = .completed :=
  completed_stays _ _ _ rfl ⟨⟨trivial, nofun⟩, ⟨by decide, by rintro _ ⟨⟩ _ ⟨⟩; nofun⟩, trivial⟩

end NexusGrid.Tasks

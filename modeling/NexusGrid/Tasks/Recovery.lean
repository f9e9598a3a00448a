import NexusGrid.Tasks.Rows

/-! # Lost workers, expired leases and retries

`Outcome` says what an operation does to the holder of a task and to its retry budget.
-/

namespace NexusGrid.Tasks

open Lib

namespace Task

def taskLeaseExpired (now : Nat) (t : Task) : Bool := t.env.leaseExpiresAt ≠ 0 && t.env.leaseExpiresAt < now

/-- The task went from `t` to `t'`, with a retry iff `scheduled`. -/
structure Outcome (scheduled : Bool) (t t' : Task) : Prop where
  held : t'.status = .processing →
    (t.status = .processing ∧ t'.worker = t.worker ∧ t'.env.leaseOwner = t.env.leaseOwner) ∨
      t'.worker = some t'.env.leaseOwner
  retryMax : t'.retryMax = t.retryMax
  retryCount : t'.retryCount = t.retryCount + scheduled.toNat
  budget : scheduled = true → t.retryCount < t.retryMax

namespace Outcome

variable {t t' t'' : Task} {b : Bool}

theorem refl (t : Task) : Outcome false t t := ⟨fun h => .inl ⟨h, rfl, rfl⟩, rfl, rfl, by simp⟩

theorem trans (h : Outcome false t t') (h' : Outcome b t' t'') : Outcome b t t'' where
  held hproc := by
    rcases h'.held hproc with ⟨hproc', hworker, howner⟩ | hassigned
    · rcases h.held hproc' with ⟨hproc₀, hworker₀, howner₀⟩ | hassigned
      · exact .inl ⟨hproc₀, hworker.trans hworker₀, howner.trans howner₀⟩
      right
      rw [hworker, howner, hassigned]
    · exact .inr hassigned
  retryMax := h'.retryMax.trans h.retryMax
  retryCount := by rw [h'.retryCount, h.retryCount, Bool.toNat_false, Nat.add_zero]
  budget hb := by
    have hleft := h'.budget hb
    rwa [h.retryMax, h.retryCount] at hleft

theorem of_left (hleft : t'.status ≠ .processing) (hmax : t'.env.retryMax = t.env.retryMax)
    (hcount : t'.env.retryCount = t.env.retryCount) : Outcome false t t' where
  held hproc := absurd hproc hleft
  retryMax := by rw [Task.retryMax, Task.retryMax, hmax]
  retryCount := by rw [Task.retryCount, Task.retryCount, hcount, Bool.toNat_false, Nat.add_zero]
  budget := by simp

end Outcome

variable {t t' u : Task} {b : Bool} {cfg : NodeSettings} {now : Nat}

theorem retryMax_congr (h : t'.env.retryMax = t.env.retryMax) : t'.retryMax = t.retryMax := by
  rw [retryMax, retryMax, h]

theorem retryCount_congr (h : t'.env.retryCount = t.env.retryCount) : t'.retryCount = t.retryCount := by
  rw [retryCount, retryCount, h]

theorem setTaskStatus_leaseOwner (t : Task) (now : Nat) (target : TaskStatus) (reason : String) (force : Bool) :
    (t.setTaskStatus now target reason force).1.env.leaseOwner = t.env.leaseOwner := by
  unfold setTaskStatus
  split_ifs
  · rfl
  · rfl
  · simp only [enter, TaskEnv.stamp, TaskEnv.addTimelineEvent]

theorem setTaskStatus_outcome {target : TaskStatus} (htarget : target ≠ .processing) (reason : String) (force : Bool) :
    Outcome false t (t.setTaskStatus now target reason force).1 := by
  have hsame := setTaskStatus_sameBut now t target reason force
  refine ⟨fun hproc => .inl ?_, retryMax_congr hsame.retryMax, retryCount_congr hsame.retryCount, by simp⟩
  have hstatus := setTaskStatus_status now t target reason force
  rw [hproc] at hstatus
  split at hstatus
  · exact absurd hstatus.symm htarget
  · exact ⟨hstatus.symm, hsame.worker, setTaskStatus_leaseOwner ..⟩

theorem setTaskStatus_forced (t : Task) (now : Nat) (target : TaskStatus) (reason : String) :
    (t.setTaskStatus now target reason true).1.status = target := by simp [setTaskStatus_status]

/-- The table leads from `processing` to `failed`. -/
theorem setTaskStatus_failed (t : Task) (now : Nat) (reason : String) (force : Bool) :
    (t.setTaskStatus now .failed reason force).1.status ≠ .processing := by
  rw [setTaskStatus_status]
  split
  · decide
  next hrefused =>
    intro hproc
    rw [hproc] at hrefused
    exact hrefused (.inr (by decide))

theorem intOr_natCast {n : Nat} (h : 0 < n) (default : Int) : (TaskEnv.intOr (some (n : Int)) default).toNat = n := by
  have hpos : ¬ (n : Int) = 0 := by omega
  unfold TaskEnv.intOr
  dsimp only
  rw [if_neg hpos, Int.toNat_natCast]

theorem tryScheduleRetry_budget {reason : String} {failedWorker : Option String}
    (h : t.tryScheduleRetry cfg now reason failedWorker = some t') :
    t.retryCount < t.retryMax ∧ t'.retryMax = t.retryMax ∧ t'.retryCount = t.retryCount + 1 := by
  have hcount : t'.env.retryCount = some ((t.retryCount + 1 : Nat) : Int) :=
    (tryScheduleRetry_some cfg now t h).2.2.2.2.2
  unfold tryScheduleRetry at h
  split at h
  case isTrue => cases h
  case isFalse hspent =>
  have hmax : t'.env.retryMax = some (t.retryMax : Int) := by
    rw [← Option.some.inj h, (setTaskStatus_sameBut ..).retryMax]
  have hleft : t.retryCount < t.retryMax := Nat.lt_of_not_le hspent
  refine ⟨hleft, ?_, ?_⟩
  · rw [retryMax, hmax, intOr_natCast (by omega)]
  · rw [retryCount, hcount, intOr_natCast (by omega)]

/-- The row `u` the retry is scheduled for has the budget of `t`. -/
theorem Outcome.of_retry {reason : String} {failedWorker : Option String}
    (hretry : u.tryScheduleRetry cfg now reason failedWorker = some t') (hmax : u.retryMax = t.retryMax)
    (hcount : u.retryCount = t.retryCount) : Outcome (decide (t.retryCount < t.retryMax)) t t' := by
  obtain ⟨hleft, hmax', hcount'⟩ := tryScheduleRetry_budget hretry
  rw [hmax, hcount] at hleft
  rw [decide_eq_true hleft]
  refine ⟨fun hproc => ?_, hmax'.trans hmax, hcount'.trans (congrArg (· + 1) hcount), fun _ => hleft⟩
  rw [(tryScheduleRetry_some cfg now u hretry).1] at hproc
  cases hproc

/-- A failure without a retry left. -/
theorem Outcome.of_exhausted {reason : String} {failedWorker : Option String}
    (hnone : u.tryScheduleRetry cfg now reason failedWorker = none) (hmax : u.retryMax = t.retryMax)
    (hcount : u.retryCount = t.retryCount) (hleft : t'.status ≠ .processing) (hmax' : t'.env.retryMax = u.env.retryMax)
    (hcount' : t'.env.retryCount = u.env.retryCount) : Outcome (decide (t.retryCount < t.retryMax)) t t' := by
  have hspent := (tryScheduleRetry_eq_none_iff ..).mp hnone
  rw [hmax, hcount] at hspent
  rw [decide_eq_false (Nat.not_lt.mpr hspent)]
  exact ⟨fun hproc => absurd hproc hleft, (retryMax_congr hmax').trans hmax, (retryCount_congr hcount').trans hcount,
    by simp⟩

theorem forced_outcome (t : Task) (now : Nat) {target : TaskStatus} (htarget : target ≠ .processing) (reason : String)
    (worker : Option String) (logs : List String) :
    Outcome false t { (t.setTaskStatus now target reason true).1 with worker, logs } := by
  have hsame := setTaskStatus_sameBut now t target reason true
  refine .of_left ?_ hsame.retryMax hsame.retryCount
  rwa [setTaskStatus_forced]

theorem note_outcome (t : Task) (now : Nat) (line event details : String) :
    Outcome false t (t.note now line event details) := by
  refine ⟨fun hproc => .inl ⟨hproc, ?_, ?_⟩, retryMax_congr ?_, retryCount_congr ?_, by simp⟩ <;>
    simp only [note, TaskEnv.addTimelineEvent]

theorem addNotes_outcome (t : Task) (now : Nat) (notes : List Note) : Outcome false t (t.addNotes now notes) := by
  induction notes generalizing t with
  | nil => exact .refl t
  | cons n notes ih => exact (t.note_outcome now ..).trans (ih _)

theorem assign_outcome (t : Task) (workerId reason line event : String) :
    Outcome false t (t.assign cfg now workerId reason line event) := by
  have hsame := setTaskStatus_sameBut now t .processing reason false
  unfold assign
  dsimp only
  split
  · have hleased : Outcome false t (setTaskLease cfg now
        { (t.setTaskStatus now .processing reason false).1 with worker := some workerId } workerId) :=
      ⟨fun _ => .inr rfl, retryMax_congr hsame.retryMax, retryCount_congr hsame.retryCount, by simp⟩
    exact hleased.trans (note_outcome ..)
  · exact .refl t

theorem Outcome.release (h : Outcome b t t') : Outcome b t t'.release where
  held hproc := by
    have hworker : t'.release.worker = t'.worker := if_pos hproc
    rw [hworker]
    exact h.held hproc
  retryMax := h.retryMax
  retryCount := h.retryCount
  budget := h.budget

theorem preemptTask_outcome (e : SubmitEnv) (file : List UInt8) (reason retried failed : String) :
    Outcome (decide (t.retryCount < t.retryMax)) t (t.preemptTask e file reason retried failed) := by
  unfold preemptTask
  dsimp only
  split
  case h_1 t' ht' =>
    have hretry : Outcome _ t t' := .of_retry ht' rfl rfl
    exact ⟨hretry.held, hretry.retryMax, hretry.retryCount, hretry.budget⟩
  case h_2 hnone =>
    have hsame := setTaskStatus_sameBut e.now { t with checkpointPayload := file, worker := none } .failed
      "Preempted but retry budget exhausted." false
    exact .of_exhausted hnone rfl rfl (setTaskStatus_failed _ _ _ _) hsame.retryMax hsame.retryCount

theorem failTask_outcome (e : SubmitEnv) (payload : List UInt8) (reason returned retried exhausted : String) :
    Outcome (decide (t.retryCount < t.retryMax)) t
      (({ t with payload } : Task).failTask e reason returned retried exhausted) := by
  unfold failTask
  dsimp only
  split
  case h_1 t' ht' =>
    have hretry : Outcome _ t t' := .of_retry ht' rfl rfl
    exact ⟨hretry.held, hretry.retryMax, hretry.retryCount, hretry.budget⟩
  case h_2 hnone =>
    have hsame := setTaskStatus_sameBut e.now { t with payload, worker := none, logs := t.logs ++ [returned] } .failed
      exhausted false
    exact .of_exhausted hnone rfl rfl (setTaskStatus_failed _ _ _ _) hsame.retryMax hsame.retryCount

theorem loseWorker_of_held {ip : String} (hworker : t.worker = some ip) (hproc : t.status = .processing) :
    Outcome (decide (t.retryCount < t.retryMax)) t (t.loseWorker cfg now ip) ∧
      (t.loseWorker cfg now ip).status ≠ .processing := by
  unfold loseWorker
  rw [if_pos ⟨hworker, hproc⟩]
  dsimp only
  split
  case h_1 t' ht' =>
    have hretry : Outcome _ t t' := .of_retry ht' rfl rfl
    refine ⟨⟨hretry.held, hretry.retryMax, hretry.retryCount, hretry.budget⟩, ?_⟩
    rw [(tryScheduleRetry_some _ _ _ ht').1]
    decide
  case h_2 hnone =>
    have hsame := setTaskStatus_sameBut now { t with worker := none } .failed
      ("Worker " ++ ip ++ " disconnected and retry budget exhausted.") true
    exact ⟨.of_exhausted hnone rfl rfl (setTaskStatus_failed _ _ _ _) hsame.retryMax hsame.retryCount,
      setTaskStatus_failed _ _ _ _⟩

theorem expireLease_of_expired (hproc : t.status = .processing) (hexp : t.taskLeaseExpired now = true) :
    Outcome (decide (t.retryCount < t.retryMax)) t (t.expireLease cfg now) ∧
      (t.expireLease cfg now).status ≠ .processing := by
  have hdue : t.status = .processing ∧ t.env.leaseExpiresAt ≠ 0 ∧ t.env.leaseExpiresAt < now := by
    simpa [taskLeaseExpired, hproc] using hexp
  unfold expireLease
  rw [if_pos hdue]
  have hsame := setTaskStatus_sameBut now { t with worker := none } .leaseExpired
    ("Lease expired for worker " ++ t.worker.getD "None" ++ ".") true
  dsimp only
  split
  case h_1 t' ht' =>
    refine ⟨.of_retry ht' (retryMax_congr hsame.retryMax) (retryCount_congr hsame.retryCount), ?_⟩
    rw [(tryScheduleRetry_some _ _ _ ht').1]
    decide
  case h_2 hnone =>
    exact ⟨.of_exhausted hnone (retryMax_congr hsame.retryMax) (retryCount_congr hsame.retryCount)
      (setTaskStatus_failed _ _ _ _) (setTaskStatus_sameBut ..).retryMax (setTaskStatus_sameBut ..).retryCount,
      setTaskStatus_failed _ _ _ _⟩

theorem loseWorker_eq_self {ip : String} (h : ¬ (t.worker = some ip ∧ t.status = .processing)) :
    t.loseWorker cfg now ip = t := if_neg h

theorem loseWorkers_eq_self {deadWorkers : List String}
    (h : ∀ ip ∈ deadWorkers, ¬ (t.worker = some ip ∧ t.status = .processing)) :
    t.loseWorkers cfg now deadWorkers = t := by
  induction deadWorkers with
  | nil => rfl
  | cons ip deadWorkers ih =>
    rw [loseWorkers, List.foldl_cons, loseWorker_eq_self (h ip (.head _))]
    exact ih fun ip' hip' => h ip' (.tail _ hip')

/-- A task is taken from one worker at most: it does not run any more afterwards. -/
theorem loseWorkers_of_mem {ip : String} {deadWorkers : List String} (hworker : t.worker = some ip)
    (hproc : t.status = .processing) (hmem : ip ∈ deadWorkers) :
    t.loseWorkers cfg now deadWorkers = t.loseWorker cfg now ip := by
  induction deadWorkers with
  | nil => exact absurd hmem List.not_mem_nil
  | cons ip' deadWorkers ih =>
    rw [loseWorkers, List.foldl_cons]
    by_cases hip : ip' = ip
    · subst hip
      exact loseWorkers_eq_self fun _ _ hheld => (loseWorker_of_held hworker hproc).2 hheld.2
    have hother : ¬ (t.worker = some ip' ∧ t.status = .processing) := by
      rintro ⟨hheld, -⟩
      rw [hworker] at hheld
      exact hip (Option.some.inj hheld).symm
    rw [loseWorker_eq_self hother]
    exact ih ((List.mem_cons.mp hmem).resolve_left (Ne.symm hip))

theorem expireLease_eq_self (h : ¬ (t.status = .processing ∧ t.taskLeaseExpired now = true)) :
    t.expireLease cfg now = t := by
  unfold expireLease
  rw [if_neg]
  simpa [taskLeaseExpired] using h

/-- A running task the pass takes away: its worker is silent or its lease has expired. -/
def due (now : Nat) (deadWorkers : List String) (t : Task) : Bool :=
  t.status = .processing && (t.worker.any (· ∈ deadWorkers) || t.taskLeaseExpired now)

theorem sweep_of_due {deadWorkers : List String} (h : t.due now deadWorkers = true) :
    let t' := (t.loseWorkers cfg now deadWorkers).expireLease cfg now
    Outcome (decide (t.retryCount < t.retryMax)) t t' ∧ t'.status ≠ .processing := by
  simp only [due, Bool.and_eq_true, Bool.or_eq_true, decide_eq_true_eq] at h
  obtain ⟨hproc, hcause⟩ := h
  by_cases hlost : ∃ ip ∈ deadWorkers, t.worker = some ip
  · obtain ⟨ip, hmem, hworker⟩ := hlost
    rw [loseWorkers_of_mem hworker hproc hmem, expireLease_eq_self fun h => (loseWorker_of_held hworker hproc).2 h.1]
    exact loseWorker_of_held hworker hproc
  have hnobody : ∀ ip ∈ deadWorkers, ¬ (t.worker = some ip ∧ t.status = .processing) :=
    fun ip hip hheld => hlost ⟨ip, hip, hheld.1⟩
  have hexp : t.taskLeaseExpired now = true := by
    refine hcause.resolve_left fun hany => hlost ?_
    cases hworker : t.worker with
    | none => simp [hworker] at hany
    | some ip => exact ⟨ip, by simpa [hworker] using hany, rfl⟩
  rw [loseWorkers_eq_self hnobody]
  exact expireLease_of_expired hproc hexp

theorem sweep_of_not_due {deadWorkers : List String} (h : t.due now deadWorkers = false) :
    (t.loseWorkers cfg now deadWorkers).expireLease cfg now = t := by
  have hnobody : ∀ ip ∈ deadWorkers, ¬ (t.worker = some ip ∧ t.status = .processing) := by
    rintro ip hip ⟨hworker, hproc⟩
    simp [due, hproc, hworker, hip] at h
  have hlease : ¬ (t.status = .processing ∧ t.taskLeaseExpired now = true) := by
    rintro ⟨hproc, hexp⟩
    simp [due, hproc, hexp] at h
  rw [loseWorkers_eq_self hnobody, expireLease_eq_self hlease]

end Task

namespace RowOp

/-- `try_schedule_retry` returns true in the operation. -/
def schedules (e : SubmitEnv) (t : Task) : RowOp → Bool
  | .preempt _ _ _ _ | .fail _ _ _ _ _ => !t.status.terminal && decide (t.retryCount < t.retryMax)
  | .sweep deadWorkers => deadWorkers ≠ [] && t.due e.now deadWorkers && decide (t.retryCount < t.retryMax)
  | _ => false

/-- **What an operation does to the holder and the budget of a task.** -/
theorem outcome (e : SubmitEnv) (t : Task) (op : RowOp) : Task.Outcome (op.schedules e t) t (op.apply e t) := by
  cases op with
  | logs lines => exact ⟨fun hproc => .inl ⟨hproc, rfl, rfl⟩, rfl, rfl, by simp [schedules]⟩
  | notes ns => exact t.addNotes_outcome ..
  | assign ns workerId reason line event =>
    dsimp only [apply, schedules]
    split
    · exact (t.addNotes_outcome ..).trans (Task.assign_outcome ..)
    · exact .refl t
  | releaseReady tasks =>
    dsimp only [apply, schedules, Task.releaseReady]
    split_ifs
    · exact .refl t
    · exact Task.setTaskStatus_outcome (by decide) ..
    · exact Task.setTaskStatus_outcome (by decide) ..
    · exact Task.setTaskStatus_outcome (by decide) ..
    · exact .refl t
  | approve workflowId =>
    dsimp only [apply, schedules, Task.approve]
    split
    · exact Task.setTaskStatus_outcome (by decide) ..
    · exact .refl t
  | complete reason line =>
    dsimp only [apply, schedules]
    split
    · exact .refl t
    have hmove : Task.Outcome false t (t.setTaskStatus e.now .completed reason false).1 :=
      Task.setTaskStatus_outcome (by decide) ..
    exact Task.Outcome.release ⟨hmove.held, hmove.retryMax, hmove.retryCount, hmove.budget⟩
  | preempt file reason retried failed =>
    dsimp only [apply, schedules]
    cases hterm : t.status.terminal with
    | true => exact .refl t
    | false => exact (t.preemptTask_outcome e file reason retried failed).release
  | fail payload reason returned retried exhausted =>
    dsimp only [apply, schedules]
    cases hterm : t.status.terminal with
    | true => exact .refl t
    | false => exact (t.failTask_outcome e payload reason returned retried exhausted).release
  | sweep deadWorkers =>
    dsimp only [apply, schedules]
    by_cases hdead : deadWorkers = []
    · rw [if_pos hdead, decide_eq_false (not_not.mpr hdead)]
      exact .refl t
    rw [if_neg hdead, decide_eq_true hdead, Bool.true_and]
    cases hdue : t.due e.now deadWorkers with
    | true => exact (Task.sweep_of_due hdue).1
    | false =>
      rw [Task.sweep_of_not_due hdue]
      exact .refl t
  | requeueRetry =>
    dsimp only [apply, schedules, Task.requeueRetry]
    split
    · exact Task.setTaskStatus_outcome (by decide) ..
    · exact .refl t
  | resume workflowId tasks =>
    dsimp only [apply, schedules, Task.resume]
    split_ifs
    · exact t.forced_outcome e.now (by decide) ..
    · exact Task.setTaskStatus_outcome (by decide) ..
    · exact .refl t
  | refreshLease workerId =>
    dsimp only [apply, schedules]
    split
    · exact ⟨fun hproc => .inl ⟨hproc, rfl, rfl⟩, rfl, rfl, by simp⟩
    · exact .refl t
  | requeue => exact t.forced_outcome e.now (by decide) ..
  | disrupt =>
    dsimp only [apply, schedules]
    split
    · exact t.forced_outcome e.now (by decide) ..
    · exact .refl t
  | cancel =>
    dsimp only [apply, schedules]
    split
    · exact .refl t
    · exact t.forced_outcome e.now (by decide) ..
  | queueTimeout seconds elapsed =>
    dsimp only [apply, schedules]
    split
    · exact (Task.setTaskStatus_outcome (by decide) ..).trans (Task.note_outcome ..)
    · exact .refl t

end RowOp

/-- The workers that have been silent for more than 15 seconds. -/
def deadWorkers (now : Nat) (workers : Table String Nat) : List String :=
  (workers.rows.filter fun w => 15 < now - w.2).map Prod.fst

theorem mem_deadWorkers {now : Nat} {workers : Table String Nat} {ip : String} :
    ip ∈ deadWorkers now workers ↔ ∃ seen, workers.get ip = some seen ∧ 15 < now - seen := by
  simp [deadWorkers, Table.mem_rows]

/-- **The sweep is complete exactly when a worker is silent or no lease has expired.** -/
theorem sweep_complete_iff (e : SubmitEnv) (now : Nat) (m : Master) (workers : Table String Nat) :
    (∀ id t t', m.tasks.get id = some t → t.status = .processing →
        t.taskLeaseExpired now = true ∨ (∃ ip seen, t.worker = some ip ∧ workers.get ip = some seen ∧ 15 < now - seen) →
        (m.sweep e.cfg now (deadWorkers now workers)).tasks.get id = some t' → t'.status ≠ .processing) ↔
      (∃ ip seen, workers.get ip = some seen ∧ 15 < now - seen) ∨
        ∀ id t, m.tasks.get id = some t → t.status = .processing → t.taskLeaseExpired now = false := by
  by_cases hdead : deadWorkers now workers = []
  · have hnobody : ¬ ∃ ip seen, workers.get ip = some seen ∧ 15 < now - seen := by
      rintro ⟨ip, hsilent⟩
      have hmem := mem_deadWorkers.mpr hsilent
      rw [hdead] at hmem
      exact absurd hmem List.not_mem_nil
    constructor
    · intro h
      right
      intro id t ht hproc
      by_contra hexp
      refine h id t t ht hproc (.inl ((Bool.not_eq_false _).mp hexp)) ?_ hproc
      simpa [Master.sweep, hdead] using ht
    rintro (hsilent | hlease) id t t' ht hproc hcause -
    · exact absurd hsilent hnobody
    rcases hcause with hexp | ⟨ip, seen, -, hsilent⟩
    · rw [hlease id t ht hproc] at hexp
      exact absurd hexp Bool.false_ne_true
    · exact absurd ⟨ip, seen, hsilent⟩ hnobody
  · obtain ⟨ip, hip⟩ := List.exists_mem_of_ne_nil _ hdead
    refine iff_of_true ?_ (.inl ⟨ip, mem_deadWorkers.mp hip⟩)
    intro id t t' ht hproc hcause ht'
    have hdue : t.due now (deadWorkers now workers) = true := by
      rcases hcause with hexp | ⟨w, seen, hworker, hsilent⟩
      · simp [Task.due, hproc, hexp]
      · simp [Task.due, hproc, hworker, mem_deadWorkers.mpr ⟨seen, hsilent⟩]
    rw [get_sweep, ht, Option.map_some, RowOp.apply, if_neg hdead] at ht'
    cases ht'
    exact (Task.sweep_of_due hdue).2

/-- **An expired lease that stays**: the worker of the task was seen a second ago. -/
theorem expired_lease_stays :
    let t : Task := { Submission.exampleTask .processing (some "w") with
      env := { (Submission.exampleTask .processing (some "w")).env with leaseOwner := "w", leaseExpiresAt := 50 } }
    let swept := (Submission.exampleMaster t).sweep Submission.exampleEnv.cfg 100 (deadWorkers 100 (Table.put ∅ "w" 99))
    t.taskLeaseExpired 100 = true ∧ swept.tasks.rows.map (fun r => r.2) = [t] := by
  decide

end NexusGrid.Tasks

import NexusGrid.Tasks.Workflow

/-! # What a handler does to a row

Every handler, pass and loop changes a row of the task table by a function of the row.
-/

namespace NexusGrid.Tasks

open Lib

/-- A line of the log with its entry of the timeline. -/
structure Note where
  line : String
  event : String
  details : String
deriving DecidableEq

namespace Task

def addNotes (now : Nat) (t : Task) (notes : List Note) : Task :=
  notes.foldl (fun t n => t.note now n.line n.event n.details) t

theorem addNotes_status (t : Task) (now : Nat) (notes : List Note) : (t.addNotes now notes).status = t.status := by
  induction notes generalizing t with
  | nil => rfl
  | cons n notes ih => exact ih _

def refreshTaskLease (cfg : NodeSettings) (now : Nat) (t : Task) : Task :=
  { t with env := (t.setTaskLease cfg now t.env.leaseOwner).env }

/-- A forced end of the task, with which nobody holds it any more. -/
def abandon (now : Nat) (t : Task) (target : TaskStatus) (reason line : String) : Task :=
  let t := (t.setTaskStatus now target reason true).1
  { t with worker := none, logs := t.logs ++ [line] }

def loseWorkers (cfg : NodeSettings) (now : Nat) (t : Task) (deadWorkers : List String) : Task :=
  deadWorkers.foldl (fun t ip => t.loseWorker cfg now ip) t

end Task

inductive RowOp
  /-- A late result leaves its lines. -/
  | logs (logs : List String)
  | notes (notes : List Note)
  | assign (notes : List Note) (workerId reason line event : String)
  | releaseReady (tasks : Table String Task)
  | approve (workflowId : String)
  | complete (reason line : String)
  | preempt (file : List UInt8) (reason retried failed : String)
  | fail (payload : List UInt8) (reason returned retried exhausted : String)
  | sweep (deadWorkers : List String)
  | requeueRetry
  | resume (workflowId : String) (tasks : Table String Task)
  | refreshLease (workerId : String)
  /-- `local_requeue_task`. -/
  | requeue
  /-- `local_disrupt_processing_task`. -/
  | disrupt
  /-- `local_cancel_task`. -/
  | cancel
  /-- The queue timeout in `observability_loop`. -/
  | queueTimeout (seconds elapsed : Nat)

namespace RowOp

def apply (e : SubmitEnv) (t : Task) : RowOp → Task
  | .logs lines => { t with logs := lines }
  | .notes ns => t.addNotes e.now ns
  | .assign ns workerId reason line event =>
    if t.status = .queued then (t.addNotes e.now ns).assign e.cfg e.now workerId reason line event else t
  | .releaseReady tasks => t.releaseReady e.cfg e.now tasks
  | .approve workflowId => t.approve e.now workflowId
  | .complete reason line => if t.status.terminal then t else (t.completeTask e reason line).release
  | .preempt file reason retried failed =>
    if t.status.terminal then t else (t.preemptTask e file reason retried failed).release
  | .fail payload reason returned retried exhausted =>
    if t.status.terminal then t
    else (({ t with payload } : Task).failTask e reason returned retried exhausted).release
  | .sweep deadWorkers =>
    if deadWorkers = [] then t else (t.loseWorkers e.cfg e.now deadWorkers).expireLease e.cfg e.now
  | .requeueRetry => t.requeueRetry e.now
  | .resume workflowId tasks => t.resume e.now workflowId tasks
  | .refreshLease workerId =>
    if t.worker = some workerId ∧ t.status = .processing then t.refreshTaskLease e.cfg e.now else t
  | .requeue => { (t.setTaskStatus e.now .queued "Manual re-queue from telemetry UI." true).1 with worker := none }
  | .disrupt =>
    if t.status = .processing then
      t.abandon e.now .disrupted "Manual disrupt issued from telemetry UI."
        ("[MASTER] Manual disrupt issued. Worker: " ++ t.worker.getD "unknown" ++ ".")
    else t
  | .cancel =>
    if t.status = .processing ∨ t.status.terminal then t
    else t.abandon e.now .disrupted ("Manually disrupted from telemetry UI (was " ++ t.status.text ++ ").")
      ("[MASTER] Task disrupted by user. Previous status: " ++ t.status.text ++ ".")
  | .queueTimeout seconds elapsed =>
    if t.status = .queued then
      (t.setTaskStatus e.now .failed ("Queue timeout (" ++ toString seconds ++
        "s) exceeded — no worker picked up the task.") true).1.note e.now ("[MASTER] Task timed out in queue after " ++
        toString elapsed ++ "s. Re-queue manually if needed.") "queue_timeout" (toString seconds ++ "s elapsed")
    else t

/-- The operation belongs to the event. -/
def From (e : SubmitEnv) (s : Grid) (ev : Event) (id : String) : RowOp → Prop
  | .releaseReady tasks => ev.act = .releaseReady ∧ tasks = s.master.tasks
  | .approve workflowId => ev.act = .approveStep workflowId
  | .preempt _ _ _ _ | .fail _ _ _ _ _ => ∃ req p, ev.act = .submit req ∧ req.sender s.master = .ok p ∧
      req.taskId = id ∧ req.admitted { e with now := ev.now } p = true ∧ id ∉ s.master.disrupted ∧
      req.branch ≠ .success
  | .refreshLease _ | .requeue | .disrupt | .cancel | .queueTimeout _ _ => False
  | _ => True

end RowOp

/-- The row `t'` comes out of the row that was there by an operation of the event. -/
def Changed (e : SubmitEnv) (s : Grid) (ev : Event) (id : String) (t' : Task) : Prop :=
  ∃ (t : Task) (op : RowOp), s.master.tasks.get id = some t ∧ t' = op.apply { e with now := ev.now } t ∧
    op.From e s ev id

namespace Changed

variable {e : SubmitEnv} {s : Grid} {ev : Event} {id : String} {t t' : Task}

theorem of_get (h : s.master.tasks.get id = some t') : Changed e s ev id t' := ⟨t', .logs t'.logs, h, rfl, trivial⟩

variable {taskId : String} {clusterKey : Option String}

theorem of_put {t₁ : Task} (ht : s.master.tasks.get taskId = some t)
    (hop : taskId = id → ∃ op : RowOp, t₁ = op.apply { e with now := ev.now } t ∧ op.From e s ev id)
    (h : (s.master.tasks.put taskId t₁).get id = some t') : Changed e s ev id t' := by
  rw [Table.get_put] at h
  split at h
  next hid =>
    cases h
    subst hid
    obtain ⟨op, happly, hfrom⟩ := hop rfl
    exact ⟨t, op, ht, happly, hfrom⟩
  · exact .of_get h

theorem of_mapRows {f : String → Task → Task} (op : RowOp) (hop : op.From e s ev id)
    (hf : ∀ t, f id t = op.apply { e with now := ev.now } t)
    (h : (s.master.tasks.mapRows f).get id = some t') : Changed e s ev id t' := by
  rw [Table.get_mapRows, Option.map_eq_some_iff] at h
  obtain ⟨t, ht, rfl⟩ := h
  exact ⟨t, op, ht, hf t, hop⟩

theorem of_popTask {consent : Option Consent}
    (h : (s.popTask e ev.now clusterKey taskId consent).master.tasks.get id = some t') : Changed e s ev id t' := by
  unfold Grid.popTask at h
  split at h
  case h_2 => exact .of_get h
  case h_1 peer t _ ht =>
  split at h
  case isTrue => exact .of_get h
  case isFalse hfree =>
  have hqueued : t.status = .queued := not_not.mp (not_or.mp hfree).1
  -- the note about a superseded offer comes first
  cases hoffer : s.offers.get taskId with
  | none =>
    simp only [hoffer] at h
    split at h
    · exact of_put ht (fun _ => ⟨.notes [⟨_, _, _⟩], rfl, trivial⟩) h
    · exact of_put ht (fun _ => ⟨.assign [] _ _ _ _, (if_pos hqueued).symm, trivial⟩) h
  | some old =>
    simp only [hoffer] at h
    split at h
    · exact of_put ht (fun _ => ⟨.notes [⟨_, _, _⟩, ⟨_, _, _⟩], rfl, trivial⟩) h
    · exact of_put ht (fun _ => ⟨.assign [⟨_, _, _⟩] _ _ _ _, (if_pos hqueued).symm, trivial⟩) h

theorem of_acceptOffer
    (h : (s.acceptOffer e ev.now clusterKey taskId).master.tasks.get id = some t') : Changed e s ev id t' := by
  unfold Grid.acceptOffer at h
  split at h
  case h_2 => exact .of_get h
  case h_1 =>
  split at h
  case isTrue => exact .of_get h
  case isFalse =>
  dsimp only at h
  split at h
  case h_1 => exact .of_get h
  case h_2 t ht =>
  split at h
  case isTrue => exact .of_get h
  case isFalse hqueued => exact of_put ht (fun _ => ⟨.assign [] _ _ _ _, (if_pos (not_not.mp hqueued)).symm, trivial⟩) h

theorem of_declineOffer
    (h : (s.declineOffer ev.now clusterKey taskId).master.tasks.get id = some t') : Changed e s ev id t' := by
  unfold Grid.declineOffer at h
  split at h
  case h_2 => exact .of_get h
  case h_1 =>
  dsimp only at h
  split at h
  case h_1 => exact .of_get h
  case h_2 t ht => exact of_put ht (fun _ => ⟨.notes [⟨_, _, _⟩], rfl, trivial⟩) h

theorem of_expireOffer (h : (s.expireOffer ev.now taskId).master.tasks.get id = some t') : Changed e s ev id t' := by
  unfold Grid.expireOffer at h
  split at h
  case h_1 => exact .of_get h
  case h_2 =>
  split at h
  case isTrue => exact .of_get h
  case isFalse =>
  dsimp only at h
  split at h
  case h_1 => exact .of_get h
  case h_2 t ht =>
  split at h
  case isTrue => exact .of_get h
  case isFalse => exact of_put ht (fun _ => ⟨.notes [⟨_, _, _⟩], rfl, trivial⟩) h

theorem of_submit {req : Submission} (hact : ev.act = .submit req)
    (h : (req.submit { e with now := ev.now } s.master).tasks.get id = some t') : Changed e s ev id t' := by
  rcases req.submit_cases { e with now := ev.now } s.master with hsame | ⟨t, logs, ht, hlogs⟩ |
    ⟨p, t, hp, ht, ⟨hadm, hdis, hterm⟩, hupd⟩
  · rw [hsame] at h
    exact .of_get h
  · rw [hlogs] at h
    exact of_put ht (fun _ => ⟨.logs logs, rfl, trivial⟩) h
  rw [hupd] at h
  have hopen : ¬ t.status.terminal = true := by simp [hterm]
  rcases req.update_cases { e with now := ev.now } s.master t with ⟨-, -, reason, line, hrow⟩ | ⟨-, -, hrow⟩ |
    ⟨hb, reason, retried, failed, hrow⟩ | ⟨hb, payload, reason, returned, retried, exhausted, hrow⟩
  · rw [hrow] at h
    exact of_put ht (fun _ => ⟨.complete reason line, (if_neg hopen).symm, trivial⟩) h
  · rw [hrow] at h
    exact .of_get h
  · rw [hrow] at h
    refine of_put ht (fun hid => ⟨.preempt req.file reason retried failed, (if_neg hopen).symm, ?_⟩) h
    exact ⟨req, p, hact, hp, hid, hadm, hid ▸ hdis, by simp [hb]⟩
  rw [hrow] at h
  refine of_put ht (fun hid => ⟨.fail payload reason returned retried exhausted, (if_neg hopen).symm, ?_⟩) h
  exact ⟨req, p, hact, hp, hid, hadm, hid ▸ hdis, by simp [hb]⟩

end Changed

theorem get_loseWorkers (cfg : NodeSettings) (now : Nat) (tasks : Table String Task) (deadWorkers : List String)
    (id : String) :
    (deadWorkers.foldl (fun tasks ip => Table.mapRows tasks fun _ t => t.loseWorker cfg now ip) tasks).get id =
      (tasks.get id).map fun t => t.loseWorkers cfg now deadWorkers := by
  induction deadWorkers generalizing tasks with
  | nil => simp [Task.loseWorkers]
  | cons ip deadWorkers ih =>
    rw [List.foldl_cons, ih, Table.get_mapRows, Option.map_map]
    rfl

theorem get_sweep (e : SubmitEnv) (now : Nat) (m : Master) (deadWorkers : List String) (id : String) :
    (m.sweep e.cfg now deadWorkers).tasks.get id =
      (m.tasks.get id).map fun t => (RowOp.sweep deadWorkers).apply { e with now } t := by
  unfold Master.sweep
  by_cases hdead : deadWorkers = []
  · simp [hdead, RowOp.apply]
  simp only [RowOp.apply, if_neg hdead]
  rw [Table.get_mapRows, get_loseWorkers, Option.map_map]
  rfl

/-- **The rows of the next state** are new, or come out of the old ones by one operation each. -/
theorem changed_of_step {e : SubmitEnv} {s : Grid} {ev : Event} {id : String} {t' : Task}
    (h : (s.step e ev).master.tasks.get id = some t') :
    (∃ f, ev.act = .addWorkflow f ∧ (id, t') ∈ f.expand e.cfg ev.now [] f.steps) ∨ Changed e s ev id t' := by
  unfold Grid.step at h
  cases hact : ev.act with
  | addWorkflow f =>
    rw [hact] at h
    dsimp only [Master.addWorkflow] at h
    split at h
    · exact .inr (.of_get h)
    rcases Table.get_putAll h with hold | hnew
    · exact .inr (.of_get hold)
    · exact .inl ⟨f, rfl, hnew⟩
  | releaseReady =>
    rw [hact] at h
    exact .inr (.of_mapRows (.releaseReady _) ⟨hact, rfl⟩ (fun _ => rfl) h)
  | approveStep workflowId =>
    rw [hact] at h
    exact .inr (.of_mapRows (.approve workflowId) hact (fun _ => rfl) h)
  | popTask clusterKey taskId consent =>
    rw [hact] at h
    exact .inr (.of_popTask h)
  | acceptOffer clusterKey taskId =>
    rw [hact] at h
    exact .inr (.of_acceptOffer h)
  | declineOffer clusterKey taskId =>
    rw [hact] at h
    exact .inr (.of_declineOffer h)
  | expireOffer taskId =>
    rw [hact] at h
    exact .inr (.of_expireOffer h)
  | submit req =>
    rw [hact] at h
    exact .inr (.of_submit hact h)
  | sweep deadWorkers =>
    rw [hact] at h
    rw [get_sweep, Option.map_eq_some_iff] at h
    obtain ⟨t, ht, rfl⟩ := h
    exact .inr ⟨t, .sweep deadWorkers, ht, rfl, trivial⟩
  | retryPass =>
    rw [hact] at h
    exact .inr (.of_mapRows .requeueRetry trivial (fun _ => rfl) h)
  | resume workflowId =>
    rw [hact] at h
    exact .inr (.of_mapRows (.resume workflowId _) trivial (fun _ => rfl) h)

end NexusGrid.Tasks

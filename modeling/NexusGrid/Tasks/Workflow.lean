import NexusGrid.Lib.Run
import NexusGrid.Tasks.Ownership

/-! # Workflows: from the submission of a DAG to its last result

A workflow is a list of steps with dependencies.
-/

namespace NexusGrid.Tasks

open Lib

/-- A step of `workflow_json`. -/
structure WorkflowStep where
  id : String
  dependsOn : List String
  sliceCount : Int
  runtime : String
  retryMax : Option Int
  retryBackoffBase : Option Int
  leaseSeconds : Option Int
  payload : List UInt8
deriving DecidableEq

/-- The form of `/local/add_workflow`. -/
structure WorkflowForm where
  workflowId : String
  steps : List WorkflowStep
  retryMax : Int
  retryBackoffBaseSec : Int
  leaseSeconds : Int
  stepGate : String
deriving DecidableEq

namespace WorkflowForm

/-- `max(1, min(6, int(retry_max or 2)))`. -/
def clampedRetryMax (f : WorkflowForm) : Int := max 1 (min 6 (if f.retryMax = 0 then 2 else f.retryMax))

def gate (f : WorkflowForm) : Option Bool :=
  let sg := PyStr.lower (PyStr.strip f.stepGate)
  if sg = "" then none else some (decide (sg ∈ ["1", "true", "yes", "on"]))

/-- `build_task_metadata`, as far as the keys of `TaskEnv` go. -/
def taskMetadata (cfg : NodeSettings) (now : Nat) (f : WorkflowForm) (step : WorkflowStep) : TaskEnv where
  retryMax := some (max 0 (step.retryMax.getD f.clampedRetryMax))
  retryCount := some 0
  retryBackoffBase := some (max 1 (TaskEnv.intOr
    (some (step.retryBackoffBase.getD (max 0 (min 600 f.retryBackoffBaseSec))))
    cfg.retryBackoffBaseSec))
  nextRetryAt := 0
  failedWorkers := []
  timeline := [⟨now, "created", "Task metadata initialized"⟩]
  queuedAt := some now
  startedAt := none
  completedAt := none
  leaseOwner := ""
  leaseExpiresAt := 0
  leaseSeconds :=
    let lease := step.leaseSeconds.getD (max 0 (min 3600 f.leaseSeconds))
    if 0 < lease then (max 5 lease).toNat else 0
  stepGate := f.gate

/-- The ids of the tasks a step becomes, and the entry of `slice_map` for it. -/
def sliceIds (f : WorkflowForm) (step : WorkflowStep) : List String :=
  let baseId := f.workflowId ++ "_" ++ step.id
  if 1 < step.sliceCount then
    (List.range step.sliceCount.toNat).map fun i => baseId ++ "_p" ++ toString i
  else [baseId]

/-- The slices of the steps it names that come before it. -/
def stepDeps (f : WorkflowForm) (sliceMap : List (String × List String)) (step : WorkflowStep) : List String :=
  step.dependsOn.flatMap fun d =>
    let parentBase := f.workflowId ++ "_" ++ d
    (sliceMap.lookup parentBase).getD [parentBase]

def newTask (cfg : NodeSettings) (now : Nat) (f : WorkflowForm) (step : WorkflowStep)
    (deps : List String) : Task where
  status := if deps = [] then .queued else .waiting
  worker := none
  parentId := f.workflowId
  dependsOn := String.intercalate "," deps
  payload := step.payload
  checkpointPayload := []
  logs := if deps = [] then ["[MASTER] Sliced & Queued. Runtime: " ++ step.runtime]
    else ["[DAG PLANNER] Task registered. WAITING on (" ++ String.intercalate "," deps ++ ")."]
  env := f.taskMetadata cfg now step

/-- The last entry of a step id in `slice_map` counts. -/
def expand (cfg : NodeSettings) (now : Nat) (f : WorkflowForm)
    (sliceMap : List (String × List String)) : List WorkflowStep → List (String × Task)
  | [] => []
  | step :: steps =>
    let deps := f.stepDeps sliceMap step
    (f.sliceIds step).map (fun id => (id, f.newTask cfg now step deps)) ++
      f.expand cfg now ((f.workflowId ++ "_" ++ step.id, f.sliceIds step) :: sliceMap) steps

end WorkflowForm

/-- Refused when a task id exists, rolled back when two new rows have one id. -/
def Master.addWorkflow (cfg : NodeSettings) (now : Nat) (m : Master) (f : WorkflowForm) : Master :=
  let rows := f.expand cfg now [] f.steps
  if rows.any (fun r => (m.tasks.get r.1).isSome) ∨ ¬(rows.map Prod.fst).Nodup then m
  else { m with tasks := m.tasks.putAll rows }

theorem Master.addWorkflow_of_new {cfg : NodeSettings} {now : Nat} {m : Master} {f : WorkflowForm}
    (hnew : ∀ r ∈ f.expand cfg now [] f.steps, m.tasks.get r.1 = none)
    (hnodup : ((f.expand cfg now [] f.steps).map Prod.fst).Nodup) :
    m.addWorkflow cfg now f = { m with tasks := m.tasks.putAll (f.expand cfg now [] f.steps) } := by
  have hok : ¬ ((f.expand cfg now [] f.steps).any (fun r => (m.tasks.get r.1).isSome) = true ∨
      ¬ ((f.expand cfg now [] f.steps).map Prod.fst).Nodup) := by
    rintro (hany | hdup)
    · obtain ⟨r, hr, hsome⟩ := List.any_eq_true.mp hany
      simp [hnew r hr] at hsome
    · exact hdup hnodup
  rw [Master.addWorkflow, if_neg hok]

def Task.gateOn (cfg : NodeSettings) (t : Task) : Bool := t.env.stepGate.getD cfg.stepGate

def Task.depsMet (tasks : Table String Task) (t : Task) : Bool :=
  let depRecords := tasks.rows.filter (fun r => r.1 ∈ t.deps)
  depRecords.length = t.deps.length && depRecords.all (fun r => r.2.status = .completed)

/-- What `release_ready_tasks` does with one row. -/
def Task.releaseReady (cfg : NodeSettings) (now : Nat) (tasks : Table String Task) (t : Task) : Task :=
  if t.status ≠ .waiting then t
  else if t.deps = [] then (t.setTaskStatus now .queued "No dependencies remaining." false).1
  else if t.depsMet tasks = true then
    if t.gateOn cfg then
      (t.setTaskStatus now .awaitingApproval
        ("Dependencies (" ++ t.dependsOn ++ ") met — awaiting approval.") false).1
    else (t.setTaskStatus now .queued ("Dependencies (" ++ t.dependsOn ++ ") met.") false).1
  else t

def Master.releaseReadyTasks (cfg : NodeSettings) (now : Nat) (m : Master) : Master :=
  { m with tasks := m.tasks.mapRows fun _ t => t.releaseReady cfg now m.tasks }

/-- What `local_approve_workflow_step` does with one row. -/
def Task.approve (now : Nat) (workflowId : String) (t : Task) : Task :=
  if t.parentId = workflowId ∧ t.status = .awaitingApproval then
    (t.setTaskStatus now .queued "Step approved by user." false).1
  else t

/-- `local_approve_workflow_step`. -/
def Master.approveWorkflowStep (now : Nat) (m : Master) (workflowId : String) : Master :=
  { m with tasks := m.tasks.mapRows fun _ t => t.approve now workflowId }

/-- An entry of `STATE.pending_task_offers`. -/
structure Offer where
  workerId : String
  offeredAt : Nat
  timeout : Nat
deriving DecidableEq

/-- Who asks for consent before a task is assigned, and for how long an offer stands. -/
structure Consent where
  byWorker : Bool
  timeout : Nat
deriving DecidableEq

structure Grid where
  master : Master
  offers : Table String Offer

def Task.setTaskLease (cfg : NodeSettings) (now : Nat) (t : Task) (workerId : String) : Task :=
  let ttl := if 0 < t.env.leaseSeconds then t.env.leaseSeconds else cfg.leaseSeconds
  { t with env := { t.env with leaseOwner := workerId, leaseExpiresAt := now + ttl } }

def Task.note (now : Nat) (t : Task) (line event details : String) : Task :=
  { t with logs := t.logs ++ [line], env := t.env.addTimelineEvent now event details }

/-- The assignment of a task, in `api_pop_task` and `api_accept_offer`. -/
def Task.assign (cfg : NodeSettings) (now : Nat) (t : Task) (workerId reason line event : String) : Task :=
  let (t', moved) := t.setTaskStatus now .processing reason false
  if moved then
    (({ t' with worker := some workerId }.setTaskLease cfg now workerId).note now line event workerId)
  else t

namespace Grid

variable (e : SubmitEnv) (now : Nat)

def putTask (s : Grid) (taskId : String) (t : Task) : Grid :=
  { s with master := { s.master with tasks := s.master.tasks.put taskId t } }

/-- `api_pop_task`, when `select_task_for_worker` picks `taskId`. -/
def popTask (s : Grid) (clusterKey : Option String) (taskId : String) (consent : Option Consent) : Grid :=
  match s.master.verifyTrustedPeer clusterKey, s.master.tasks.get taskId with
  | .ok peer, some t =>
    if t.status ≠ .queued ∨ (s.offers.get taskId).map Offer.workerId = some peer.ip then s
    else
      let t := match s.offers.get taskId with
        | none => t
        | some old => t.note now ("[DISPATCH] Offer to " ++ old.workerId ++
            " superseded — better fit found: " ++ peer.ip ++ ".") "offer_superseded"
            (old.workerId ++ " -> " ++ peer.ip)
      match consent with
      | some c =>
        let t := t.note now ("[CONSENT] Task offered to " ++ peer.ip ++ " (requested by " ++
          (if c.byWorker then "worker" else "master") ++ "). Awaiting acceptance (timeout: " ++
          toString c.timeout ++ "s).") "task_offered" peer.ip
        { s with offers := s.offers.put taskId ⟨peer.ip, now, c.timeout⟩ }.putTask taskId t
      | none =>
        { s with offers := s.offers.delete taskId }.putTask taskId
          (t.assign e.cfg now peer.ip ("Lease assigned to " ++ peer.ip ++ ".")
            ("[NETWORK] Pulled securely by " ++ peer.ip ++ ".") "lease_assigned")
  | _, _ => s

/-- `api_accept_offer`. -/
def acceptOffer (s : Grid) (clusterKey : Option String) (taskId : String) : Grid :=
  match s.master.verifyTrustedPeer clusterKey, s.offers.get taskId with
  | .ok peer, some offer =>
    if offer.workerId ≠ peer.ip then s
    else
      let s := { s with offers := s.offers.delete taskId }
      match s.master.tasks.get taskId with
      | none => s
      | some t =>
        if t.status ≠ .queued then s
        else s.putTask taskId
          (t.assign e.cfg now peer.ip ("Offer accepted by " ++ peer.ip ++ ".")
            ("[CONSENT] Offer accepted by " ++ peer.ip ++ ". Task assigned.") "offer_accepted")
  | _, _ => s

/-- `api_decline_offer`; whose offer it was is not checked. -/
def declineOffer (s : Grid) (clusterKey : Option String) (taskId : String) : Grid :=
  match s.master.verifyTrustedPeer clusterKey, s.offers.get taskId with
  | .ok peer, some _ =>
    let s := { s with offers := s.offers.delete taskId }
    match s.master.tasks.get taskId with
    | none => s
    | some t => s.putTask taskId (t.note now ("[CONSENT] Offer declined by " ++ peer.ip ++
        ". Task re-entering pool.") "offer_declined" peer.ip)
  | _, _ => s

/-- An offer times out (`observability_loop`). -/
def expireOffer (s : Grid) (taskId : String) : Grid :=
  match s.offers.get taskId with
  | none => s
  | some offer =>
    if now - offer.offeredAt ≤ offer.timeout then s
    else
      let s := { s with offers := s.offers.delete taskId }
      match s.master.tasks.get taskId with
      | none => s
      | some t =>
        if t.status ≠ .queued then s
        else s.putTask taskId (t.note now ("[DISPATCH] Offer to " ++ offer.workerId ++
          " expired after " ++ toString offer.timeout ++ "s. Re-entering pool.") "offer_expired"
          offer.workerId)

end Grid

/-- What the sweep does with a running task of the lost worker `ip`. -/
def Task.loseWorker (cfg : NodeSettings) (now : Nat) (ip : String) (t : Task) : Task :=
  if t.worker = some ip ∧ t.status = .processing then
    let t := { t with worker := none }
    let t := match t.tryScheduleRetry cfg now ("Worker " ++ ip ++ " disconnected.") (some ip) with
      | some t' => t'
      | none => (t.setTaskStatus now .failed ("Worker " ++ ip ++ " disconnected and retry budget exhausted.") true).1
    { t with logs := t.logs ++ ["[SYSTEM] Node " ++ ip ++ " crashed. Recovery policy applied."] }
  else t

def Task.expireLease (cfg : NodeSettings) (now : Nat) (t : Task) : Task :=
  if t.status = .processing ∧ t.env.leaseExpiresAt ≠ 0 ∧ t.env.leaseExpiresAt < now then
    let previous := t.worker
    let t := ({ t with worker := none }.setTaskStatus now .leaseExpired
      ("Lease expired for worker " ++ previous.getD "None" ++ ".") true).1
    match t.tryScheduleRetry cfg now "Lease expired." previous with
    | some t' => t'
    | none => (t.setTaskStatus now .failed "Lease expired and retry budget exhausted." true).1
  else t

/-- `zombie_sweeper`, one pass: leases are looked at only when some worker was lost. -/
def Master.sweep (cfg : NodeSettings) (now : Nat) (m : Master) (deadWorkers : List String) : Master :=
  if deadWorkers = [] then m
  else
    let tasks := deadWorkers.foldl
      (fun tasks ip => Table.mapRows tasks fun _ t => t.loseWorker cfg now ip) m.tasks
    { m with tasks := tasks.mapRows fun _ t => t.expireLease cfg now }

def Task.requeueRetry (now : Nat) (t : Task) : Task :=
  if t.status = .retrying ∧ t.env.nextRetryAt ≤ now then
    (t.setTaskStatus now .queued "Retry backoff elapsed." false).1
  else t

/-- `retry_scheduler_loop`, one pass. -/
def Master.retryPass (now : Nat) (m : Master) : Master :=
  { m with tasks := m.tasks.mapRows fun _ t => t.requeueRetry now }

/-- A stalled step is queued when its dependencies are completed, or waits. -/
def Task.resume (now : Nat) (workflowId : String) (tasks : Table String Task) (t : Task) : Task :=
  if t.parentId = workflowId ∧ t.status ∈ [.failed, .disrupted, .cancelled] then
    let completed (d : String) : Bool :=
      ((tasks.get d).filter (fun u => u.parentId = workflowId)).map (·.status) = some .completed
    if t.deps.all completed then
      { (t.setTaskStatus now .queued "Workflow resume." true).1 with worker := none }
    else (t.setTaskStatus now .waiting "Workflow resume — re-armed." true).1
  else t

def Master.resumeWorkflow (now : Nat) (m : Master) (workflowId : String) : Master :=
  { m with tasks := m.tasks.mapRows fun _ t => t.resume now workflowId m.tasks }

inductive Action
  | addWorkflow (form : WorkflowForm)
  | releaseReady
  | approveStep (workflowId : String)
  | popTask (clusterKey : Option String) (taskId : String) (consent : Option Consent)
  | acceptOffer (clusterKey : Option String) (taskId : String)
  | declineOffer (clusterKey : Option String) (taskId : String)
  | expireOffer (taskId : String)
  | submit (req : Submission)
  | sweep (deadWorkers : List String)
  | retryPass
  | resume (workflowId : String)
deriving DecidableEq

structure Event where
  now : Nat
  act : Action
deriving DecidableEq

/-- One step of the system. -/
def Grid.step (e : SubmitEnv) (s : Grid) (ev : Event) : Grid :=
  match ev.act with
  | .addWorkflow form => { s with master := s.master.addWorkflow e.cfg ev.now form }
  | .releaseReady => { s with master := s.master.releaseReadyTasks e.cfg ev.now }
  | .approveStep workflowId => { s with master := s.master.approveWorkflowStep ev.now workflowId }
  | .popTask clusterKey taskId consent => s.popTask e ev.now clusterKey taskId consent
  | .acceptOffer clusterKey taskId => s.acceptOffer e ev.now clusterKey taskId
  | .declineOffer clusterKey taskId => s.declineOffer ev.now clusterKey taskId
  | .expireOffer taskId => s.expireOffer ev.now taskId
  | .submit req => { s with master := req.submit { e with now := ev.now } s.master }
  | .sweep deadWorkers => { s with master := s.master.sweep e.cfg ev.now deadWorkers }
  | .retryPass => { s with master := s.master.retryPass ev.now }
  | .resume workflowId => { s with master := s.master.resumeWorkflow ev.now workflowId }

end NexusGrid.Tasks

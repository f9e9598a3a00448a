import NexusGrid.Tasks.Ownership

/-! # The two ways of a result

The same result may come over HTTP or through the relay. The module compares what the two handlers leave of
a task (`Task.record`) and which outcomes they record (`outcomes`), for one result by one peer.
-/

namespace NexusGrid.Tasks

open Lib

/-- `elapsed_secs`, `worker_pubkey` and `worker_proof`. -/
structure WorkerProof where
  elapsedSecs : Int
  workerPubkey : String
  workerProof : String
deriving DecidableEq

inductive Emission
  | outcome (worker : String) (ok : Bool)
  | receipt (taskId : String) (worker : Option String) (proof : WorkerProof)
  | metric (name : String)
  | audit (event details : String)
deriving DecidableEq

def recordWorkerOutcome (worker : Option String) (ok : Bool) : List Emission :=
  match worker with
  | none => []
  | some w => if w = "" then [] else [.outcome w ok]

/-- `old_worker or 'unknown'`. -/
def workerName (worker : Option String) : String :=
  match worker with
  | none => "unknown"
  | some w => if w = "" then "unknown" else w

def outcomes (l : List Emission) : List Emission := l.filter fun
    | .outcome _ _ => true
    | .receipt _ _ _ => true
    | _ => false

def HttpResult.emits (e : SubmitEnv) (r : HttpResult) (proof : WorkerProof) (task : Task) : List Emission :=
  let status := r.normStatus
  let exhausted := task.retryMax ≤ task.retryCount
  if status = "success" then
    if (e.unzip r.file).ok then
      [.metric "tasks_completed"] ++ recordWorkerOutcome task.worker true ++
        [.receipt r.taskId task.worker proof, .audit "task_completed" ("worker=" ++ workerName task.worker)]
    else []
  else if status = "preempted" then
    if exhausted then [.metric "tasks_failed"] else [.metric "tasks_preempted"]
  else recordWorkerOutcome task.worker false ++
    if exhausted then
      [.metric "tasks_failed", .audit "task_failed" ("worker=" ++ workerName task.worker ++ " status=" ++ status)]
    else []

/-- What `api_submit_result` emits. -/
def apiEmits (e : SubmitEnv) (m : Master) (r : HttpResult) (proof : WorkerProof) : List Emission :=
  match m.verifyTrustedPeer r.clusterKey with
  | .error _ => []
  | .ok peer =>
    if e.cfg.maxResultBytes < r.file.length ∨ r.normStatus ∉ httpStatuses then []
    else if e.verifySignature r.resultSig "result" r.taskId r.file r.normStatus peer.signingKey = false then
      [.audit "result_signature_rejected" "Invalid result signature."]
    else match m.tasks.get r.taskId with
      | none => []
      | some task =>
        if r.taskId ∈ m.disrupted ∨ task.status.terminal then [] else r.emits e proof task

def RelayResult.emits (e : SubmitEnv) (r : RelayResult) (proof : WorkerProof) (task : Task) : List Emission :=
  let status := r.normStatus
  let exhausted := task.retryMax ≤ task.retryCount
  if status = "success" ∧ r.file ≠ [] then
    if (e.unzip r.file).ok then
      [.metric "tasks_completed"] ++ recordWorkerOutcome task.worker true ++ [.receipt r.taskId task.worker proof]
    else []
  else if status = "preempted" ∧ r.file ≠ [] then
    if exhausted then [] else [.metric "tasks_preempted"]
  else recordWorkerOutcome task.worker false ++ if exhausted then [.metric "tasks_failed"] else []

def relayEmits (e : SubmitEnv) (m : Master) (r : RelayResult) (proof : WorkerProof) : List Emission :=
  match m.submitterPeer r with
  | .error _ => []
  | .ok peer =>
    if e.verifySignature r.resultSig "result" r.taskId r.file r.normStatus peer.signingKey = false then
      [.audit "result_signature_rejected" "Invalid relay result signature."]
    else match m.tasks.get r.taskId with
      | none => []
      | some task =>
        if r.taskId ∈ m.disrupted ∨ task.status.terminal then [] else r.emits e proof task

def Task.record (t : Task) : TaskView × List String := (t.view, t.env.failedWorkers)

def TaskView.release (v : TaskView) : TaskView :=
  { v with worker := if v.status = .processing then v.worker else none }

namespace Task

variable (e : SubmitEnv) (t : Task)

theorem record_release : t.release.record = (t.record.1.release, t.record.2) := rfl

theorem record_logs (logs : List String) : ({ t with logs } : Task).record = t.record := rfl

theorem record_setTaskStatus (now : Nat) (target : TaskStatus) (reason : String) (force : Bool) :
    (t.setTaskStatus now target reason force).1.record =
      ({ t.view with status := if force = true ∨ target ∈ t.status.allowed then target else t.status },
        t.env.failedWorkers) := by
  have hview := view_of_sameBut (t.setTaskStatus_sameBut now target reason force)
  have hstatus := t.setTaskStatus_status now target reason force
  have hfailed : (t.setTaskStatus now target reason force).1.env.failedWorkers = t.env.failedWorkers := by
    unfold setTaskStatus
    split_ifs
    · rfl
    · rfl
    · simp only [enter, TaskEnv.stamp, TaskEnv.addTimelineEvent]
  rw [record, hview, hstatus, hfailed]

theorem record_tryScheduleRetry {t t' : Task} (h : t.record = t'.record) (cfg : NodeSettings) (now : Nat)
    (reason reason' : String) (failedWorker : Option String) :
    (t.tryScheduleRetry cfg now reason failedWorker).map record =
      (t'.tryScheduleRetry cfg now reason' failedWorker).map record := by
  have hview : t.view = t'.view := congrArg Prod.fst h
  have hfailed : t.env.failedWorkers = t'.env.failedWorkers := congrArg Prod.snd h
  have hmax : t.retryMax = t'.retryMax := congrArg (fun v : TaskView => (TaskEnv.intOr v.retryMax 2).toNat) hview
  have hcount : t.retryCount = t'.retryCount :=
    congrArg (fun v : TaskView => (TaskEnv.intOr v.retryCount 0).toNat) hview
  have hbase : t.backoffBase cfg = t'.backoffBase cfg :=
    congrArg (fun v : TaskView => (max 1 (TaskEnv.intOr v.retryBackoffBase cfg.retryBackoffBaseSec)).toNat) hview
  have hworkers : t.failedWorkers failedWorker = t'.failedWorkers failedWorker := by
    simp only [failedWorkers, hfailed]
  have hworker : t.worker = t'.worker := congrArg TaskView.worker hview
  have hcheckpoint : t.checkpointPayload = t'.checkpointPayload := congrArg TaskView.checkpointPayload hview
  unfold tryScheduleRetry
  rw [hmax, hcount]
  split_ifs
  · rfl
  · simp only [Option.map_some, record_setTaskStatus, view, hbase, hworkers, hworker, hcheckpoint, true_or, if_true]

theorem record_completeTask (reason reason' line line' : String) :
    (t.completeTask e reason line).release.record = (t.completeTask e reason' line').release.record := by
  simp only [completeTask, record_release, record_logs, record_setTaskStatus]

theorem record_retry_or_fail {t t' : Task} (h : t.record = t'.record) (reason reason' : String)
    (failedWorker : Option String) (retried retried' : Task → List String) {failed failed' : Task}
    (hfailed : failed.record = failed'.record) : (match t.tryScheduleRetry e.cfg e.now reason failedWorker with
      | some u => { u with logs := retried u }
      | none => failed).release.record =
    (match t'.tryScheduleRetry e.cfg e.now reason' failedWorker with
      | some u => { u with logs := retried' u }
      | none => failed').release.record := by
  have hretry := record_tryScheduleRetry h e.cfg e.now reason reason' failedWorker
  cases ho : t.tryScheduleRetry e.cfg e.now reason failedWorker with
  | none =>
    cases ho' : t'.tryScheduleRetry e.cfg e.now reason' failedWorker with
    | none => simp only [record_release, hfailed]
    | some u' =>
      rw [ho, ho'] at hretry
      cases hretry
  | some u =>
    cases ho' : t'.tryScheduleRetry e.cfg e.now reason' failedWorker with
    | none =>
      rw [ho, ho'] at hretry
      cases hretry
    | some u' =>
      rw [ho, ho'] at hretry
      simp only [record_release, record_logs, Option.some.inj hretry]

theorem record_preemptTask (file : List UInt8) (reason reason' retried retried' failed failed' : String) :
    (t.preemptTask e file reason retried failed).release.record =
      (t.preemptTask e file reason' retried' failed').release.record :=
  record_retry_or_fail e rfl reason reason' t.worker _ _ (by simp only [record_logs])

theorem record_failTask (payload payload' : List UInt8)
    (reason reason' returned returned' retried retried' exhausted exhausted' : String) :
    (({ t with payload } : Task).failTask e reason returned retried exhausted).release.record =
      (({ t with payload := payload' } : Task).failTask e reason' returned' retried' exhausted').release.record := by
  have hrecord : ({ t with payload, worker := none } : Task).record =
      ({ t with payload := payload', worker := none } : Task).record := rfl
  refine record_retry_or_fail e hrecord reason reason' t.worker _ _ ?_
  simp only [record_setTaskStatus]
  rfl

end Task

structure SameResult (r : HttpResult) (r' : RelayResult) : Prop where
  taskId : r.taskId = r'.taskId
  status : r.status = r'.status
  logs : r.logs = r'.logs
  resultSig : r.resultSig = r'.resultSig
  file : r.file = r'.file

def Master.records (m : Master) (id : String) : Option (TaskView × List String) := (m.tasks.get id).map Task.record

theorem records_commitTask {m m' : Master} {t t' : Task} (hm : m.tasks = m'.tasks)
    (h : t.release.record = t'.release.record) (taskId : String) :
    (m.commitTask taskId t).records = (m'.commitTask taskId t').records := by
  funext id
  by_cases hid : id = taskId
  · subst hid
    simp only [Master.records, Master.commitTask, Table.get_put_self, Option.map_some, h]
  · simp only [Master.records, Master.commitTask, Table.get_put_ne _ _ hid, hm]

theorem records_put_logs {m : Master} {taskId : String} {t : Task} (h : m.tasks.get taskId = some t)
    (logs : List String) : ({ m with tasks := m.tasks.put taskId { t with logs } } : Master).records = m.records := by
  funext id
  by_cases hid : id = taskId
  · subst hid
    simp only [Master.records, Table.get_put_self, h, Option.map_some, Task.record_logs]
  · simp only [Master.records, Table.get_put_ne _ _ hid]

section Agree

variable {e : SubmitEnv} {m : Master} {p : Peer} {r : HttpResult} {r' : RelayResult}

def HasFile (status : String) (file : List UInt8) : Prop := status = "success" ∨ status = "preempted" → file ≠ []

theorem normStatus_eq (hsame : SameResult r r') : r'.normStatus = r.normStatus := by
  rw [HttpResult.normStatus, RelayResult.normStatus, hsame.status]

theorem HasFile.cases {status : String} {file : List UInt8} (h : HasFile status file) :
    (status = "success" ∧ file ≠ []) ∨ (status ≠ "success" ∧ status = "preempted" ∧ file ≠ []) ∨
      (status ≠ "success" ∧ status ≠ "preempted") := by
  by_cases hsuccess : status = "success"
  · exact .inl ⟨hsuccess, h (.inl hsuccess)⟩
  by_cases hpreempted : status = "preempted"
  · exact .inr (.inl ⟨hsuccess, hpreempted, h (.inr hpreempted)⟩)
  · exact .inr (.inr ⟨hsuccess, hpreempted⟩)

theorem update_records_eq (hsame : SameResult r r') (hfile : HasFile r.normStatus r.file) (t : Task) :
    (r.update e m t).1.records = (r'.update e m t).1.records := by
  have hstatus := normStatus_eq hsame
  unfold HttpResult.update RelayResult.update
  simp only [hstatus, ← hsame.taskId, ← hsame.file]
  rcases hfile.cases with hboth | ⟨hsuccess, hboth⟩ | ⟨hsuccess, hpreempted⟩
  · rw [if_pos hboth.1, if_pos hboth]
    split_ifs
    · exact records_commitTask rfl (t.record_completeTask e _ _ _ _) _
    · rfl
  · rw [if_neg hsuccess, if_neg (not_and_of_not_left _ hsuccess), if_pos hboth.1, if_pos hboth]
    exact records_commitTask rfl (t.record_preemptTask e _ _ _ _ _ _ _) _
  rw [if_neg hsuccess, if_neg (not_and_of_not_left _ hsuccess), if_neg hpreempted,
    if_neg (not_and_of_not_left _ hpreempted)]
  exact records_commitTask rfl (t.record_failTask e t.payload _ _ _ _ _ _ _ _ _) _

theorem outcomes_emits_eq (hsame : SameResult r r') (hfile : HasFile r.normStatus r.file) (proof : WorkerProof)
    (t : Task) : outcomes (r.emits e proof t) = outcomes (r'.emits e proof t) := by
  have hstatus := normStatus_eq hsame
  unfold HttpResult.emits RelayResult.emits
  simp only [hstatus, ← hsame.taskId, ← hsame.file]
  rcases hfile.cases with hboth | ⟨hsuccess, hboth⟩ | ⟨hsuccess, hpreempted⟩
  · rw [if_pos hboth.1, if_pos hboth]
    split_ifs
    · simp [outcomes]
    · rfl
  · rw [if_neg hsuccess, if_neg (not_and_of_not_left _ hsuccess), if_pos hboth.1, if_pos hboth]
    split_ifs <;> rfl
  rw [if_neg hsuccess, if_neg (not_and_of_not_left _ hsuccess), if_neg hpreempted,
    if_neg (not_and_of_not_left _ hpreempted)]
  split_ifs <;> simp [outcomes]

/-- The result gets to its task: the signature is valid, and the task is neither stopped nor at its end. -/
def Reaches (e : SubmitEnv) (m : Master) (p : Peer) (r : HttpResult) : Prop :=
  ¬ e.verifySignature r.resultSig "result" r.taskId r.file r.normStatus p.signingKey = false ∧
    r.taskId ∉ m.disrupted ∧ ∃ t, m.tasks.get r.taskId = some t ∧ ¬ t.status.terminal = true

theorem api_unreached (hpeer : m.verifyTrustedPeer r.clusterKey = .ok p) (h : ¬ Reaches e m p r)
    (proof : WorkerProof) :
    (apiSubmitResult e m r).1.records = m.records ∧ outcomes (apiEmits e m r proof) = [] := by
  simp only [apiSubmitResult, apiEmits, hpeer]
  by_cases hlarge : e.cfg.maxResultBytes < r.file.length
  · simp [hlarge, outcomes]
  by_cases hstatus : r.normStatus ∉ httpStatuses
  · simp [hlarge, hstatus, outcomes]
  by_cases hsig : e.verifySignature r.resultSig "result" r.taskId r.file r.normStatus p.signingKey = false
  · simp [hlarge, hstatus, hsig, outcomes]
  simp only [if_neg hlarge, if_neg hstatus, if_neg hsig, if_neg (not_or.mpr ⟨hlarge, hstatus⟩)]
  cases htask : m.tasks.get r.taskId with
  | none => exact ⟨rfl, rfl⟩
  | some t =>
    by_cases hdisrupted : r.taskId ∈ m.disrupted
    · simp only [if_pos hdisrupted, if_pos (Or.inl hdisrupted)]
      exact ⟨records_put_logs htask _, rfl⟩
    · have hterminal : t.status.terminal = true := by
        by_contra hopen
        exact h ⟨hsig, hdisrupted, t, htask, hopen⟩
      simp only [if_neg hdisrupted, if_pos hterminal, if_pos (Or.inr hterminal)]
      exact ⟨trivial, rfl⟩

theorem relay_unreached (hpeer : m.submitterPeer r' = .ok p) (hsame : SameResult r r')
    (h : ¬ Reaches e m p r) (proof : WorkerProof) :
    (relaySubmitResult e m r').1.records = m.records ∧ outcomes (relayEmits e m r' proof) = [] := by
  simp only [relaySubmitResult, relayEmits, hpeer, normStatus_eq hsame, ← hsame.taskId, ← hsame.file,
    ← hsame.resultSig]
  by_cases hsig : e.verifySignature r.resultSig "result" r.taskId r.file r.normStatus p.signingKey = false
  · simp [hsig, outcomes]
  simp only [if_neg hsig]
  cases htask : m.tasks.get r.taskId with
  | none => exact ⟨rfl, rfl⟩
  | some t =>
    by_cases hdisrupted : r.taskId ∈ m.disrupted
    · simp only [if_pos hdisrupted, if_pos (Or.inl hdisrupted)]
      exact ⟨records_put_logs htask _, rfl⟩
    · have hterminal : t.status.terminal = true := by
        by_contra hopen
        exact h ⟨hsig, hdisrupted, t, htask, hopen⟩
      simp only [if_neg hdisrupted, if_pos hterminal, if_pos (Or.inr hterminal)]
      exact ⟨trivial, rfl⟩

/-- A result that reaches its task is handed on, over HTTP if it passes the checks there. -/
theorem emits_reached (hpeer : m.verifyTrustedPeer r.clusterKey = .ok p)
    (hpeer' : m.submitterPeer r' = .ok p) (hsame : SameResult r r')
    (hsize : r.file.length ≤ e.cfg.maxResultBytes) (hreach : Reaches e m p r) {t : Task}
    (ht : m.tasks.get r.taskId = some t) (proof : WorkerProof) :
    apiEmits e m r proof = (if r.normStatus ∈ httpStatuses then r.emits e proof t else []) ∧
      relayEmits e m r' proof = r'.emits e proof t := by
  obtain ⟨hsig, hdisrupted, t', ht', hopen⟩ := hreach
  cases ht.symm.trans ht'
  have hsmall : ¬ e.cfg.maxResultBytes < r.file.length := by omega
  have hgoing : ¬ (r.taskId ∈ m.disrupted ∨ t.status.terminal = true) := by simp [hdisrupted, hopen]
  constructor
  · by_cases hstatus : r.normStatus ∈ httpStatuses
    · simp [apiEmits, hpeer, hsmall, hstatus, hsig, ht, hgoing]
    · simp [apiEmits, hpeer, hstatus]
  · simp [relayEmits, hpeer', normStatus_eq hsame, ← hsame.taskId, ← hsame.file, ← hsame.resultSig, hsig, ht,
      hgoing]

/-- The outcomes of a task with a worker differ for a status that HTTP does not know, and for a success or a
preemption without a file. -/
theorem outcomes_differ (hsame : SameResult r r') {t : Task} {w : String} (hw : t.worker = some w)
    (hne : w ≠ "") (proof : WorkerProof)
    (h : outcomes (if r.normStatus ∈ httpStatuses then r.emits e proof t else []) =
      outcomes (r'.emits e proof t)) : r.normStatus ∈ httpStatuses ∧ HasFile r.normStatus r.file := by
  have hrelay : ¬ (r.normStatus ∈ httpStatuses ∧ HasFile r.normStatus r.file) →
      outcomes (r'.emits e proof t) = [.outcome w false] := by
    intro hnot
    have hfails : ¬ (r.normStatus = "success" ∧ r.file ≠ []) ∧ ¬ (r.normStatus = "preempted" ∧ r.file ≠ []) := by
      constructor
      · rintro ⟨hstatus, hfile⟩
        exact hnot ⟨by rw [hstatus]; decide, fun _ => hfile⟩
      · rintro ⟨hstatus, hfile⟩
        exact hnot ⟨by rw [hstatus]; decide, fun _ => hfile⟩
    simp only [RelayResult.emits, normStatus_eq hsame, ← hsame.file, if_neg hfails.1, if_neg hfails.2]
    split_ifs <;> simp [recordWorkerOutcome, hw, hne, outcomes]
  by_contra hnot
  rw [hrelay hnot] at h
  by_cases hstatus : r.normStatus ∈ httpStatuses
  · rw [if_pos hstatus] at h
    have hfile : ¬ HasFile r.normStatus r.file := fun hfile => hnot ⟨hstatus, hfile⟩
    obtain ⟨hof, -⟩ := Classical.not_imp.mp hfile
    unfold HttpResult.emits at h
    rcases hof with hsuccess | hpreempted
    · simp only [if_pos hsuccess] at h
      split_ifs at h <;> simp [recordWorkerOutcome, hw, hne, outcomes] at h
    · simp only [hpreempted, show "preempted" ≠ "success" by decide, if_false, if_true] at h
      split_ifs at h <;> simp [outcomes] at h
  · rw [if_neg hstatus] at h
    simp [outcomes] at h

end Agree

/-- As `Submission.exampleEnv`, but an empty file is no archive. -/
def archiveEnv : SubmitEnv where
  __ := Submission.exampleEnv
  unzip := fun file => ⟨[], file ≠ []⟩

/-- A task that runs on the peer `a`. -/
def runningMaster : Master := Submission.exampleMaster (Submission.exampleTask .processing (some "a"))

/-- The result of peer `a` over HTTP. -/
def byHttp (status : String) (file : List UInt8) : HttpResult := ⟨some "token-a", "wf_1", status, "", "sig", file⟩

/-- The result of peer `a` through the relay. -/
def byRelay (status : String) (file : List UInt8) : RelayResult := ⟨"a", "", "wf_1", status, "", "sig", file⟩

end NexusGrid.Tasks

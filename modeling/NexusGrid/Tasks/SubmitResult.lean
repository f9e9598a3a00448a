import NexusGrid.Tasks.Lifecycle

/-! # Results submitted by workers

A worker returns the result of a task over HTTP (`api_submit_result`) or through the relay (the `/peer/submit_result/`
branch of `relay_client.py`).
-/

namespace NexusGrid.Tasks

open Lib

/-- A row of the `Peer` table. -/
structure Peer where
  ip : String
  myAuthToken : Option String
  trusted : Bool
  signingKey : String
deriving DecidableEq

abbrev Dir := Table String (List UInt8)

structure Master where
  tasks : Table String Task
  /-- `STATE.disrupted_master_tasks`. -/
  disrupted : List String
  /-- The directories under `completed_tasks`. -/
  completedTasks : Table String Dir
  peers : List Peer
  /-- `blocked_peer_uuids`. -/
  blocked : List String

/-- What `safe_extractall` writes, and whether it ends without an exception. -/
structure Unzipped where
  files : List (String × List UInt8)
  ok : Bool
deriving DecidableEq

structure SubmitEnv where
  cfg : NodeSettings
  now : Nat
  /-- `sign_bytes purpose task_id payload extra key`. -/
  signBytes : String → String → List UInt8 → String → String → String
  unzip : List UInt8 → Unzipped

/-- `verify_signature`: an empty signature is never valid. -/
def SubmitEnv.verifySignature (e : SubmitEnv) (expected purpose taskId : String)
    (payload : List UInt8) (extra key : String) : Bool :=
  expected ≠ "" ∧ expected = e.signBytes purpose taskId payload extra key

inductive Reply
  | accepted
  | ignored
  | rejected (code : Nat) (detail : String)
deriving DecidableEq

section Steps

variable (e : SubmitEnv)

/-- `os.makedirs` and `safe_extractall` into the task's directory. -/
def Master.storeResult (m : Master) (taskId : String) (file : List UInt8) : Master :=
  let dir := PyStr.safeName taskId
  let content := (e.unzip file).files.foldl (fun d f => Table.put d f.1 f.2)
    ((m.completedTasks.get dir).getD ∅)
  { m with completedTasks := m.completedTasks.put dir content }

/-- The update of the task for a `success`. -/
def Task.completeTask (t : Task) (reason line : String) : Task :=
  let t := (t.setTaskStatus e.now .completed reason false).1
  { t with logs := t.logs ++ [line] }

/-- The file becomes the checkpoint, and the task is retried or failed. -/
def Task.preemptTask (t : Task) (file : List UInt8) (reason retried failed : String) : Task :=
  let t' := { t with checkpointPayload := file, worker := none }
  match t'.tryScheduleRetry e.cfg e.now reason t.worker with
  | some t' => { t' with logs := t'.logs ++ [retried] }
  | none =>
    let t' := (t'.setTaskStatus e.now .failed "Preempted but retry budget exhausted." false).1
    { t' with logs := t'.logs ++ [failed] }

def Task.failTask (t : Task) (reason returned retried exhausted : String) : Task :=
  let t' := { t with worker := none }
  match t'.tryScheduleRetry e.cfg e.now reason t.worker with
  | some t' => { t' with logs := t'.logs ++ [returned ++ retried] }
  | none => ({ t' with logs := t'.logs ++ [returned] }.setTaskStatus e.now .failed exhausted false).1

/-- `task.worker = None if task.status != "processing" else task.worker`. -/
def Task.release (t : Task) : Task := { t with worker := if t.status = .processing then t.worker else none }

def Master.commitTask (m : Master) (taskId : String) (t : Task) : Master :=
  { m with tasks := m.tasks.put taskId t.release, disrupted := m.disrupted.erase taskId }

end Steps

/-- A `POST /peer/submit_result/<task_id>`. -/
structure HttpResult where
  clusterKey : Option String
  taskId : String
  status : String
  logs : String
  resultSig : String
  file : List UInt8
deriving DecidableEq

def Master.verifyTrustedPeer (m : Master) (clusterKey : Option String) : Except Reply Peer :=
  match clusterKey with
  | none | some "" => .error (.rejected 403 "Missing cluster key.")
  | some token =>
    match m.peers.filter (fun p => p.myAuthToken = some token && p.trusted) with
    | [] => .error (.rejected 403 "Unauthorized token.")
    | [p] => if p.ip ∈ m.blocked then .error (.rejected 403 "Peer is blocked.") else .ok p
    | _ => .error (.rejected 500 "Multiple rows were found when one or none was required")

def httpStatuses : List String := ["success", "failed", "fatal_error", "preempted"]

/-- `str(status or "").lower().strip()`. -/
def HttpResult.normStatus (r : HttpResult) : String := PyStr.strip (PyStr.lower r.status)

def HttpResult.update (e : SubmitEnv) (m : Master) (r : HttpResult) (task : Task) : Master × Reply :=
  let status := r.normStatus
  let returned := r.logs ++ "\n[NETWORK] Payload returned. Status: " ++ PyStr.upper status ++ "."
  if status = "success" then
    let m := m.storeResult e r.taskId r.file
    if (e.unzip r.file).ok then
      (m.commitTask r.taskId
        (task.completeTask e "Remote worker returned successful payload." returned), .accepted)
    else (m, .rejected 500 "Internal Server Error")
  else if status = "preempted" then
    (m.commitTask r.taskId
      (task.preemptTask e r.file "Worker preempted task. State saved to Checkpoint."
        (r.logs ++ "\n[MASTER] Task preempted & checkpointed. Retry scheduled.")
        (r.logs ++ "\n[MASTER] Preempted with no retries left.")), .accepted)
  else
    (m.commitTask r.taskId
      (task.failTask e ("Worker returned " ++ status ++ ".") returned
        "\n[MASTER] Retry policy engaged."
        ("Worker returned " ++ status ++ "; retry budget exhausted.")), .accepted)

def apiSubmitResult (e : SubmitEnv) (m : Master) (r : HttpResult) : Master × Reply :=
  match m.verifyTrustedPeer r.clusterKey with
  | .error reply => (m, reply)
  | .ok peer =>
    let status := r.normStatus
    if e.cfg.maxResultBytes < r.file.length then
      (m, .rejected 413 ("Result payload too large: " ++ toString r.file.length ++
        " bytes exceeds limit " ++ toString e.cfg.maxResultBytes ++ " bytes."))
    else if status ∉ httpStatuses then (m, .rejected 400 "Invalid status.")
    else if e.verifySignature r.resultSig "result" r.taskId r.file status peer.signingKey = false then
      (m, .rejected 403 "Result signature invalid.")
    else match m.tasks.get r.taskId with
      | none => (m, .accepted)
      | some task =>
        if r.taskId ∈ m.disrupted then
          let logs := task.logs ++ [r.logs ++ "\n[MASTER] Late payload ignored (disrupted)."]
          ({ m with tasks := m.tasks.put r.taskId { task with logs } }, .ignored)
        else if task.status.terminal then (m, .ignored)
        else r.update e m task

structure RelayResult where
  fromId : String
  fromIp : String
  taskId : String
  /-- `body.get("status", "failed")`. -/
  status : String
  logs : String
  resultSig : String
  file : List UInt8
deriving DecidableEq

def Master.submitterPeer (m : Master) (r : RelayResult) : Except Reply Peer :=
  match m.peers.filter (fun p => (p.ip = r.fromId || p.ip = r.fromIp) && p.trusted) with
  | [] => .error (.rejected 403 "Untrusted relay peer")
  | [p] => .ok p
  | _ => .error (.rejected 500 "Multiple rows were found when one or none was required")

def RelayResult.normStatus (r : RelayResult) : String := PyStr.strip (PyStr.lower r.status)

/-- What an accepted relayed submission does. -/
def RelayResult.update (e : SubmitEnv) (m : Master) (r : RelayResult) (task : Task) : Master × Reply :=
  let status := r.normStatus
  if status = "success" ∧ r.file ≠ [] then
    let m := m.storeResult e r.taskId r.file
    if (e.unzip r.file).ok then
      (m.commitTask r.taskId
        (task.completeTask e "Relay worker returned successful payload."
          (r.logs ++ "\n[RELAY] Payload returned from " ++ r.fromId ++ ". Status: SUCCESS.")),
        .accepted)
    else (m, .rejected 500 "Internal Server Error")
  else if status = "preempted" ∧ r.file ≠ [] then
    (m.commitTask r.taskId
      (task.preemptTask e r.file "Worker preempted task via relay."
        (r.logs ++ "\n[RELAY] Task preempted & checkpointed.")
        (r.logs ++ "\n[MASTER] Preempted, no retries left.")), .accepted)
  else
    let payload := if r.file ≠ [] then r.file else task.payload
    let returned := r.logs ++ "\n[RELAY] Result from " ++ r.fromId ++ ". Status: " ++ PyStr.upper status ++ "."
    (m.commitTask r.taskId
      (({ task with payload } : Task).failTask e ("Relay worker returned " ++ status ++ ".")
        returned "" ("Relay worker returned " ++ status ++ "; retry exhausted.")), .accepted)

/-- The `/peer/submit_result/` branch of the relay client. -/
def relaySubmitResult (e : SubmitEnv) (m : Master) (r : RelayResult) : Master × Reply :=
  match m.submitterPeer r with
  | .error reply => (m, reply)
  | .ok peer =>
    if e.verifySignature r.resultSig "result" r.taskId r.file r.normStatus peer.signingKey = false then
      (m, .rejected 403 "Result signature invalid")
    else match m.tasks.get r.taskId with
      | none => (m, .rejected 404 "Task not found")
      | some task =>
        if r.taskId ∈ m.disrupted then
          let logs := task.logs ++ [r.logs ++ "\n[MASTER] Late relay payload ignored (disrupted)."]
          ({ m with tasks := m.tasks.put r.taskId { task with logs } }, .ignored)
        else if task.status.terminal then (m, .ignored)
        else r.update e m task

end NexusGrid.Tasks

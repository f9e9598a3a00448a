import Mathlib.Algebra.Group.Nat.Defs
import NexusGrid.Lib.PyStr
import NexusGrid.Lib.Table

/-! # Task records and their status

The status of a task, `set_task_status` and `try_schedule_retry`.
-/

namespace NexusGrid.Tasks

open Lib

/-- `TASK_STATES`. -/
inductive TaskStatus
  | waiting
  | awaitingApproval
  | queued
  | processing
  | serving
  | preempted
  | disrupted
  | cancelled
  | retrying
  | completed
  | failed
  | leaseExpired
deriving DecidableEq

namespace TaskStatus

/-- The text in the `status` column. -/
def text : TaskStatus → String
  | waiting => "waiting"
  | awaitingApproval => "awaiting_approval"
  | queued => "queued"
  | processing => "processing"
  | serving => "serving"
  | preempted => "preempted"
  | disrupted => "disrupted"
  | cancelled => "cancelled"
  | retrying => "retrying"
  | completed => "completed"
  | failed => "failed"
  | leaseExpired => "lease_expired"

/-- `TERMINAL_STATES`. -/
def terminal : TaskStatus → Bool
  | completed | failed | cancelled | disrupted => true
  | _ => false

/-- `ALLOWED_TRANSITIONS`. -/
def allowed : TaskStatus → List TaskStatus
  | waiting => [queued, awaitingApproval, cancelled]
  | awaitingApproval => [queued, cancelled]
  | queued => [processing, cancelled, retrying]
  | processing => [completed, failed, preempted, disrupted, leaseExpired, cancelled, retrying, serving]
  | serving => [completed, failed, preempted, disrupted, cancelled]
  | preempted => [retrying, queued, failed]
  | leaseExpired => [retrying, queued, failed]
  | retrying => [queued, cancelled, failed]
  | failed => [retrying, queued]
  | completed => [queued]
  | cancelled => []
  | disrupted => [retrying, queued, failed]

end TaskStatus

/-- An entry of `NEXUS_META_TIMELINE`. -/
structure TimelineEvent where
  ts : Nat
  event : String
  details : String
deriving DecidableEq

/-- The `NEXUS_META_*` keys of `env_vars` that the modelled functions use. -/
structure TaskEnv where
  retryMax : Option Int
  retryCount : Option Int
  retryBackoffBase : Option Int
  nextRetryAt : Nat
  failedWorkers : List String
  timeline : List TimelineEvent
  queuedAt : Option Nat
  startedAt : Option Nat
  completedAt : Option Nat
  leaseOwner : String
  leaseExpiresAt : Nat
  leaseSeconds : Nat
  /-- `NEXUS_META_STEP_GATE`, when the dispatch set it. -/
  stepGate : Option Bool
deriving DecidableEq

/-- A `TaskRecord`; its id is the key of the table it is in. -/
structure Task where
  status : TaskStatus
  worker : Option String
  parentId : String
  dependsOn : String
  payload : List UInt8
  checkpointPayload : List UInt8
  logs : List String
  env : TaskEnv
deriving DecidableEq

structure NodeSettings where
  retryBackoffBaseSec : Int
  leaseSeconds : Nat
  stepGate : Bool
  maxResultBytes : Nat
deriving DecidableEq

namespace TaskEnv

/-- `add_task_timeline_event`: the last 250 entries are kept. -/
def addTimelineEvent (now : Nat) (env : TaskEnv) (event details : String) : TaskEnv :=
  let timeline := env.timeline ++ [⟨now, event, details⟩]
  { env with timeline := timeline.drop (timeline.length - 250) }

/-- The stamps that `set_task_status` leaves on entering a status. -/
def stamp (now : Nat) (env : TaskEnv) (target : TaskStatus) : TaskEnv where
  __ := env
  queuedAt := if target = .queued then some now else env.queuedAt
  startedAt :=
    if (target = .processing ∨ target = .serving) ∧ env.startedAt.getD 0 = 0 then some now
    else env.startedAt
  completedAt := if target.terminal then some now else env.completedAt

/-- `int(env.get(key, default) or default)`. -/
def intOr (entry : Option Int) (default : Int) : Int :=
  match entry with
  | none => default
  | some n => if n = 0 then default else n

end TaskEnv

namespace Task

/-- `[d.strip() for d in (task.depends_on or "").split(",") if d.strip()]`. -/
def deps (t : Task) : List String := PyStr.splitCsv t.dependsOn

/-- The body of `set_task_status` once the transition is admitted. -/
def enter (now : Nat) (t : Task) (target : TaskStatus) (reason : String) : Task where
  __ := t
  status := target
  logs := t.logs ++ ["[STATE] " ++ PyStr.upper t.status.text ++ " -> " ++ PyStr.upper target.text ++
    "." ++ (if reason = "" then "" else " " ++ reason)]
  env := (t.env.addTimelineEvent now "status_transition"
    (t.status.text ++ "->" ++ target.text ++ ": " ++ reason)).stamp now target

/-- `set_task_status`; the second component is its return value. -/
def setTaskStatus (now : Nat) (t : Task) (target : TaskStatus) (reason : String) (force : Bool) : Task × Bool :=
  if force = false ∧ target ∉ t.status.allowed then (t, false)
  else if t.status = target then (t, true)
  else (t.enter now target reason, true)

/-- `get_retry_policy`: the retry budget. -/
def retryMax (t : Task) : Nat := (TaskEnv.intOr t.env.retryMax 2).toNat

/-- `get_retry_policy`: the retries used. -/
def retryCount (t : Task) : Nat := (TaskEnv.intOr t.env.retryCount 0).toNat

/-- `get_retry_policy`: the backoff base in seconds. -/
def backoffBase (cfg : NodeSettings) (t : Task) : Nat :=
  (max 1 (TaskEnv.intOr t.env.retryBackoffBase cfg.retryBackoffBaseSec)).toNat

def failedWorkers (t : Task) (failedWorker : Option String) : List String :=
  match failedWorker with
  | none => t.env.failedWorkers
  | some w =>
    if w = "" ∨ w ∈ t.env.failedWorkers then t.env.failedWorkers else t.env.failedWorkers ++ [w]

/-- `try_schedule_retry`: `none` when the budget is used up. -/
def tryScheduleRetry (cfg : NodeSettings) (now : Nat) (t : Task) (reason : String)
    (failedWorker : Option String) : Option Task :=
  if t.retryMax ≤ t.retryCount then none
  else
    let env := { t.env with
      retryMax := some t.retryMax
      retryCount := some (t.retryCount + 1)
      retryBackoffBase := some (t.backoffBase cfg)
      nextRetryAt := now + t.backoffBase cfg * 2 ^ t.retryCount
      failedWorkers := t.failedWorkers failedWorker }
    let reason := reason ++ " Retry " ++ toString (t.retryCount + 1) ++ "/" ++ toString t.retryMax ++ "."
    some (setTaskStatus now { t with env } .retrying reason true).1

/-- What no status change touches. -/
structure SameBut (t t' : Task) : Prop where
  worker : t'.worker = t.worker
  parentId : t'.parentId = t.parentId
  dependsOn : t'.dependsOn = t.dependsOn
  checkpointPayload : t'.checkpointPayload = t.checkpointPayload
  retryMax : t'.env.retryMax = t.env.retryMax
  retryCount : t'.env.retryCount = t.env.retryCount
  retryBackoffBase : t'.env.retryBackoffBase = t.env.retryBackoffBase
  nextRetryAt : t'.env.nextRetryAt = t.env.nextRetryAt
  stepGate : t'.env.stepGate = t.env.stepGate

theorem SameBut.refl (t : Task) : t.SameBut t := ⟨rfl, rfl, rfl, rfl, rfl, rfl, rfl, rfl, rfl⟩

variable (cfg : NodeSettings) (now : Nat) (t : Task)

theorem enter_sameBut (target : TaskStatus) (reason : String) : t.SameBut (t.enter now target reason) := by
  constructor <;> simp only [enter, TaskEnv.stamp, TaskEnv.addTimelineEvent]

theorem setTaskStatus_sameBut (target : TaskStatus) (reason : String) (force : Bool) :
    t.SameBut (t.setTaskStatus now target reason force).1 := by
  unfold setTaskStatus
  split_ifs
  · exact .refl t
  · exact .refl t
  · exact t.enter_sameBut now target reason

theorem setTaskStatus_status (target : TaskStatus) (reason : String) (force : Bool) :
    (t.setTaskStatus now target reason force).1.status =
      if force = true ∨ target ∈ t.status.allowed then target else t.status := by
  unfold setTaskStatus
  by_cases hadm : force = true ∨ target ∈ t.status.allowed
  · have hnot : ¬(force = false ∧ target ∉ t.status.allowed) := by
      rintro ⟨hf, hmem⟩
      rcases hadm with h | h
      · simp [hf] at h
      · exact hmem h
    split_ifs with heq
    · exact heq
    · rfl
  · have hnot : force = false ∧ target ∉ t.status.allowed := by simpa [not_or] using hadm
    rw [if_neg hadm, if_pos hnot]

theorem tryScheduleRetry_eq_none_iff (reason : String) (failedWorker : Option String) :
    t.tryScheduleRetry cfg now reason failedWorker = none ↔ t.retryMax ≤ t.retryCount := by
  unfold tryScheduleRetry
  split_ifs with h <;> simp [h]

theorem tryScheduleRetry_some {reason : String} {failedWorker : Option String} {t' : Task}
    (h : t.tryScheduleRetry cfg now reason failedWorker = some t') :
    t'.status = .retrying ∧ t'.worker = t.worker ∧ t'.parentId = t.parentId ∧
      t'.dependsOn = t.dependsOn ∧ t'.env.stepGate = t.env.stepGate ∧
      t'.env.retryCount = some (t.retryCount + 1 : Nat) := by
  unfold tryScheduleRetry at h
  split at h
  case isTrue => simp at h
  case isFalse =>
    cases h
    have hsame := fun t₀ => setTaskStatus_sameBut now t₀ .retrying
      (reason ++ " Retry " ++ toString (t.retryCount + 1) ++ "/" ++ toString t.retryMax ++ ".")
      true
    refine ⟨?_, (hsame _).worker, (hsame _).parentId, (hsame _).dependsOn, (hsame _).stepGate, (hsame _).retryCount⟩
    rw [setTaskStatus_status]
    simp

theorem env_retryCount_ne : t.env.retryCount ≠ some (t.retryCount + 1 : Nat) := by
  unfold retryCount TaskEnv.intOr
  split
  case h_1 hnone => simp [hnone]
  case h_2 n hsome =>
    rw [hsome]
    intro heq
    have hn := Option.some.inj heq
    split_ifs at hn <;> omega

end Task

end NexusGrid.Tasks

import NexusGrid.Tasks.SubmitResult

/-! # Whose result counts

Neither entry point compares the sender of a result with the worker that holds the task.
-/

namespace NexusGrid.Tasks

open Lib

structure TaskView where
  status : TaskStatus
  worker : Option String
  checkpointPayload : List UInt8
  retryMax : Option Int
  retryCount : Option Int
  retryBackoffBase : Option Int
  nextRetryAt : Nat
deriving DecidableEq

def Task.view (t : Task) : TaskView where
  status := t.status
  worker := t.worker
  checkpointPayload := t.checkpointPayload
  retryMax := t.env.retryMax
  retryCount := t.env.retryCount
  retryBackoffBase := t.env.retryBackoffBase
  nextRetryAt := t.env.nextRetryAt

def Master.view (m : Master) (taskId : String) : Option TaskView × Option (String → Option (List UInt8)) :=
  ((m.tasks.get taskId).map Task.view, (m.completedTasks.get (PyStr.safeName taskId)).map Table.get)

/-- It may not become `completed`, and nobody holds it. -/
def Task.NothingToComplete (t : Task) : Prop := .completed ∉ t.status.allowed ∧ t.worker = none

/-- It may not become `failed`, nobody holds it, and no retry is left. -/
def Task.NothingToFail (t : Task) : Prop := .failed ∉ t.status.allowed ∧ t.worker = none ∧ t.retryMax ≤ t.retryCount

namespace Task

variable (e : SubmitEnv) {t : Task}

theorem view_of_sameBut {t' : Task} (h : t.SameBut t') : t'.view = { t.view with status := t'.status } := by
  simp only [view, h.worker, h.checkpointPayload, h.retryMax, h.retryCount, h.retryBackoffBase, h.nextRetryAt]

theorem setTaskStatus_release_view (now : Nat) (target : TaskStatus) (reason : String)
    (htarget : target ≠ .processing) (logs : List String) :
    ({ (t.setTaskStatus now target reason false).1 with logs } : Task).release.view =
      if target ∈ t.status.allowed then { t.view with status := target, worker := none }
      else { t.view with worker := if t.status = .processing then t.worker else none } := by
  have hview := view_of_sameBut (t.setTaskStatus_sameBut now target reason false)
  have hstatus := t.setTaskStatus_status now target reason false
  have hworker := (t.setTaskStatus_sameBut now target reason false).worker
  generalize (t.setTaskStatus now target reason false).1 = t' at hview hstatus hworker
  have hrelease : ({ t' with logs } : Task).release.view
      = { t'.view with worker := if t'.status = .processing then t'.worker else none } := rfl
  rw [hrelease, hview, hworker, hstatus]
  by_cases hadm : target ∈ t.status.allowed
  · simp [hadm, htarget]
  · simp [hadm, view]

theorem completeTask_view_eq_iff (hterm : t.status.terminal = false) (reason line : String) :
    (t.completeTask e reason line).release.view = t.view ↔ t.NothingToComplete := by
  have hview := t.setTaskStatus_release_view e.now .completed reason (by decide)
    ((t.setTaskStatus e.now .completed reason false).1.logs ++ [line])
  rw [show t.completeTask e reason line = { (t.setTaskStatus e.now .completed reason false).1 with
    logs := (t.setTaskStatus e.now .completed reason false).1.logs ++ [line] } from rfl, hview]
  unfold NothingToComplete
  by_cases hadm : .completed ∈ t.status.allowed
  · have hne : t.status ≠ .completed := by
      intro heq
      simp [heq, TaskStatus.terminal] at hterm
    simp only [hadm, not_true, false_and, iff_false, if_true]
    exact fun h => hne (congrArg TaskView.status h).symm
  -- a running task may always become completed
  have hproc : t.status ≠ .processing := by
    intro heq
    exact hadm (heq ▸ by decide)
  simp only [hadm, hproc, not_false_iff, true_and, if_false]
  constructor
  · exact fun h => (congrArg TaskView.worker h).symm
  intro h
  simp [view, h]

/-- When failing a task without a worker is idle. -/
theorem failed_view_eq_iff (hterm : t.status.terminal = false) {t₀ : Task}
    (ht₀ : t₀.view = { t.view with worker := none, checkpointPayload := t₀.checkpointPayload })
    (reason : String) (logs : List String) :
    ({ (t₀.setTaskStatus e.now .failed reason false).1 with logs } : Task).release.view = t.view ↔
      .failed ∉ t.status.allowed ∧ t.worker = none ∧ t₀.checkpointPayload = t.checkpointPayload := by
  have hstatus : t₀.status = t.status := congrArg TaskView.status ht₀
  rw [t₀.setTaskStatus_release_view e.now .failed reason (by decide) logs, ht₀, hstatus]
  by_cases hadm : .failed ∈ t.status.allowed
  · have hne : t.status ≠ .failed := by
      intro heq
      simp [heq, TaskStatus.terminal] at hterm
    simp only [hadm, not_true, false_and, iff_false, if_true]
    exact fun h => hne (congrArg TaskView.status h).symm
  have hproc : t.status ≠ .processing := by
    intro heq
    exact hadm (heq ▸ by decide)
  simp only [hadm, hproc, not_false_iff, true_and, if_false]
  constructor
  · intro h
    exact ⟨(congrArg TaskView.worker h).symm, congrArg TaskView.checkpointPayload h⟩
  rintro ⟨hworker, hcheck⟩
  simp [view, hworker, hcheck]

theorem retried_view_ne {t₀ t' : Task} {reason : String} {failedWorker : Option String}
    (ht₀ : t₀.env = t.env) (h : t₀.tryScheduleRetry e.cfg e.now reason failedWorker = some t')
    (logs : List String) : ({ t' with logs } : Task).release.view ≠ t.view := by
  intro heq
  have hcount := congrArg TaskView.retryCount heq
  have hnew := (t₀.tryScheduleRetry_some e.cfg e.now h).2.2.2.2.2
  have hsame : t'.env.retryCount = t₀.env.retryCount := by
    rw [ht₀]
    exact hcount
  exact t₀.env_retryCount_ne (hsame.symm.trans hnew)

theorem preemptTask_view_eq_iff (hterm : t.status.terminal = false) (file : List UInt8)
    (reason retried failed : String) : (t.preemptTask e file reason retried failed).release.view = t.view ↔
      t.checkpointPayload = file ∧ t.NothingToFail := by
  unfold preemptTask
  dsimp only
  have hnone := tryScheduleRetry_eq_none_iff e.cfg e.now
    { t with checkpointPayload := file, worker := none } reason t.worker
  split
  case h_1 t' ht' =>
    refine iff_of_false (retried_view_ne e (by rfl) ht' _) fun h => ?_
    rw [hnone.mpr h.2.2.2] at ht'
    simp at ht'
  case h_2 hexhausted =>
    have hleft : t.retryMax ≤ t.retryCount := hnone.mp hexhausted
    rw [failed_view_eq_iff e hterm rfl]
    constructor
    · rintro ⟨hadm, hworker, hcheck⟩
      exact ⟨hcheck.symm, hadm, hworker, hleft⟩
    rintro ⟨hcheck, hadm, hworker, -⟩
    exact ⟨hadm, hworker, hcheck.symm⟩

theorem failTask_view_eq_iff (hterm : t.status.terminal = false) (payload : List UInt8)
    (reason returned retried exhausted : String) :
    (({ t with payload } : Task).failTask e reason returned retried exhausted).release.view
      = t.view ↔ t.NothingToFail := by
  unfold failTask
  dsimp only
  have hnone := tryScheduleRetry_eq_none_iff e.cfg e.now
    { t with payload, worker := none } reason t.worker
  split
  case h_1 t' ht' =>
    refine iff_of_false (retried_view_ne e (by rfl) ht' _) fun h => ?_
    rw [hnone.mpr h.2.2] at ht'
    simp at ht'
  case h_2 hexhausted =>
    have hleft : t.retryMax ≤ t.retryCount := hnone.mp hexhausted
    refine (failed_view_eq_iff e hterm rfl exhausted _).trans ?_
    constructor
    · rintro ⟨hadm, hworker, -⟩
      exact ⟨hadm, hworker, hleft⟩
    rintro ⟨hadm, hworker, -⟩
    exact ⟨hadm, hworker, rfl⟩

end Task

inductive Submission
  | http (r : HttpResult)
  | relay (r : RelayResult)
deriving DecidableEq

inductive Branch
  | success
  | preempted
  | failed
deriving DecidableEq

namespace Submission

def taskId : Submission → String
  | http r => r.taskId
  | relay r => r.taskId

def file : Submission → List UInt8
  | http r => r.file
  | relay r => r.file

def sender (m : Master) : Submission → Except Reply Peer
  | http r => m.verifyTrustedPeer r.clusterKey
  | relay r => m.submitterPeer r

def submit (e : SubmitEnv) (m : Master) : Submission → Master
  | http r => (apiSubmitResult e m r).1
  | relay r => (relaySubmitResult e m r).1

/-- Its size and status (HTTP only) and its signature pass. -/
def admitted (e : SubmitEnv) (p : Peer) : Submission → Bool
  | http r =>
    r.file.length ≤ e.cfg.maxResultBytes && r.normStatus ∈ httpStatuses &&
      e.verifySignature r.resultSig "result" r.taskId r.file r.normStatus p.signingKey
  | relay r => e.verifySignature r.resultSig "result" r.taskId r.file r.normStatus p.signingKey

def branch : Submission → Branch
  | http r =>
    if r.normStatus = "success" then .success
    else if r.normStatus = "preempted" then .preempted
    else .failed
  | relay r =>
    if r.normStatus = "success" ∧ r.file ≠ [] then .success
    else if r.normStatus = "preempted" ∧ r.file ≠ [] then .preempted
    else .failed

def Accepted (e : SubmitEnv) (m : Master) (p : Peer) (t : Task) (req : Submission) : Prop :=
  req.admitted e p = true ∧ req.taskId ∉ m.disrupted ∧ t.status.terminal = false

def SameFiles (e : SubmitEnv) (m : Master) (req : Submission) : Prop :=
  ((m.storeResult e req.taskId req.file).view req.taskId).2 = (m.view req.taskId).2

def Idle (e : SubmitEnv) (m : Master) (t : Task) (req : Submission) : Prop :=
  match req.branch with
  | .success => req.SameFiles e m ∧ ((e.unzip req.file).ok = true → t.NothingToComplete)
  | .preempted => t.checkpointPayload = req.file ∧ t.NothingToFail
  | .failed => t.NothingToFail

def update (e : SubmitEnv) (m : Master) (t : Task) : Submission → Master
  | http r => (r.update e m t).1
  | relay r => (r.update e m t).1

variable {e : SubmitEnv} {m : Master} {p : Peer} {t : Task} {req : Submission}

theorem submit_of_accepted (hsender : req.sender m = .ok p)
    (htask : m.tasks.get req.taskId = some t) (h : req.Accepted e m p t) : req.submit e m = req.update e m t := by
  obtain ⟨hadm, hdis, hterm⟩ := h
  cases req with
  | http r =>
    simp only [admitted, Bool.and_eq_true, decide_eq_true_eq] at hadm
    simp only [sender, taskId] at hsender htask hdis
    simp [submit, update, apiSubmitResult, hsender, htask, hadm, hdis, hterm, Nat.not_lt.mpr hadm.1.1]
  | relay r =>
    simp only [admitted] at hadm
    simp only [sender, taskId] at hsender htask hdis
    simp [submit, update, relaySubmitResult, hsender, htask, hadm, hdis, hterm]

theorem submit_cases (e : SubmitEnv) (m : Master) (req : Submission) : req.submit e m = m ∨
    (∃ t logs, m.tasks.get req.taskId = some t ∧
      req.submit e m = { m with tasks := m.tasks.put req.taskId { t with logs := logs } }) ∨
    (∃ p t, req.sender m = .ok p ∧ m.tasks.get req.taskId = some t ∧ req.Accepted e m p t ∧
      req.submit e m = req.update e m t) := by
  cases hsender : req.sender m with
  | error reply =>
    left
    cases req <;> simp only [sender] at hsender <;>
      simp only [submit, apiSubmitResult, relaySubmitResult, hsender]
  | ok p =>
  cases htask : m.tasks.get req.taskId with
  | none =>
    left
    cases req <;> simp only [sender, taskId] at hsender htask <;>
      simp only [submit, apiSubmitResult, relaySubmitResult, hsender, htask] <;> split_ifs <;> rfl
  | some t =>
  by_cases hacc : req.Accepted e m p t
  · exact .inr (.inr ⟨p, t, rfl, rfl, hacc, submit_of_accepted hsender htask hacc⟩)
  cases req with
  | http r =>
    simp only [Accepted, admitted, Bool.and_eq_true, decide_eq_true_eq] at hacc
    simp only [sender, taskId] at hsender htask hacc
    simp only [submit, apiSubmitResult, hsender, htask, taskId]
    -- size, status, signature, disrupted (which leaves a log line), terminal
    split
    · exact .inl rfl
    split
    · exact .inl rfl
    split
    · exact .inl rfl
    split
    · exact .inr (.inl ⟨t, _, rfl, rfl⟩)
    split
    · exact .inl rfl
    · exact absurd ⟨⟨⟨by omega, by simp_all⟩, by simp_all⟩, by simp_all, by simp_all⟩ hacc
  | relay r =>
    simp only [Accepted, admitted] at hacc
    simp only [sender, taskId] at hsender htask hacc
    simp only [submit, relaySubmitResult, hsender, htask, taskId]
    -- the relay checks neither size nor status
    split
    · exact .inl rfl
    split
    · exact .inr (.inl ⟨t, _, rfl, rfl⟩)
    split
    · exact .inl rfl
    · exact absurd ⟨by simp_all, by simp_all, by simp_all⟩ hacc

theorem view_submit_of_not_accepted (hsender : req.sender m = .ok p)
    (htask : m.tasks.get req.taskId = some t) (h : ¬req.Accepted e m p t) :
    (req.submit e m).view req.taskId = m.view req.taskId := by
  rcases req.submit_cases e m with hsame | ⟨t', logs, ht', hlogs⟩ | ⟨p', t', hp', ht', hacc, -⟩
  · rw [hsame]
  · rw [hlogs]
    simp [Master.view, ht', Task.view]
  cases hp'.symm.trans hsender
  cases ht'.symm.trans htask
  exact absurd hacc h

theorem view_commitTask (m : Master) (taskId : String) (t : Task) :
    (m.commitTask taskId t).view taskId = (some t.release.view, (m.view taskId).2) := by
  simp [Master.view, Master.commitTask]

theorem update_cases (e : SubmitEnv) (m : Master) (t : Task) (req : Submission) :
    (req.branch = .success ∧ (e.unzip req.file).ok = true ∧ ∃ reason line, req.update e m t =
      (m.storeResult e req.taskId req.file).commitTask req.taskId (t.completeTask e reason line)) ∨
    (req.branch = .success ∧ (e.unzip req.file).ok = false ∧ req.update e m t = m.storeResult e req.taskId req.file) ∨
    (req.branch = .preempted ∧ ∃ reason retried failed, req.update e m t =
      m.commitTask req.taskId (t.preemptTask e req.file reason retried failed)) ∨
    (req.branch = .failed ∧ ∃ payload reason returned retried exhausted, req.update e m t = m.commitTask req.taskId
        (({ t with payload := payload } : Task).failTask e reason returned retried exhausted)) := by
  cases req with
  | http r =>
    unfold branch update HttpResult.update
    dsimp only
    split
    · split
      next hok => exact .inl ⟨rfl, hok, _, _, rfl⟩
      next hok => exact .inr (.inl ⟨rfl, (Bool.not_eq_true _).mp hok, rfl⟩)
    split
    · exact .inr (.inr (.inl ⟨rfl, _, _, _, rfl⟩))
    · exact .inr (.inr (.inr ⟨rfl, t.payload, _, _, _, _, rfl⟩))
  | relay r =>
    unfold branch update RelayResult.update
    dsimp only
    split
    · split
      next hok => exact .inl ⟨rfl, hok, _, _, rfl⟩
      next hok => exact .inr (.inl ⟨rfl, (Bool.not_eq_true _).mp hok, rfl⟩)
    split
    · exact .inr (.inr (.inl ⟨rfl, _, _, _, rfl⟩))
    · exact .inr (.inr (.inr ⟨rfl, _, _, _, _, _, rfl⟩))

theorem view_update_eq_iff (htask : m.tasks.get req.taskId = some t) (hterm : t.status.terminal = false) :
    (req.update e m t).view req.taskId = m.view req.taskId ↔ req.Idle e m t := by
  have hview : m.view req.taskId = (some t.view, (m.view req.taskId).2) := by simp [Master.view, htask]
  have hstored : (m.storeResult e req.taskId req.file).view req.taskId
      = (some t.view, ((m.storeResult e req.taskId req.file).view req.taskId).2) := by
    simp [Master.view, Master.storeResult, htask]
  unfold Idle
  rcases req.update_cases e m t with ⟨hb, hok, reason, line, hupd⟩ | ⟨hb, hok, hupd⟩ |
    ⟨hb, reason, retried, failed, hupd⟩ | ⟨hb, payload, reason, returned, retried, exhausted, hupd⟩
  · rw [hb, hupd, view_commitTask, hview]
    simp only [Prod.mk.injEq, Option.some.injEq, Task.completeTask_view_eq_iff e hterm, SameFiles, hok, true_implies]
    exact and_comm
  · rw [hb, hupd, hstored, hview]
    simp [SameFiles, hok]
  · rw [hb, hupd, view_commitTask, hview]
    simp only [Prod.mk.injEq, Option.some.injEq, Task.preemptTask_view_eq_iff e hterm, and_true]
  rw [hb, hupd, view_commitTask, hview]
  simp only [Prod.mk.injEq, Option.some.injEq, Task.failTask_view_eq_iff e hterm, and_true]

/-- **Exactly when a submission leaves the protected part of a task alone.** -/
theorem view_submit_eq_iff (hsender : req.sender m = .ok p) (htask : m.tasks.get req.taskId = some t) :
    (req.submit e m).view req.taskId = m.view req.taskId ↔ ¬req.Accepted e m p t ∨ req.Idle e m t := by
  by_cases hacc : req.Accepted e m p t
  · rw [submit_of_accepted hsender htask hacc, view_update_eq_iff htask hacc.2.2]
    simp [hacc]
  · exact iff_of_true (view_submit_of_not_accepted hsender htask hacc) (.inl hacc)

def OwnedBy (p : Peer) (t : Task) : Prop := t.status = .processing ∧ t.worker = some p.ip

/-- **When only the lease owner can change a task.** -/
theorem changes_only_owned_iff (e : SubmitEnv) (m : Master) (p : Peer) (t : Task)
    (req : Submission) (hsender : req.sender m = .ok p) (htask : m.tasks.get req.taskId = some t) :
    ((req.submit e m).view req.taskId ≠ m.view req.taskId → OwnedBy p t) ↔
      ¬req.Accepted e m p t ∨ OwnedBy p t ∨ req.Idle e m t := by
  constructor
  · intro h
    by_cases hsame : (req.submit e m).view req.taskId = m.view req.taskId
    · rcases (view_submit_eq_iff hsender htask).mp hsame with hna | hidle
      · exact .inl hna
      · exact .inr (.inr hidle)
    · exact .inr (.inl (h hsame))
  rintro (hna | hown | hidle) hne
  · exact absurd ((view_submit_eq_iff hsender htask).mpr (.inl hna)) hne
  · exact hown
  · exact absurd ((view_submit_eq_iff hsender htask).mpr (.inr hidle)) hne

/-- A signature check that accepts `sig`, and an archive with one file. -/
def exampleEnv : SubmitEnv where
  cfg := ⟨5, 60, false, 1000⟩
  now := 100
  signBytes := fun _ _ _ _ _ => "sig"
  unzip := fun file => ⟨[("out.txt", file)], true⟩

def exampleTask (status : TaskStatus) (worker : Option String) : Task where
  status := status
  worker := worker
  parentId := "wf"
  dependsOn := ""
  payload := []
  checkpointPayload := []
  logs := []
  env := ⟨none, none, none, 0, [], [], none, none, none, "", 0, 0, none⟩

def exampleMaster (t : Task) : Master where
  tasks := Table.put ∅ "wf_1" t
  disrupted := []
  completedTasks := ∅
  peers := [⟨"a", some "token-a", true, "key-a"⟩, ⟨"b", some "token-b", true, "key-b"⟩]
  blocked := []

def exampleResult (token status : String) : Submission := .http ⟨some token, "wf_1", status, "", "sig", [1]⟩

/-- The owner of a running task completes it. -/
theorem changes_only_owned_by_owner :
    let m := exampleMaster (exampleTask .processing (some "a"))
    let req := exampleResult "token-a" "success"
    ((req.submit exampleEnv m).view "wf_1").1.map TaskView.status = some .completed ∧
      ((req.submit exampleEnv m).view req.taskId ≠ m.view req.taskId →
        OwnedBy ⟨"a", some "token-a", true, "key-a"⟩ (exampleTask .processing (some "a"))) :=
  ⟨by decide, (changes_only_owned_iff exampleEnv _ _ _ (exampleResult "token-a" "success")
    rfl rfl).mpr (.inr (.inl ⟨rfl, rfl⟩))⟩

/-- **Somebody else's task.** -/
theorem foreign_result_changes_task :
    let running := exampleMaster (exampleTask .processing (some "a"))
    let waiting := exampleMaster (exampleTask .waiting none)
    let req := exampleResult "token-b" "failed"
    (∃ p, req.sender running = .ok p ∧ p.ip = "b") ∧
      (((req.submit exampleEnv running).view "wf_1").1.map fun v => (v.status, v.worker))
        = some (.retrying, none) ∧
      (((req.submit exampleEnv waiting).view "wf_1").1.map TaskView.status) = some .retrying := by
  refine ⟨⟨⟨"b", some "token-b", true, "key-b"⟩, rfl, rfl⟩, by decide, by decide⟩

end Submission

end NexusGrid.Tasks

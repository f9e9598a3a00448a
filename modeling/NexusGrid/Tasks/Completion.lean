import NexusGrid.Tasks.Outcomes

/-! # What a completed task leaves on record

Both handlers record a success whatever `set_task_status` has answered.
-/

namespace NexusGrid.Tasks

open Lib

/-- What `issue_compute_receipt` asks. -/
structure Receipts where
  /-- `get_local_group_pubkey`. -/
  me : String
  /-- `target_groups` in the metadata of a task. -/
  targetGroups : String → List String
  /-- `_provider_pubkey_for`. -/
  providerPubkeyFor : String → String → String
  verifyWorkerProof : String → String → Int → String → Bool

/-- `issue_compute_receipt`: the receipt that is stored, if one is. -/
def Receipts.issueComputeReceipt (c : Receipts) (taskId : String) (worker : Option String) (proof : WorkerProof) :
    Option (String × String) :=
  let groups := c.targetGroups taskId
  let providerIn := fun g => c.providerPubkeyFor g (worker.getD "")
  if groups ≠ [] then
    match groups.find? fun g => providerIn g ≠ "" with
    | none => none
    | some g => if providerIn g = c.me then none else some (g, providerIn g)
  else
    let provider := PyStr.strip proof.workerPubkey
    if provider = "" ∨ provider = c.me then none
    else if c.verifyWorkerProof taskId provider proof.elapsedSecs proof.workerProof = false then none
    else some ("", provider)

def countsTask (l : List Emission) : Prop := .metric "tasks_completed" ∈ l

def creditsWorker (l : List Emission) : Prop := ∃ worker, .outcome worker true ∈ l

def storesReceipt (c : Receipts) (l : List Emission) : Prop :=
  ∃ taskId worker proof, .receipt taskId worker proof ∈ l ∧ (c.issueComputeReceipt taskId worker proof).isSome

namespace Submission

variable {e : SubmitEnv} {m : Master} {p : Peer} {t : Task} {req : Submission}

def emits (e : SubmitEnv) (m : Master) (proof : WorkerProof) : Submission → List Emission
  | http r => apiEmits e m r proof
  | relay r => relayEmits e m r proof

def status (m : Master) (taskId : String) : Option TaskStatus := (m.tasks.get taskId).map Task.status

/-- The call moves the task to `completed`. -/
def MovesTask (e : SubmitEnv) (m : Master) (req : Submission) : Prop :=
  status m req.taskId ≠ some .completed ∧ status (req.submit e m) req.taskId = some .completed

/-- The request reaches `set_task_status`. -/
def Completes (e : SubmitEnv) (m : Master) (t : Task) (req : Submission) : Prop :=
  ∃ p, req.sender m = .ok p ∧ m.tasks.get req.taskId = some t ∧ req.Accepted e m p t ∧ (e.unzip req.file).ok = true

theorem normStatus_of_http {r : HttpResult} (h : (http r).branch = .success) : r.normStatus = "success" := by
  by_contra hne
  rw [branch, if_neg hne] at h
  split_ifs at h

theorem normStatus_of_relay {r : RelayResult} (h : (relay r).branch = .success) :
    r.normStatus = "success" ∧ r.file ≠ [] := by
  by_contra hne
  rw [branch, if_neg hne] at h
  split_ifs at h

theorem emits_of_completes (proof : WorkerProof) (hbranch : req.branch = .success) (h : req.Completes e m t) :
    ∃ audits : List String,
    req.emits e m proof = .metric "tasks_completed" :: (recordWorkerOutcome t.worker true ++
      .receipt req.taskId t.worker proof :: audits.map (Emission.audit "task_completed")) := by
  obtain ⟨p, hsender, htask, ⟨hadm, hdis, hterm⟩, hok⟩ := h
  cases req with
  | http r =>
    have hstatus := normStatus_of_http hbranch
    simp only [admitted, Bool.and_eq_true, decide_eq_true_eq] at hadm
    simp only [sender, taskId, file] at hsender htask hdis hok
    have hemits : apiEmits e m r proof = r.emits e proof t := by
      simp [apiEmits, hsender, hadm, htask, hdis, hterm, Nat.not_lt.mpr hadm.1.1]
    refine ⟨["worker=" ++ workerName t.worker], hemits.trans ?_⟩
    simp [HttpResult.emits, hstatus, hok, taskId]
  | relay r =>
    have hstatus := normStatus_of_relay hbranch
    simp only [admitted] at hadm
    simp only [sender, taskId, file] at hsender htask hdis hok
    have hemits : relayEmits e m r proof = r.emits e proof t := by
      simp [relayEmits, hsender, hadm, htask, hdis, hterm]
    refine ⟨[], hemits.trans ?_⟩
    simp [RelayResult.emits, hstatus, hok, taskId]

/-- A success that is refused leaves at most a rejected signature. -/
theorem audit_of_not_completes (proof : WorkerProof) (hbranch : req.branch = .success)
    (h : ∀ t, ¬ req.Completes e m t) :
    ∀ x ∈ req.emits e m proof, ∃ event details, x = .audit event details := by
  intro x hx
  cases req with
  | http r =>
    simp only [emits, apiEmits] at hx
    split at hx
    · cases hx
    next p hp =>
    split at hx
    · cases hx
    next hsize =>
    split at hx
    · exact ⟨_, _, List.mem_singleton.mp hx⟩
    next hsig =>
    split at hx
    · cases hx
    next t ht =>
    split at hx
    · cases hx
    next hopen =>
    simp only [HttpResult.emits, normStatus_of_http hbranch, if_true] at hx
    split at hx
    next hok =>
      rw [not_or, not_lt, not_not] at hsize
      rw [not_or] at hopen
      refine absurd ⟨p, hp, ht, ⟨?_, hopen.1, by simpa using hopen.2⟩, hok⟩ (h t)
      simp [admitted, hsize, hsig]
    · cases hx
  | relay r =>
    simp only [emits, relayEmits] at hx
    split at hx
    · cases hx
    next p hp =>
    split at hx
    · exact ⟨_, _, List.mem_singleton.mp hx⟩
    next hsig =>
    split at hx
    · cases hx
    next t ht =>
    split at hx
    · cases hx
    next hopen =>
    simp only [RelayResult.emits, if_pos (normStatus_of_relay hbranch)] at hx
    split at hx
    next hok =>
      rw [not_or] at hopen
      refine absurd ⟨p, hp, ht, ⟨?_, hopen.1, by simpa using hopen.2⟩, hok⟩ (h t)
      simpa [admitted] using hsig
    · cases hx

/-- What the call does to the status is up to the transition table. -/
theorem movesTask_of_completes (hbranch : req.branch = .success) (h : req.Completes e m t) :
    req.MovesTask e m ↔ .completed ∈ t.status.allowed := by
  obtain ⟨p, hsender, htask, hacc, hok⟩ := h
  have hopen : t.status ≠ .completed := by
    intro heq
    have hterm := hacc.2.2
    rw [heq] at hterm
    cases hterm
  unfold MovesTask status
  rw [submit_of_accepted hsender htask hacc, htask]
  rcases update_cases e m t req with ⟨-, -, reason, line, hupdate⟩ | ⟨-, hbad, -⟩ | ⟨hother, -⟩ | ⟨hother, -⟩
  · have hafter : (t.completeTask e reason line).release.status =
        if .completed ∈ t.status.allowed then .completed else t.status := by
      have hset := t.setTaskStatus_status e.now .completed reason false
      simpa [Task.completeTask, Task.release] using hset
    rw [hupdate]
    simp only [Master.commitTask, Table.get_put_self, Option.map_some, Option.some.injEq, hafter, ne_eq, hopen,
      not_false_eq_true, true_and]
    split_ifs with hallowed
    · exact iff_of_true rfl hallowed
    · exact iff_of_false hopen hallowed
  · rw [hok] at hbad
    cases hbad
  · rw [hbranch] at hother
    cases hother
  · rw [hbranch] at hother
    cases hother

theorem not_movesTask (hbranch : req.branch = .success) (h : ∀ t, ¬ req.Completes e m t) : ¬ req.MovesTask e m := by
  rintro ⟨hbefore, hafter⟩
  refine hbefore ?_
  rw [← hafter]
  unfold status
  rcases req.submit_cases e m with hsame | ⟨t, logs, ht, hlogs⟩ | ⟨p, t, hp, ht, hacc, hupdate⟩
  · rw [hsame]
  · rw [hlogs, Table.get_put_self, ht]
    rfl
  rw [hupdate]
  rcases update_cases e m t req with ⟨-, hok, -⟩ | ⟨-, -, hstored⟩ | ⟨hother, -⟩ | ⟨hother, -⟩
  · exact absurd ⟨p, hp, ht, hacc, hok⟩ (h t)
  · rw [hstored]
    rfl
  · rw [hbranch] at hother
    cases hother
  rw [hbranch] at hother
  cases hother

theorem records_of_completes (proof : WorkerProof) (c : Receipts) (hbranch : req.branch = .success)
    (h : req.Completes e m t) :
    countsTask (req.emits e m proof) ∧ (creditsWorker (req.emits e m proof) ↔ t.worker.getD "" ≠ "") ∧
      (storesReceipt c (req.emits e m proof) ↔ (c.issueComputeReceipt req.taskId t.worker proof).isSome) := by
  obtain ⟨audits, hemits⟩ := emits_of_completes proof hbranch h
  rw [hemits]
  refine ⟨.head _, ?_, ?_⟩
  · cases hworker : t.worker with
    | none => simp [creditsWorker, recordWorkerOutcome]
    | some w => by_cases hw : w = "" <;> simp [creditsWorker, recordWorkerOutcome, hw]
  cases hworker : t.worker with
  | none => simp [storesReceipt, recordWorkerOutcome]
  | some w => by_cases hw : w = "" <;> simp [storesReceipt, recordWorkerOutcome, hw]

/-- **What a success records.** -/
theorem completion_recorded_iff (e : SubmitEnv) (m : Master) (req : Submission) (proof : WorkerProof) (c : Receipts)
    (hbranch : req.branch = .success) :
    ((countsTask (req.emits e m proof) ↔ req.MovesTask e m) ∧
      (creditsWorker (req.emits e m proof) ↔ req.MovesTask e m) ∧
      (storesReceipt c (req.emits e m proof) ↔ req.MovesTask e m)) ↔
    ∀ t, req.Completes e m t → .completed ∈ t.status.allowed ∧ t.worker.getD "" ≠ "" ∧
      (c.issueComputeReceipt req.taskId t.worker proof).isSome := by
  by_cases h : ∃ t, req.Completes e m t
  · obtain ⟨t, ht⟩ := h
    obtain ⟨hcounts, hcredits, hstores⟩ := records_of_completes proof c hbranch ht
    rw [movesTask_of_completes hbranch ht, hcredits, hstores]
    constructor
    · rintro ⟨hmetric, houtcome, hreceipt⟩ t' ⟨-, -, ht', -⟩
      obtain ⟨-, -, htask, -⟩ := ht
      cases ht'.symm.trans htask
      have hallowed := hmetric.mp hcounts
      exact ⟨hallowed, houtcome.mpr hallowed, hreceipt.mpr hallowed⟩
    intro hall
    obtain ⟨hallowed, hworker, hprovider⟩ := hall t ht
    exact ⟨iff_of_true hcounts hallowed, iff_of_true hworker hallowed, iff_of_true hprovider hallowed⟩
  · rw [not_exists] at h
    have hnone := not_movesTask hbranch h
    have haudit := audit_of_not_completes proof hbranch h
    refine iff_of_true ⟨iff_of_false ?_ hnone, iff_of_false ?_ hnone, iff_of_false ?_ hnone⟩ fun t ht => absurd ht (h t)
    · intro hmem
      obtain ⟨_, _, hx⟩ := haudit _ hmem
      cases hx
    · rintro ⟨w, hmem⟩
      obtain ⟨_, _, hx⟩ := haudit _ hmem
      cases hx
    rintro ⟨_, _, _, hmem, -⟩
    obtain ⟨_, _, hx⟩ := haudit _ hmem
    cases hx

/-- A node that runs tasks of peers, with no groups. -/
def exampleReceipts : Receipts := ⟨"me", fun _ => [], fun _ _ => "", fun _ _ _ _ => true⟩

theorem completion_recorded_iff_running :
    let req : Submission := .http (byHttp "success" [1])
    let l := req.emits archiveEnv runningMaster ⟨5, "pub", "proof"⟩
    (countsTask l ↔ req.MovesTask archiveEnv runningMaster) ∧
      (creditsWorker l ↔ req.MovesTask archiveEnv runningMaster) ∧
      (storesReceipt exampleReceipts l ↔ req.MovesTask archiveEnv runningMaster) := by
  refine (completion_recorded_iff archiveEnv runningMaster _ ⟨5, "pub", "proof"⟩ exampleReceipts (by decide)).mpr ?_
  rintro t ⟨-, -, ht, -⟩
  cases ht
  decide

/-- **A late result** -/
theorem late_success_recorded :
    (let queued := exampleMaster (exampleTask .queued none)
    let req : Submission := .http (byHttp "success" [1])
    countsTask (req.emits archiveEnv queued ⟨5, "pub", "proof"⟩) ∧
      storesReceipt exampleReceipts (req.emits archiveEnv queued ⟨5, "pub", "proof"⟩) ∧
      ¬ req.MovesTask archiveEnv queued) ∧
    (let req : Submission := .http (byHttp "success" [1])
    req.MovesTask archiveEnv runningMaster ∧
      ¬ storesReceipt exampleReceipts (req.emits archiveEnv runningMaster ⟨5, "", ""⟩)) := by
  refine ⟨⟨by unfold countsTask; decide, ⟨"wf_1", none, ⟨5, "pub", "proof"⟩, by decide, by decide⟩, ?_⟩, ?_, ?_⟩
  · exact fun h => absurd h.2 (by decide)
  · exact ⟨by decide, by decide⟩
  have hlist : emits archiveEnv runningMaster ⟨5, "", ""⟩ (.http (byHttp "success" [1])) =
      [.metric "tasks_completed", .outcome "a" true, .receipt "wf_1" (some "a") ⟨5, "", ""⟩,
        .audit "task_completed" "worker=a"] := by decide
  rintro ⟨taskId, worker, proof, hmem, hsome⟩
  rw [hlist] at hmem
  obtain ⟨rfl, rfl, rfl⟩ : taskId = "wf_1" ∧ worker = some "a" ∧ proof = ⟨5, "", ""⟩ := by simpa using hmem
  revert hsome
  decide

end Submission

end NexusGrid.Tasks

import Mathlib.Data.Char
import Mathlib.Data.List.Lex
import Mathlib.Data.List.Sort
import NexusGrid.Tasks.Workflow

/-! # What a failed submission leaves behind

`local_add_workflow` checks the images of the tasks, packs their archives and enqueues the ready ones in one loop,
before the rows are committed.
-/

namespace NexusGrid.Tasks

open Lib

/-- The rows, `STATE.task_queue` and the metric `tasks_queued`. -/
structure QueueState where
  master : Master
  queue : List String
  tasksQueued : Nat

structure ImageRequest where
  runtime : String
  /-- `str(manifest.get("image", "")).strip()`. -/
  image : String
deriving DecidableEq

structure Deployment where
  form : WorkflowForm
  /-- The setting `allowed_images`. -/
  allowedImages : List String
  /-- The manifests, by task id. -/
  request : String → ImageRequest
  /-- An exception before the ids are looked up. -/
  preflight : Option String
  /-- The archive of the task can be packed. -/
  packs : String → Bool
  /-- The database takes the commit. -/
  commits : Bool

/-- `enqueue_task` and `incr_metric("tasks_queued")`, for each of the ids. -/
def QueueState.enqueue (s : QueueState) (ids : List String) : QueueState :=
  { s with queue := s.queue ++ ids, tasksQueued := s.tasksQueued + ids.length }

inductive DeployError
  | preflight (detail : String)
  | taskIdsExist (ids : List String)
  | imageBlocked (image : String)
  | archive
  | commit
deriving DecidableEq

def DeployError.text : DeployError → String
  | .preflight detail => detail
  | .taskIdsExist ids => "Task ID(s) already exist: " ++ ", ".intercalate ids ++
      ". Pick a different workflow ID, or delete/clone the existing task."
  | .imageBlocked image => "Image '" ++ image ++ "' blocked by allowlist policy."
  | _ => "Internal Server Error"

def imageAllowed (patterns : List String) (image : String) : Bool :=
  PyStr.strip image ≠ "" && (patterns.map PyStr.strip).any fun p =>
    p ≠ "" && ((p.toList.getLast? = some '*' && p.toList.dropLast.isPrefixOf (PyStr.strip image).toList) ||
      p = PyStr.strip image)

namespace Deployment

variable (d : Deployment) (cfg : NodeSettings) (now : Nat)

def check (id : String) : Option DeployError :=
  let r := d.request id
  if r.runtime = "docker" ∧ r.image ≠ "" ∧ imageAllowed d.allowedImages r.image = false then
    some (.imageBlocked r.image)
  else if d.packs id = false then some .archive
  else none

def enqueueRows : List (String × Task) → QueueState → QueueState × Option DeployError
  | [], s => (s, none)
  | (id, t) :: rows, s =>
    match d.check id with
    | some e => (s, some e)
    | none => enqueueRows rows (if t.status = .queued then s.enqueue [id] else s)

def rows : List (String × Task) := d.form.expand cfg now [] d.form.steps

/-- `local_add_workflow`. -/
def deploy (s : QueueState) : QueueState × Option DeployError :=
  match d.preflight with
  | some detail => (s, some (.preflight detail))
  | none =>
    let existing := (d.rows cfg now).filter fun r => (s.master.tasks.get r.1).isSome
    if existing ≠ [] then
      (s, some (.taskIdsExist ((existing.map Prod.fst).dedup.insertionSort fun a b => a.toList ≤ b.toList)))
    else match d.enqueueRows (d.rows cfg now) s with
      -- the session rolls its rows back, `s'` keeps the ids in the queue
      | (s', some e) => (s', some e)
      | (s', none) =>
        if d.commits = false ∨ ¬ ((d.rows cfg now).map Prod.fst).Nodup then (s', some .commit)
        else ({ s' with master := { s'.master with tasks := s'.master.tasks.putAll (d.rows cfg now) } }, none)

def enqueued (rows : List (String × Task)) : List String :=
  ((rows.takeWhile fun r => (d.check r.1).isNone).filter fun r => r.2.status = .queued).map Prod.fst

variable {d cfg now}

theorem enqueue_append (s : QueueState) (ids ids' : List String) :
    (s.enqueue ids).enqueue ids' = s.enqueue (ids ++ ids') := by
  simp only [QueueState.enqueue, List.append_assoc, List.length_append, Nat.add_assoc]

theorem enqueued_cons {id : String} (h : d.check id = none) (t : Task) (rows : List (String × Task)) :
    d.enqueued ((id, t) :: rows) = (if t.status = .queued then [id] else []) ++ d.enqueued rows := by
  by_cases hqueued : t.status = .queued
  · simp [enqueued, h, hqueued]
  · simp [enqueued, h, hqueued]

theorem enqueueRows_eq (rows : List (String × Task)) (s : QueueState) :
    d.enqueueRows rows s = (s.enqueue (d.enqueued rows), rows.findSome? fun r => d.check r.1) := by
  induction rows generalizing s with
  | nil => simp [enqueueRows, enqueued, QueueState.enqueue]
  | cons r rows ih =>
    obtain ⟨id, t⟩ := r
    rw [enqueueRows]
    cases hcheck : d.check id with
    | some e => simp [enqueued, QueueState.enqueue, hcheck]
    | none =>
      rw [enqueued_cons hcheck, ← enqueue_append, List.findSome?_cons, hcheck]
      by_cases hqueued : t.status = .queued
      · simp only [if_pos hqueued]
        exact ih (s.enqueue [id])
      simp only [if_neg hqueued]
      have hnone : s.enqueue [] = s := by simp [QueueState.enqueue]
      rw [hnone]
      exact ih s

theorem enqueue_eq_self_iff {s : QueueState} {ids : List String} : s.enqueue ids = s ↔ ids = [] := by
  constructor
  · intro h
    have hqueue : s.queue ++ ids = s.queue := congrArg QueueState.queue h
    simpa using hqueue
  rintro rfl
  simp [QueueState.enqueue]

def Early (d : Deployment) (rows : List (String × Task)) : DeployError → Prop
  | .preflight _ => True
  | .taskIdsExist _ => True
  | _ => d.enqueued rows = []

theorem early_of_check {id : String} {e : DeployError} {rows : List (String × Task)} (h : d.check id = some e) :
    Early d rows e ↔ d.enqueued rows = [] := by
  unfold check at h
  dsimp only at h
  split_ifs at h
  · cases h
    rfl
  cases h
  rfl

theorem deploy_cases (d : Deployment) (cfg : NodeSettings) (now : Nat) (s : QueueState) :
    (∃ detail, d.deploy cfg now s = (s, some (.preflight detail))) ∨
    (∃ ids, d.deploy cfg now s = (s, some (.taskIdsExist ids))) ∨
    (∃ id e, d.check id = some e ∧ d.deploy cfg now s = (s.enqueue (d.enqueued (d.rows cfg now)), some e)) ∨
    d.deploy cfg now s = (s.enqueue (d.enqueued (d.rows cfg now)), some .commit) ∨
    ((∀ r ∈ d.rows cfg now, s.master.tasks.get r.1 = none) ∧ ((d.rows cfg now).map Prod.fst).Nodup ∧
      d.deploy cfg now s = ({ s.enqueue (d.enqueued (d.rows cfg now)) with
        master := { s.master with tasks := s.master.tasks.putAll (d.rows cfg now) } }, none)) := by
  unfold deploy
  cases hpre : d.preflight with
  | some detail => exact .inl ⟨detail, rfl⟩
  | none =>
    dsimp only
    split
    · exact .inr (.inl ⟨_, rfl⟩)
    next hexisting =>
      rw [enqueueRows_eq]
      cases hcheck : (d.rows cfg now).findSome? fun r => d.check r.1 with
      | some e =>
        obtain ⟨r, -, hr⟩ := List.exists_of_findSome?_eq_some hcheck
        exact .inr (.inr (.inl ⟨r.1, e, hr, rfl⟩))
      | none =>
        dsimp only
        split
        · exact .inr (.inr (.inr (.inl rfl)))
        next hcommit =>
          refine .inr (.inr (.inr (.inr ⟨fun r hr => ?_, ?_, rfl⟩)))
          · have hnil := List.filter_eq_nil_iff.mp (not_not.mp hexisting) r hr
            simpa using hnil
          · exact not_not.mp fun hdup => hcommit (.inr hdup)

/-- **What a failed submission leaves.** -/
theorem failed_unchanged_iff {s : QueueState} {e : DeployError} (h : (d.deploy cfg now s).2 = some e) :
    (d.deploy cfg now s).1 = s ↔ Early d (d.rows cfg now) e := by
  obtain ⟨detail, heq⟩ | ⟨ids, heq⟩ | ⟨id, e', hcheck, heq⟩ | heq | ⟨-, -, heq⟩ := d.deploy_cases cfg now s
  · rw [heq] at h ⊢
    cases h
    exact iff_of_true rfl trivial
  · rw [heq] at h ⊢
    cases h
    exact iff_of_true rfl trivial
  · rw [heq] at h ⊢
    cases h
    exact enqueue_eq_self_iff.trans (early_of_check hcheck).symm
  · rw [heq] at h ⊢
    cases h
    exact enqueue_eq_self_iff
  rw [heq] at h
  cases h

end Deployment

def twoReady (first second : String) (commits : Bool) : Deployment where
  form := {
    workflowId := "wf"
    steps := [⟨"a", [], 1, "docker", none, none, none, []⟩, ⟨"b", [], 1, "docker", none, none, none, []⟩]
    retryMax := 2
    retryBackoffBaseSec := 0
    leaseSeconds := 0
    stepGate := "" }
  allowedImages := ["python:*"]
  request id := ⟨"docker", if id = "wf_a" then first else second⟩
  preflight := none
  packs _ := true
  commits := commits

def emptyQueue : QueueState where
  master := { Submission.exampleMaster (Submission.exampleTask .waiting none) with tasks := ∅ }
  queue := []
  tasksQueued := 0

/-- `local_add_workflow` on the empty node. -/
def deployTwo (first second : String) (commits : Bool) : QueueState × Option DeployError :=
  (twoReady first second commits).deploy ⟨5, 60, false, 1000⟩ 1 emptyQueue

/-- The image of the first task is refused. -/
theorem failed_unchanged_first_image : (deployTwo "evil" "python:3" true).2 = some (.imageBlocked "evil") ∧
      (deployTwo "evil" "python:3" true).1 = emptyQueue :=
  have hfailed : (deployTwo "evil" "python:3" true).2 = some (.imageBlocked "evil") := by decide
  have hearly : (twoReady "evil" "python:3" true).enqueued
      ((twoReady "evil" "python:3" true).rows ⟨5, 60, false, 1000⟩ 1) = [] := by decide
  ⟨hfailed, (Deployment.failed_unchanged_iff hfailed).mpr hearly⟩

/-- **Left behind.** -/
theorem failure_leaves_ids : ((deployTwo "python:3" "evil" true).2 = some (.imageBlocked "evil") ∧
      (deployTwo "python:3" "evil" true).1.queue = ["wf_a"] ∧ (deployTwo "python:3" "evil" true).1.tasksQueued = 1 ∧
      (deployTwo "python:3" "evil" true).1.master.tasks.get "wf_a" = none) ∧
    ((deployTwo "python:3" "python:3" false).2 = some .commit ∧
      (deployTwo "python:3" "python:3" false).1.queue = ["wf_a", "wf_b"] ∧
      (deployTwo "python:3" "python:3" false).1.tasksQueued = 2 ∧
      (deployTwo "python:3" "python:3" false).1.master.tasks.get "wf_a" = none) := by
  decide

end NexusGrid.Tasks

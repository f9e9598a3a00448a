import NexusGrid.Tasks.Rows

/-! # No step runs before its dependencies

A step may be queued or run only after its dependencies were completed and its gate was approved.

`RowStep` lists what an event can do to one row, and `Task.Ready` is what a released row has behind
it. A submitted result that asks for a retry of an unreleased row is the one way around the check.
-/

namespace NexusGrid.Tasks

open Lib

/-! ## Rows keep their plan -/

def TaskStatus.released : TaskStatus → Bool
  | waiting | awaitingApproval => false
  | _ => true

/-- The statuses before the release. -/
theorem TaskStatus.released_of_allowed {old new : TaskStatus} (h : new ∈ old.allowed)
    (hnew : new ∉ [.queued, .awaitingApproval, .cancelled]) : old.released = true := by
  revert h hnew
  cases old <;> cases new <;> decide

namespace Task

structure SamePlan (t t' : Task) : Prop where
  dependsOn : t'.dependsOn = t.dependsOn
  stepGate : t'.env.stepGate = t.env.stepGate

namespace SamePlan

theorem refl (t : Task) : t.SamePlan t := ⟨rfl, rfl⟩

theorem trans {t t' t'' : Task} (h : t.SamePlan t') (h' : t'.SamePlan t'') : t.SamePlan t'' :=
  ⟨h'.dependsOn.trans h.dependsOn, h'.stepGate.trans h.stepGate⟩

theorem deps {t t' : Task} (h : t.SamePlan t') : t'.deps = t.deps := by
  rw [Task.deps, Task.deps, h.dependsOn]

theorem gateOn {t t' : Task} (h : t.SamePlan t') (cfg : NodeSettings) : t'.gateOn cfg = t.gateOn cfg := by
  rw [Task.gateOn, Task.gateOn, h.stepGate]

end SamePlan

variable {t t' : Task} {cfg : NodeSettings} {now : Nat}

theorem setTaskStatus_samePlan (t : Task) (now : Nat) (target : TaskStatus) (reason : String)
    (force : Bool) : t.SamePlan (t.setTaskStatus now target reason force).1 :=
  have hsame := setTaskStatus_sameBut now t target reason force
  ⟨hsame.dependsOn, hsame.stepGate⟩

theorem tryScheduleRetry_samePlan {reason : String} {failedWorker : Option String}
    (h : t.tryScheduleRetry cfg now reason failedWorker = some t') : t.SamePlan t' := by
  obtain ⟨-, -, -, hdeps, hgate, -⟩ := tryScheduleRetry_some cfg now t h
  exact ⟨hdeps, hgate⟩

theorem lt_of_tryScheduleRetry {reason : String} {failedWorker : Option String}
    (h : t.tryScheduleRetry cfg now reason failedWorker = some t') : t.retryCount < t.retryMax := by
  by_contra hle
  rw [(tryScheduleRetry_eq_none_iff cfg now t reason failedWorker).mpr (by omega)] at h
  cases h

/-! ## Rows that continue

A handler that is not a release takes a row to a released status only from a released one.
-/

/-- `t'` is a later version of `t` that was not released in between. -/
structure Continues (t t' : Task) : Prop where
  plan : t.SamePlan t'
  status : t'.status = t.status ∨ t.status.released = true ∨ t'.status = .waiting

namespace Continues

theorem refl (t : Task) : t.Continues t := ⟨.refl t, .inl rfl⟩

theorem of_released (hplan : t.SamePlan t') (hrel : t.status.released = true) : t.Continues t' :=
  ⟨hplan, .inr (.inl hrel)⟩

theorem trans {t'' : Task} (h : t.Continues t') (h' : t'.Continues t'') : t.Continues t'' := by
  refine ⟨h.plan.trans h'.plan, ?_⟩
  rcases h'.status with hsame | hrel | hwait
  · rw [hsame]
    exact h.status
  · rcases h.status with hsame | hrel' | hwait
    · exact .inr (.inl (hsame ▸ hrel))
    · exact .inr (.inl hrel')
    rw [hwait] at hrel
    cases hrel
  · exact .inr (.inr hwait)

end Continues

theorem setTaskStatus_continues (t : Task) (now : Nat) {target : TaskStatus} (reason : String)
    (htarget : target ∉ [.queued, .awaitingApproval, .cancelled]) :
    t.Continues (t.setTaskStatus now target reason false).1 := by
  refine ⟨t.setTaskStatus_samePlan now target reason false, ?_⟩
  rw [setTaskStatus_status]
  split
  next hadm =>
    rcases hadm with hf | hmem
    · exact absurd hf Bool.false_ne_true
    · exact .inr (.inl (TaskStatus.released_of_allowed hmem htarget))
  · exact .inl rfl

theorem note_samePlan (t : Task) (now : Nat) (line event details : String) :
    t.SamePlan (t.note now line event details) := by
  constructor <;> simp only [note, TaskEnv.addTimelineEvent]

theorem note_status (t : Task) (now : Nat) (line event details : String) :
    (t.note now line event details).status = t.status := by
  simp only [note]

theorem note_continues (t : Task) (now : Nat) (line event details : String) :
    t.Continues (t.note now line event details) :=
  ⟨t.note_samePlan now line event details, .inl (t.note_status now line event details)⟩

theorem addNotes_continues (t : Task) (now : Nat) (notes : List Note) : t.Continues (t.addNotes now notes) := by
  induction notes generalizing t with
  | nil => exact .refl t
  | cons n notes ih => exact (t.note_continues now ..).trans (ih _)

theorem assign_continues (hqueued : t.status = .queued) (workerId reason line event : String) :
    t.Continues (t.assign cfg now workerId reason line event) := by
  have hrel : t.status.released = true := by rw [hqueued]; rfl
  have hmove := t.setTaskStatus_samePlan now .processing reason false
  unfold assign
  dsimp only
  split
  · refine .of_released (SamePlan.trans ?_ (note_samePlan ..)) hrel
    exact ⟨hmove.dependsOn, hmove.stepGate⟩
  · exact .refl t

theorem loseWorker_continues (ip : String) : t.Continues (t.loseWorker cfg now ip) := by
  unfold loseWorker
  split
  case isFalse => exact .refl t
  case isTrue hrun =>
    have hrel : t.status.released = true := by rw [hrun.2]; rfl
    refine .of_released ?_ hrel
    dsimp only
    split
    case h_1 t' ht' =>
      have hretry := tryScheduleRetry_samePlan ht'
      exact ⟨hretry.dependsOn, hretry.stepGate⟩
    case h_2 =>
      have hfail := setTaskStatus_samePlan { t with worker := none } now .failed
        ("Worker " ++ ip ++ " disconnected and retry budget exhausted.") true
      exact ⟨hfail.dependsOn, hfail.stepGate⟩

theorem loseWorkers_continues (deadWorkers : List String) : t.Continues (t.loseWorkers cfg now deadWorkers) := by
  induction deadWorkers generalizing t with
  | nil => exact .refl t
  | cons ip deadWorkers ih => exact (t.loseWorker_continues ip).trans ih

theorem expireLease_continues : t.Continues (t.expireLease cfg now) := by
  unfold expireLease
  split
  case isFalse => exact .refl t
  case isTrue hrun =>
    have hrel : t.status.released = true := by rw [hrun.1]; rfl
    refine .of_released ?_ hrel
    have hexpired := setTaskStatus_samePlan { t with worker := none } now .leaseExpired
      ("Lease expired for worker " ++ t.worker.getD "None" ++ ".") true
    dsimp only
    split
    case h_1 t' ht' =>
      have hretry := hexpired.trans (tryScheduleRetry_samePlan ht')
      exact ⟨hretry.dependsOn, hretry.stepGate⟩
    case h_2 =>
      have hfail := hexpired.trans (setTaskStatus_samePlan _ now .failed
        "Lease expired and retry budget exhausted." true)
      exact ⟨hfail.dependsOn, hfail.stepGate⟩

theorem requeueRetry_continues : t.Continues (t.requeueRetry now) := by
  unfold requeueRetry
  split
  case isFalse => exact .refl t
  case isTrue hretry =>
    have hrel : t.status.released = true := by rw [hretry.1]; rfl
    exact .of_released (setTaskStatus_samePlan ..) hrel

theorem resume_continues (workflowId : String) (tasks : Table String Task) :
    t.Continues (t.resume now workflowId tasks) := by
  unfold resume
  split
  case isFalse => exact .refl t
  case isTrue hstalled =>
    have hrel : t.status.released = true := by
      have hmem := hstalled.2
      simp only [List.mem_cons, List.not_mem_nil, or_false] at hmem
      rcases hmem with h | h | h <;> rw [h] <;> rfl
    refine .of_released ?_ hrel
    dsimp only
    split
    · have hqueue := t.setTaskStatus_samePlan now .queued "Workflow resume." true
      exact ⟨hqueue.dependsOn, hqueue.stepGate⟩
    · exact setTaskStatus_samePlan ..

theorem release_continues (t : Task) : t.Continues t.release := ⟨⟨rfl, rfl⟩, .inl rfl⟩

variable (e : SubmitEnv)

theorem completeTask_continues (reason line : String) : t.Continues (t.completeTask e reason line) := by
  have hmove : t.Continues (t.setTaskStatus e.now .completed reason false).1 :=
    t.setTaskStatus_continues e.now reason (by decide)
  exact ⟨⟨hmove.plan.dependsOn, hmove.plan.stepGate⟩, hmove.status⟩

theorem tryScheduleRetry_continues {t' : Task} {cfg : NodeSettings} {now : Nat} {reason : String}
    {failedWorker : Option String} (hretry : t.tryScheduleRetry cfg now reason failedWorker = some t')
    (h : t.status.released = true ∨ t.retryMax ≤ t.retryCount) : t.Continues t' := by
  rcases h with hrel | hexhausted
  · exact .of_released (tryScheduleRetry_samePlan hretry) hrel
  have hleft := lt_of_tryScheduleRetry hretry
  exact absurd hexhausted (Nat.not_le.mpr hleft)

/-- When a failed result carries a step on. -/
theorem preemptTask_continues (h : t.status.released = true ∨ t.retryMax ≤ t.retryCount)
    (file : List UInt8) (reason retried failed : String) :
    t.Continues (t.preemptTask e file reason retried failed) := by
  have hfailed : TaskStatus.failed ∉ [.queued, .awaitingApproval, .cancelled] := by decide
  unfold preemptTask
  dsimp only
  split
  case h_1 t' ht' =>
    have hretry := tryScheduleRetry_continues ht' h
    exact ⟨⟨hretry.plan.dependsOn, hretry.plan.stepGate⟩, hretry.status⟩
  case h_2 =>
    have hfail := setTaskStatus_continues { t with checkpointPayload := file, worker := none }
      e.now "Preempted but retry budget exhausted." hfailed
    exact ⟨⟨hfail.plan.dependsOn, hfail.plan.stepGate⟩, hfail.status⟩

theorem failTask_continues (h : t.status.released = true ∨ t.retryMax ≤ t.retryCount)
    (payload : List UInt8) (reason returned retried exhausted : String) :
    t.Continues (({ t with payload } : Task).failTask e reason returned retried exhausted) := by
  have hfailed : TaskStatus.failed ∉ [.queued, .awaitingApproval, .cancelled] := by decide
  unfold failTask
  dsimp only
  split
  case h_1 t' ht' =>
    have hretry := tryScheduleRetry_continues ht' h
    exact ⟨⟨hretry.plan.dependsOn, hretry.plan.stepGate⟩, hretry.status⟩
  case h_2 =>
    have hfail := setTaskStatus_continues
      { t with payload, worker := none, logs := t.logs ++ [returned] } e.now exhausted hfailed
    exact ⟨⟨hfail.plan.dependsOn, hfail.plan.stepGate⟩, hfail.status⟩

end Task

/-! ## What an event does to a row -/

/-- A failed or preempted result is retried for a step not released yet. -/
def Submission.retriesUnreleased (e : SubmitEnv) (m : Master) (req : Submission) : Bool :=
  match req.sender m, m.tasks.get req.taskId with
  | .ok p, some t =>
    !t.status.released && req.admitted e p && !decide (req.taskId ∈ m.disrupted) &&
      decide (req.branch ≠ .success) && decide (t.retryCount < t.retryMax)
  | _, _ => false

def Event.retriesUnreleased (e : SubmitEnv) (s : Grid) (ev : Event) : Bool :=
  match ev.act with
  | .submit req => req.retriesUnreleased { e with now := ev.now } s.master
  | _ => false

/-- Task `d` is completed. -/
def Grid.completed (d : String) (s : Grid) : Prop := (s.master.tasks.get d).map Task.status = some .completed

/-- The user approves task `id`, which waits for it. -/
def Grid.approves (id : String) (s : Grid) (ev : Event) : Prop := (s.master.tasks.get id).any
    (fun t => ev.act = .approveStep t.parentId && t.status = .awaitingApproval) = true

instance (d : String) (s : Grid) : Decidable (s.completed d) := inferInstanceAs (Decidable (_ = _))

instance (id : String) (s : Grid) (ev : Event) : Decidable (s.approves id ev) := inferInstanceAs (Decidable (_ = _))

/-- How the row `t'` with id `id` comes out of the event `ev` in the state `s`. -/
inductive RowStep (cfg : NodeSettings) (s : Grid) (ev : Event) (id : String) (t' : Task) : Prop
  /-- The rule asks nothing of the row. -/
  | free (h : t'.deps = [] ∨ t'.status = .waiting)
  /-- The row was there and is carried on. -/
  | continues (t : Task) (ht : s.master.tasks.get id = some t) (h : t.Continues t')
  | released (hdeps : ∀ d ∈ t'.deps, s.completed d)
      (hgate : t'.gateOn cfg = true → t'.status = .awaitingApproval)
  /-- The user approves the row. -/
  | approved (t : Task) (ht : s.master.tasks.get id = some t) (hplan : t.SamePlan t')
      (hstatus : t.status = .awaitingApproval) (happroves : s.approves id ev)

def Task.Free (tasks : Table String Task) (t : Task) : Prop :=
  ∀ d ∈ t.deps, (tasks.get d).map Task.status = some .completed

theorem Task.free_of_depsMet {tasks : Table String Task} (t : Task) (h : t.depsMet tasks = true) : t.Free tasks := by
  intro d hd
  unfold Task.depsMet at h
  simp only [Bool.and_eq_true, decide_eq_true_eq, List.all_eq_true] at h
  obtain ⟨⟨d, r⟩, hr, rfl⟩ := List.mem_map.mp ((tasks.perm_of_length_eq t.deps h.1).mem_iff.mpr hd)
  have hget : tasks.get d = some r := (Table.mem_rows ..).mp (List.mem_filter.mp hr).1
  have hstatus : r.status = .completed := h.2 _ hr
  rw [hget, Option.map_some, hstatus]

namespace RowStep

variable {e : SubmitEnv} {cfg : NodeSettings} {s : Grid} {ev : Event} {id : String} {t t' : Task}

theorem of_get (h : s.master.tasks.get id = some t') : RowStep cfg s ev id t' := .continues t' h (.refl t')

theorem of_mem_expand {f : WorkflowForm} {now : Nat} {sliceMap : List (String × List String)}
    {steps : List WorkflowStep} (h : (id, t') ∈ f.expand cfg now sliceMap steps) : RowStep cfg s ev id t' := by
  induction steps generalizing sliceMap with
  | nil => exact absurd h List.not_mem_nil
  | cons step steps ih =>
    rcases List.mem_append.mp h with hnew | hrest
    · obtain ⟨_, -, hrow⟩ := List.mem_map.mp hnew
      cases hrow
      refine .free ?_
      by_cases hdeps : f.stepDeps sliceMap step = []
      · left
        have hnone : PyStr.splitCsv (String.intercalate "," []) = [] := by decide
        rw [Task.deps, WorkflowForm.newTask, hdeps]
        exact hnone
      right
      rw [WorkflowForm.newTask, if_neg hdeps]
    · exact ih hrest

theorem completed_of_depsMet (h : t.depsMet s.master.tasks = true) : ∀ d ∈ t.deps, s.completed d :=
  fun _ hd => t.free_of_depsMet h _ hd

theorem of_releaseReady (ht : s.master.tasks.get id = some t) (now : Nat) :
    RowStep cfg s ev id (t.releaseReady cfg now s.master.tasks) := by
  unfold Task.releaseReady
  split
  case isTrue => exact .of_get ht
  case isFalse hstatus =>
  have hwaiting : t.status = .waiting := not_not.mp hstatus
  split
  case isTrue hnone =>
    refine .free (.inl ?_)
    rw [(t.setTaskStatus_samePlan now _ _ _).deps, hnone]
  case isFalse =>
  split
  case isFalse => exact .of_get ht
  case isTrue hmet =>
    have hdone := completed_of_depsMet hmet
    split
    case isTrue =>
      have hplan := t.setTaskStatus_samePlan now .awaitingApproval
        ("Dependencies (" ++ t.dependsOn ++ ") met — awaiting approval.") false
      refine .released (by rwa [hplan.deps]) fun _ => ?_
      rw [Task.setTaskStatus_status, hwaiting]
      decide
    case isFalse hgate =>
      have hplan := t.setTaskStatus_samePlan now .queued
        ("Dependencies (" ++ t.dependsOn ++ ") met.") false
      refine .released (by rwa [hplan.deps]) fun hon => ?_
      rw [hplan.gateOn] at hon
      exact absurd hon hgate

theorem of_approve (ht : s.master.tasks.get id = some t) {workflowId : String}
    (hact : ev.act = .approveStep workflowId) (now : Nat) : RowStep cfg s ev id (t.approve now workflowId) := by
  unfold Task.approve
  split
  case isFalse => exact .of_get ht
  case isTrue hgated =>
    refine .approved t ht (t.setTaskStatus_samePlan ..) hgated.2 ?_
    simp [Grid.approves, ht, hact, hgated]

/-- A result that schedules a retry is for a released task, or there is no retry left. -/
theorem released_of_submit {req : Submission} {p : Peer} (hev : ev.retriesUnreleased e s = false)
    (ht : s.master.tasks.get id = some t) (hact : ev.act = .submit req) (hp : req.sender s.master = .ok p)
    (hid : req.taskId = id) (hadm : req.admitted { e with now := ev.now } p = true) (hdis : id ∉ s.master.disrupted)
    (hb : req.branch ≠ .success) : t.status.released = true ∨ t.retryMax ≤ t.retryCount := by
  by_contra hnot
  obtain ⟨hrel, hleft⟩ := not_or.mp hnot
  subst hid
  have hearly : ev.retriesUnreleased e s = true := by
    simp [Event.retriesUnreleased, hact, Submission.retriesUnreleased, hp, ht, hadm, hdis, hb, hrel,
      Nat.lt_of_not_le hleft]
  rw [hearly] at hev
  exact absurd hev Bool.false_ne_true.symm

theorem of_apply (ht : s.master.tasks.get id = some t) (op : RowOp) (hfrom : op.From e s ev id)
    (hev : ev.retriesUnreleased e s = false) : RowStep e.cfg s ev id (op.apply { e with now := ev.now } t) := by
  cases op with
  | logs lines => exact .continues t ht ⟨⟨rfl, rfl⟩, .inl rfl⟩
  | notes ns => exact .continues t ht (t.addNotes_continues ..)
  | assign ns workerId reason line event =>
    dsimp only [RowOp.apply]
    split
    next hqueued =>
      have hnoted : (t.addNotes ev.now ns).status = .queued := by rw [Task.addNotes_status, hqueued]
      exact .continues t ht ((t.addNotes_continues ..).trans (Task.assign_continues hnoted ..))
    · exact .of_get ht
  | releaseReady tasks =>
    obtain ⟨-, rfl⟩ := hfrom
    exact .of_releaseReady ht ev.now
  | approve workflowId => exact .of_approve ht hfrom ev.now
  | complete reason line =>
    dsimp only [RowOp.apply]
    split
    · exact .of_get ht
    · exact .continues t ht ((t.completeTask_continues _ reason line).trans (Task.release_continues _))
  | preempt file reason retried failed =>
    obtain ⟨req, p, hact, hp, hid, hadm, hdis, hb⟩ := hfrom
    have hrel := released_of_submit hev ht hact hp hid hadm hdis hb
    dsimp only [RowOp.apply]
    split
    · exact .of_get ht
    · exact .continues t ht ((t.preemptTask_continues _ hrel ..).trans (Task.release_continues _))
  | fail payload reason returned retried exhausted =>
    obtain ⟨req, p, hact, hp, hid, hadm, hdis, hb⟩ := hfrom
    have hrel := released_of_submit hev ht hact hp hid hadm hdis hb
    dsimp only [RowOp.apply]
    split
    · exact .of_get ht
    · exact .continues t ht ((t.failTask_continues _ hrel ..).trans (Task.release_continues _))
  | sweep deadWorkers =>
    dsimp only [RowOp.apply]
    split
    · exact .of_get ht
    · exact .continues t ht ((t.loseWorkers_continues deadWorkers).trans Task.expireLease_continues)
  | requeueRetry => exact .continues t ht t.requeueRetry_continues
  | resume workflowId tasks => exact .continues t ht (t.resume_continues workflowId tasks)
  | refreshLease workerId => exact hfrom.elim
  | requeue => exact hfrom.elim
  | disrupt => exact hfrom.elim
  | cancel => exact hfrom.elim
  | queueTimeout seconds elapsed => exact hfrom.elim

end RowStep

/-- **Every row of the next state** comes about in one of the four ways. -/
theorem rowStep_of_step {e : SubmitEnv} {s : Grid} {ev : Event} {id : String} {t' : Task}
    (hev : ev.retriesUnreleased e s = false)
    (h : (s.step e ev).master.tasks.get id = some t') : RowStep e.cfg s ev id t' := by
  rcases changed_of_step h with ⟨f, -, hnew⟩ | ⟨t, op, ht, rfl, hfrom⟩
  · exact .of_mem_expand hnew
  · exact .of_apply ht op hfrom hev

/-! ## Ready rows -/

/-- Steps past `waiting` saw their dependencies completed, and their gate approved. -/
structure Task.Ready (e : SubmitEnv) (s₀ : Grid) (es : List Event) (id : String) (t : Task) : Prop where
  deps : t.deps ≠ [] → t.status ≠ .waiting → ∀ d ∈ t.deps, Once (Grid.step e) (fun s _ => s.completed d) s₀ es
  gate : t.deps ≠ [] → t.status.released = true → t.gateOn e.cfg = true → Once (Grid.step e) (Grid.approves id) s₀ es

namespace Task.Ready

variable {e : SubmitEnv} {s₀ : Grid} {es : List Event} {ev : Event} {id : String} {t t' : Task}

theorem of_continues (h : t.Ready e s₀ es id) (hcont : t.Continues t') : t'.Ready e s₀ (es ++ [ev]) id := by
  constructor
  · intro hne hleft d hd
    rw [hcont.plan.deps] at hne hd
    rw [once_concat]
    left
    refine h.deps hne (fun hwait => hleft ?_) d hd
    rcases hcont.status with hsame | hrel | hwaiting
    · rw [hsame, hwait]
    · rw [hwait] at hrel
      cases hrel
    · exact hwaiting
  · intro hne hreleased hon
    rw [hcont.plan.deps] at hne
    rw [hcont.plan.gateOn] at hon
    rw [once_concat]
    left
    refine h.gate hne ?_ hon
    rcases hcont.status with hsame | hrel | hwaiting
    · rw [← hsame]
      exact hreleased
    · exact hrel
    rw [hwaiting] at hreleased
    cases hreleased

theorem of_released (hdone : ∀ d ∈ t'.deps, (run (Grid.step e) s₀ es).completed d)
    (hgate : t'.gateOn e.cfg = true → t'.status = .awaitingApproval) : t'.Ready e s₀ (es ++ [ev]) id := by
  constructor
  · intro _ _ d hd
    rw [once_concat]
    exact .inr (hdone d hd)
  intro _ hreleased hon
  rw [hgate hon] at hreleased
  cases hreleased

theorem of_approved (h : t.Ready e s₀ es id) (hplan : t.SamePlan t') (hstatus : t.status = .awaitingApproval)
    (happroves : (run (Grid.step e) s₀ es).approves id ev) : t'.Ready e s₀ (es ++ [ev]) id := by
  constructor
  · intro hne _ d hd
    rw [hplan.deps] at hne hd
    rw [once_concat]
    exact .inl (h.deps hne (by rw [hstatus]; decide) d hd)
  intro _ _ _
  rw [once_concat]
  exact .inr happroves

theorem step (h : ∀ id t, (run (Grid.step e) s₀ es).master.tasks.get id = some t → t.Ready e s₀ es id)
    (hrow : RowStep e.cfg (run (Grid.step e) s₀ es) ev id t') : t'.Ready e s₀ (es ++ [ev]) id := by
  cases hrow with
  | free hfree =>
    constructor
    · intro hne hleft
      exact absurd (hfree.resolve_left hne) hleft
    intro hne hreleased
    rw [hfree.resolve_left hne] at hreleased
    cases hreleased
  | continues t ht hcont => exact (h id t ht).of_continues hcont
  | released hdone hgate => exact of_released hdone hgate
  | approved t ht hplan hstatus happroves => exact (h id t ht).of_approved hplan hstatus happroves

end Task.Ready

/-! ## Runs -/

/-- The rule, in the state after the events `es`. -/
def RunsAfterDeps (e : SubmitEnv) (s₀ : Grid) (es : List Event) : Prop :=
  ∀ id t, (run (Grid.step e) s₀ es).master.tasks.get id = some t → t.deps ≠ [] →
    t.status = .queued ∨ t.status = .processing →
    (∀ d ∈ t.deps, Once (Grid.step e) (fun s _ => s.completed d) s₀ es) ∧
      (t.gateOn e.cfg = true → Once (Grid.step e) (Grid.approves id) s₀ es)

/-- **No step is queued or runs before its dependencies** -/
theorem runs_after_deps_of_released (e : SubmitEnv) (s₀ : Grid) (es : List Event) (hempty : s₀.master.tasks = ∅)
    (hes : Along (Grid.step e) (fun s ev => ev.retriesUnreleased e s = false) s₀ es) : RunsAfterDeps e s₀ es := by
  have hready : ∀ id t, (run (Grid.step e) s₀ es).master.tasks.get id = some t → t.Ready e s₀ es id := by
    refine run_invariant_hist (P := fun es s => ∀ id t, s.master.tasks.get id = some t → t.Ready e s₀ es id) ?_ ?_ hes
    · intro id t ht
      rw [hempty, Table.get_empty] at ht
      cases ht
    intro es ev hev ih id t' ht'
    exact Task.Ready.step ih (rowStep_of_step hev ht')
  intro id t ht hne hstatus
  have hrow := hready id t ht
  have hreleased : t.status.released = true := by rcases hstatus with h | h <;> rw [h] <;> rfl
  have hleft : t.status ≠ .waiting := by rcases hstatus with h | h <;> rw [h] <;> decide
  exact ⟨hrow.deps hne hleft, hrow.gate hne hreleased⟩

/-! ## A workflow of two steps -/

/-- A workflow of two steps, `a` and then `b`, with the gate on. -/
def exampleWorkflow : WorkflowForm where
  workflowId := "wf"
  steps := [⟨"a", [], 1, "docker", none, none, none, []⟩, ⟨"b", ["a"], 1, "docker", none, none, none, []⟩]
  retryMax := 2
  retryBackoffBaseSec := 0
  leaseSeconds := 0
  stepGate := "on"

def exampleGrid : Grid where
  master := { Submission.exampleMaster (Submission.exampleTask .waiting none) with tasks := ∅ }
  offers := ∅

def exampleReport (taskId status : String) : Action := .submit (.http ⟨some "token-b", taskId, status, "", "sig", [1]⟩)

/-- The workflow in order. -/
theorem runs_after_deps_in_order :
    let es : List Event := [⟨1, .addWorkflow exampleWorkflow⟩, ⟨2, .popTask (some "token-b") "wf_a" none⟩,
      ⟨3, exampleReport "wf_a" "success"⟩, ⟨4, .releaseReady⟩, ⟨5, .approveStep "wf"⟩,
      ⟨6, .popTask (some "token-a") "wf_b" none⟩]
    ((run (Grid.step Submission.exampleEnv) exampleGrid es).master.tasks.get "wf_b").map Task.status
        = some .processing ∧
      RunsAfterDeps Submission.exampleEnv exampleGrid es :=
  ⟨by decide, runs_after_deps_of_released _ _ _ rfl (by decide)⟩

/-- **A step that overtakes its dependency.** -/
theorem failed_result_skips_deps :
    let es : List Event := [⟨1, .addWorkflow exampleWorkflow⟩, ⟨2, exampleReport "wf_b" "failed"⟩, ⟨100, .retryPass⟩]
    ((run (Grid.step Submission.exampleEnv) exampleGrid es).master.tasks.get "wf_b").map
        (fun t => (t.status, t.deps, t.gateOn Submission.exampleEnv.cfg))
        = some (.queued, ["wf_a"], true) ∧
      ¬RunsAfterDeps Submission.exampleEnv exampleGrid es := by
  intro es
  have hrow : ((run (Grid.step Submission.exampleEnv) exampleGrid es).master.tasks.get "wf_b").map
      (fun t => (t.status, t.deps, t.gateOn Submission.exampleEnv.cfg))
        = some (.queued, ["wf_a"], true) := by decide
  refine ⟨hrow, fun h => ?_⟩
  obtain ⟨t, ht, heq⟩ := Option.map_eq_some_iff.mp hrow
  simp only [Prod.mk.injEq] at heq
  obtain ⟨hstatus, hdeps, -⟩ := heq
  have hdone := (h "wf_b" t ht (by simp [hdeps]) (.inl hstatus)).1 "wf_a" (by simp [hdeps])
  exact absurd hdone (by decide)

end NexusGrid.Tasks

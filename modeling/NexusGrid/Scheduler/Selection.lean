import NexusGrid.Scheduler.Fitness

/-! # The next task of a worker

`select_task_for_worker` looks, for each queued task, for the best worker that may have it.
-/

namespace NexusGrid.Scheduler

open Lib

/-! ## Candidates -/

structure CandidateKey (F : Type) where
  priority : Int
  preferred : Int
  score : List (Num F)
  age : F
  ram : Int

/-- `a > b`. -/
def CandidateKey.gt {F : Type} (fl : Floats F) (a b : CandidateKey F) : Bool :=
  if a.priority ≠ b.priority then b.priority < a.priority
  else if a.preferred ≠ b.preferred then b.preferred < a.preferred
  else if fl.tupleEq a.score b.score = false then fl.tupleLt b.score a.score
  else if fl.eq (.float a.age) (.float b.age) = false then fl.lt (.float b.age) (.float a.age)
  else b.ram < a.ram

structure Pool (F : Type) extends Node F where
  /-- `all_workers`, in the order of the dict. -/
  allWorkers : List (String × Fields)
  /-- `processing_by_master.get(origin, 0)`. -/
  processingByMaster : Json → Int
  /-- `(group_pool or {}).get(g, set())`. -/
  groupPool : String → List String
  /-- `(workflow_busy or {}).get(parent_id) or set()`. -/
  workflowBusy : String → List String
  /-- `float(STATE.worker_cooldown_until.get(worker, 0) or 0)`. -/
  cooldownUntil : String → F
  /-- `resolve_uuid_to_ip`. -/
  resolveUuidToIp : String → String
  reliabilityBucket : String → Int
  /-- The settings `master_quota_per_origin` and `prefer_reliable_workers`. -/
  masterQuotaPerOrigin : Int
  preferReliableWorkers : Bool
  /-- `sort(key=lambda item: item[1], reverse=True)`. -/
  sorted : List (String × List (Num F)) → List (String × List (Num F))
  sorted_perm : ∀ l, (sorted l).Perm l

namespace Pool

variable {F : Type} (pool : Pool F)

def hasTargets (m : Metadata) : Bool := !m.preferredWorkers.isEmpty || !m.targetGroups.isEmpty

def blocked (m : Metadata) (w : String) : Bool :=
  m.blockedMembers.any fun u => w = u || (pool.resolveUuidToIp u ≠ "" && w = pool.resolveUuidToIp u)

def targets (m : Metadata) : List String := Json.strings m.preferredWorkers ++ m.targetGroups.flatMap pool.groupPool

def allowedTargets (m : Metadata) : Option (List String) :=
  if hasTargets m then some ((pool.targets m).filter fun w => !pool.blocked m w) else none

/-- `allowed is not None and w not in allowed`. -/
def outside (allowed : Option (List String)) (w : String) : Bool :=
  match allowed with
  | none => false
  | some ws => w ∉ ws

def busy (m : Metadata) (task : Task) : List String :=
  if m.oneStepPerNode ∧ task.parentId ≠ "" then pool.workflowBusy task.parentId else []

/-- `NEXUS_META_FAILED_WORKERS` as a set; `none` when a member cannot be hashed. -/
def failedWorkers (env : Fields) : Option (List String) :=
  match Json.get env "NEXUS_META_FAILED_WORKERS" with
  | .arr items => if items.all hashable then some (Json.strings items) else none
  | _ => some []

/-- The origin that is counted against the quota; `none` when it cannot be hashed. -/
def origin (m : Metadata) : Option Json :=
  let requestedBy := if m.requestedBy.truthy then m.requestedBy else .str "unknown"
  if hashable requestedBy then some requestedBy else none

def coolingDown (w : String) : Bool := pool.floats.lt (.float pool.now) (.float (pool.cooldownUntil w))

def usable (cid : String) (info : Fields) : Option Bool :=
  if pool.floats.le (.float (pool.cooldownUntil cid)) (.float pool.now) then
    (pool.workerFitScore info 128 10 false).map Option.isSome
  else some false

def availableWorkers : List (String × Fields) → Option (List (String × Fields))
  | [] => some []
  | (cid, info) :: rest => do
    let usable ← pool.usable cid info
    let more ← availableWorkers rest
    return if usable then (cid, info) :: more else more

structure Demand where
  task : Task
  allowed : Option (List String)
  busy : List String
  failed : List String
  reqRam : Int
  reqCpu : Int
  requireGpu : Bool
  preferReliable : Bool

/-- The score of a worker that may have the task. -/
def scoreOf (d : Demand) (cid : String) (info : Fields) : Option (Option (List (Num F))) :=
  if outside d.allowed cid ∨ cid ∈ d.busy ∨ cid ∈ d.failed then some none
  else do
    let supported ← pool.workerSupportsTask info d.task
    if supported = false then return none
    let score ← pool.workerFitScore info d.reqRam d.reqCpu d.requireGpu
    return score.map fun s => if d.preferReliable then .int (pool.reliabilityBucket cid) :: s else s

def scoredWorkers (d : Demand) : List (String × Fields) → Option (List (String × List (Num F)))
  | [] => some []
  | (cid, info) :: rest => do
    let score ← pool.scoreOf d cid info
    let more ← scoredWorkers d rest
    return (score.map fun s => (cid, s)).toList ++ more

def prefersReliable (m : Metadata) : Bool :=
  match m.preferReliableWorkers with
  | .null => pool.preferReliableWorkers
  | v => v.truthy

def age (env : Fields) : Option F := do
  let created ← pool.floats.floatOr env "NEXUS_META_CREATED_AT" 0
  let since := if pool.floats.eq (.float created) (.int 0) then pool.now else created
  return pool.floats.sub pool.now since

/-! ## The choice -/

/-- The key of a task that is a candidate for the worker. -/
def consider (w : String) (available : List (String × Fields)) (task : Task) : Option (Option (CandidateKey F)) := do
  let metadata ← pool.extractTaskMetadata task
  let origin ← origin metadata
  if pool.masterQuotaPerOrigin ≤ pool.processingByMaster origin then return none
  guard (metadata.preferredWorkers.all hashable)
  if outside (pool.allowedTargets metadata) w then return none
  if w ∈ pool.busy metadata task then return none
  let manifest ← dict (pool.readTaskManifest task.id)
  let reqRam ← pool.floats.intOr manifest "ram_limit_mb" 512
  let reqCpu ← pool.floats.intOr manifest "cpu_limit_pct" 100
  let req ← pool.taskRequiredCaps task
  let env ← dict task.env
  let failed ← failedWorkers env
  let scored ← pool.scoredWorkers
    { task, failed, reqRam, reqCpu
      allowed := pool.allowedTargets metadata
      busy := pool.busy metadata task
      requireGpu := req.requireGpu
      preferReliable := pool.prefersReliable metadata } available
  match (pool.sorted scored).head? with
  | none => return none
  | some (cid, score) =>
    if cid ≠ w then return none
    let age ← pool.age env
    return some {
      priority := metadata.priority
      preferred := if w ∈ Json.strings metadata.preferredWorkers then 1 else 0
      score := score
      age := age
      ram := reqRam }

def improve (acc : Option (CandidateKey F × Task)) (key : CandidateKey F) (task : Task) :
    Option (CandidateKey F × Task) :=
  match acc with
  | none => some (key, task)
  | some old => if key.gt pool.floats old.1 then some (key, task) else acc

/-- The loop over the queue, with `best_candidate`. -/
def best (w : String) (available : List (String × Fields)) :
    Option (CandidateKey F × Task) → List Task → Option (Option (CandidateKey F × Task))
  | acc, [] => some acc
  | acc, task :: tasks => do
    let key ← pool.consider w available task
    match key with
    | none => best w available acc tasks
    | some key => best w available (pool.improve acc key task) tasks

/-- `select_task_for_worker`; `none` when it raises. -/
def selectTaskForWorker (w : String) (queuedTasks : List Task) : Option (Option Task) :=
  match queuedTasks with
  | [] => some none
  | first :: _ =>
    if (pool.allWorkers.lookup w).isNone then some (some first)
    else if pool.coolingDown w then some none
    else do
      let available ← pool.availableWorkers pool.allWorkers
      if available.isEmpty then return none
      let chosen ← pool.best w available none queuedTasks
      return chosen.map Prod.snd

/-! ## What a chosen task should satisfy -/

structure Fits (w : String) (task : Task) (m : Metadata) : Prop where
  blocked : pool.blocked m w = false
  targets : hasTargets m = true → w ∈ pool.targets m
  quota : ∃ o, origin m = some o ∧ pool.processingByMaster o < pool.masterQuotaPerOrigin
  sibling : m.oneStepPerNode = true → task.parentId ≠ "" → w ∉ pool.workflowBusy task.parentId
  failed : ∃ env ws, dict task.env = some env ∧ failedWorkers env = some ws ∧ w ∉ ws
  cooldown : pool.coolingDown w = false
  supported : ∃ info, (w, info) ∈ pool.allWorkers ∧ pool.workerUnsupportedReason info task = some none

variable {pool}

theorem mem_availableWorkers {l available : List (String × Fields)} (h : pool.availableWorkers l = some available)
    {w : String} {info : Fields} : (w, info) ∈ available ↔ (w, info) ∈ l ∧ pool.usable w info = some true := by
  induction l generalizing available with
  | nil =>
    cases h
    simp
  | cons x l ih =>
    obtain ⟨cid, info'⟩ := x
    simp only [availableWorkers, Option.bind_eq_bind, Option.bind_eq_some_iff, Option.pure_def, Option.some.injEq] at h
    obtain ⟨usable, husable, more, hmore, rfl⟩ := h
    have hrest := ih hmore
    cases usable with
    | true =>
      rw [if_pos rfl, List.mem_cons, List.mem_cons, hrest, Prod.mk.injEq]
      constructor
      · rintro (⟨rfl, rfl⟩ | ⟨hmem, hw⟩)
        · exact ⟨.inl ⟨rfl, rfl⟩, husable⟩
        · exact ⟨.inr hmem, hw⟩
      rintro ⟨hhead | hmem, hw⟩
      · exact .inl hhead
      · exact .inr ⟨hmem, hw⟩
    | false =>
      rw [if_neg (by simp), List.mem_cons, hrest, Prod.mk.injEq]
      constructor
      · exact fun hw => ⟨.inr hw.1, hw.2⟩
      rintro ⟨⟨rfl, rfl⟩ | hmem, hw⟩
      · rw [husable] at hw
        cases hw
      · exact ⟨hmem, hw⟩

theorem scoreOf_eq_some {d : Demand} {cid : String} {info : Fields} {s : List (Num F)}
    (h : pool.scoreOf d cid info = some (some s)) : outside d.allowed cid = false ∧ cid ∉ d.busy ∧ cid ∉ d.failed ∧
      pool.workerUnsupportedReason info d.task = some none := by
  unfold scoreOf at h
  split at h
  · cases h
  next hmay =>
    push Not at hmay
    obtain ⟨hout, hbusy, hfailed⟩ := hmay
    refine ⟨by simpa using hout, hbusy, hfailed, ?_⟩
    simp only [Option.bind_eq_bind, Option.bind_eq_some_iff] at h
    obtain ⟨supported, hsupported, hrest⟩ := h
    cases supported with
    | false => cases hrest
    | true =>
      obtain ⟨reason, hreason, hnone⟩ := Option.map_eq_some_iff.mp hsupported
      rw [hreason, Option.isNone_iff_eq_none.mp hnone]

theorem mem_scoredWorkers {d : Demand} {l : List (String × Fields)} {scored : List (String × List (Num F))}
    (h : pool.scoredWorkers d l = some scored) {cid : String} {s : List (Num F)} (hmem : (cid, s) ∈ scored) :
    ∃ info, (cid, info) ∈ l ∧ pool.scoreOf d cid info = some (some s) := by
  induction l generalizing scored with
  | nil =>
    cases h
    cases hmem
  | cons x l ih =>
    obtain ⟨cid', info'⟩ := x
    simp only [scoredWorkers, Option.bind_eq_bind, Option.bind_eq_some_iff, Option.pure_def, Option.some.injEq] at h
    obtain ⟨score, hscore, more, hmore, rfl⟩ := h
    rcases List.mem_append.mp hmem with hhead | htail
    · obtain ⟨s', rfl, hs'⟩ := Option.map_eq_some_iff.mp (Option.mem_toList.mp hhead)
      cases hs'
      exact ⟨info', .head _, hscore⟩
    obtain ⟨info, hinfo, hs⟩ := ih hmore htail
    exact ⟨info, .tail _ hinfo, hs⟩

structure Candidate (pool : Pool F) (w : String) (available : List (String × Fields)) (task : Task) (m : Metadata) :
    Prop where
  metadata : pool.extractTaskMetadata task = some m
  quota : ∃ o, origin m = some o ∧ pool.processingByMaster o < pool.masterQuotaPerOrigin
  allowed : outside (pool.allowedTargets m) w = false
  busy : w ∉ pool.busy m task
  failed : ∃ env ws, dict task.env = some env ∧ failedWorkers env = some ws ∧ w ∉ ws
  supported : ∃ info, (w, info) ∈ available ∧ pool.workerUnsupportedReason info task = some none

variable {key : CandidateKey F} {w : String} {task : Task}

/-- What a task asks of the workers, whoever polls. -/
def demand (pool : Pool F) (task : Task) : Option Demand := do
  let metadata ← pool.extractTaskMetadata task
  let manifest ← dict (pool.readTaskManifest task.id)
  let reqRam ← pool.floats.intOr manifest "ram_limit_mb" 512
  let reqCpu ← pool.floats.intOr manifest "cpu_limit_pct" 100
  let req ← pool.taskRequiredCaps task
  let env ← dict task.env
  let failed ← failedWorkers env
  return {
    task, failed, reqRam, reqCpu
    allowed := pool.allowedTargets metadata
    busy := pool.busy metadata task
    requireGpu := req.requireGpu
    preferReliable := pool.prefersReliable metadata }

def UnderQuota (pool : Pool F) (task : Task) : Prop :=
  ∃ m o, pool.extractTaskMetadata task = some m ∧ origin m = some o ∧
    pool.processingByMaster o < pool.masterQuotaPerOrigin

/-- The worker at the head of the ranking for a task. -/
def Heads (pool : Pool F) (available : List (String × Fields)) (task : Task) (w : String) : Prop :=
  ∃ d scored score, pool.demand task = some d ∧ pool.scoredWorkers d available = some scored ∧
    (pool.sorted scored).head? = some (w, score)

theorem demand_spec {d : Demand} (h : pool.demand task = some d) : ∃ m env, pool.extractTaskMetadata task = some m ∧
    dict task.env = some env ∧ d.task = task ∧ d.allowed = pool.allowedTargets m ∧ d.busy = pool.busy m task ∧
    failedWorkers env = some d.failed := by
  simp only [demand, Option.bind_eq_bind, Option.bind_eq_some_iff, Option.pure_def, Option.some.injEq] at h
  obtain ⟨m, hm, _, -, _, -, _, -, _, -, env, henv, failed, hfailed, rfl⟩ := h
  exact ⟨m, env, hm, henv, rfl, rfl, rfl, hfailed⟩

theorem consider_spec {available : List (String × Fields)} (h : pool.consider w available task = some (some key)) :
    pool.UnderQuota task ∧ pool.Heads available task w := by
  obtain ⟨m, hm, h⟩ := Option.bind_eq_some_iff.mp h
  obtain ⟨o, ho, h⟩ := Option.bind_eq_some_iff.mp h
  split at h
  · cases h
  next hquota =>
  obtain ⟨-, -, h⟩ := Option.bind_eq_some_iff.mp h
  split at h
  · cases h
  split at h
  · cases h
  obtain ⟨manifest, hmanifest, h⟩ := Option.bind_eq_some_iff.mp h
  obtain ⟨reqRam, hram, h⟩ := Option.bind_eq_some_iff.mp h
  obtain ⟨reqCpu, hcpu, h⟩ := Option.bind_eq_some_iff.mp h
  obtain ⟨req, hreq, h⟩ := Option.bind_eq_some_iff.mp h
  obtain ⟨env, henv, h⟩ := Option.bind_eq_some_iff.mp h
  obtain ⟨failed, hfailed, h⟩ := Option.bind_eq_some_iff.mp h
  obtain ⟨scored, hscored, h⟩ := Option.bind_eq_some_iff.mp h
  split at h
  · cases h
  next cid score hhead =>
  split at h
  · cases h
  next hcid =>
  obtain rfl : cid = w := not_not.mp hcid
  refine ⟨⟨m, o, hm, ho, not_le.mp hquota⟩, _, scored, score, ?_, hscored, hhead⟩
  simp [demand, hm, hmanifest, hram, hcpu, hreq, henv, hfailed]

theorem candidate_of_consider {available : List (String × Fields)}
    (h : pool.consider w available task = some (some key)) : ∃ m, pool.Candidate w available task m := by
  obtain ⟨⟨m, o, hm, ho, hquota⟩, d, scored, score, hd, hscored, hhead⟩ := consider_spec h
  have hmem : (w, score) ∈ scored := (pool.sorted_perm scored).mem_iff.mp (List.mem_of_mem_head? hhead)
  obtain ⟨info, hinfo, hscore⟩ := mem_scoredWorkers hscored hmem
  obtain ⟨hallowed, hbusy, hnot, hsupported⟩ := scoreOf_eq_some hscore
  obtain ⟨m', env, hm', henv, htask, hallowed', hbusy', hfailed⟩ := demand_spec hd
  cases hm.symm.trans hm'
  rw [hallowed'] at hallowed
  rw [hbusy'] at hbusy
  rw [htask] at hsupported
  exact ⟨m, hm, ⟨o, ho, hquota⟩, hallowed, hbusy, ⟨env, d.failed, henv, hfailed, hnot⟩, ⟨info, hinfo, hsupported⟩⟩

theorem improve_eq_some {acc : Option (CandidateKey F × Task)} {key' : CandidateKey F} {task' : Task}
    (h : pool.improve acc key task = some (key', task')) : acc = some (key', task') ∨ key = key' ∧ task = task' := by
  unfold improve at h
  split at h
  · exact .inr (Prod.mk.inj (Option.some.inj h))
  split at h
  · exact .inr (Prod.mk.inj (Option.some.inj h))
  · exact .inl h

theorem best_spec {available : List (String × Fields)} {acc : Option (CandidateKey F × Task)} {tasks : List Task}
    (h : pool.best w available acc tasks = some (some (key, task))) :
    acc = some (key, task) ∨ task ∈ tasks ∧ pool.consider w available task = some (some key) := by
  induction tasks generalizing acc with
  | nil => exact .inl (Option.some.inj h)
  | cons t tasks ih =>
    simp only [best, Option.bind_eq_bind, Option.bind_eq_some_iff] at h
    obtain ⟨found, hfound, h⟩ := h
    cases found with
    | none =>
      rcases ih h with hacc | ⟨hmem, hconsider⟩
      · exact .inl hacc
      · exact .inr ⟨.tail _ hmem, hconsider⟩
    | some key' =>
      rcases ih h with hacc | ⟨hmem, hconsider⟩
      · rcases improve_eq_some hacc with hold | ⟨rfl, rfl⟩
        · exact .inl hold
        · exact .inr ⟨.head _, hfound⟩
      · exact .inr ⟨.tail _ hmem, hconsider⟩

theorem of_mem_allowed {m : Metadata} (h : outside (pool.allowedTargets m) w = false)
    (ht : hasTargets m = true) : w ∈ pool.targets m ∧ pool.blocked m w = false := by
  rw [allowedTargets, if_pos ht] at h
  have hmem := of_not_not (of_decide_eq_false h)
  rw [List.mem_filter] at hmem
  exact ⟨hmem.1, by simpa using hmem.2⟩

theorem consider_of_selected {queuedTasks : List Task} (h : pool.selectTaskForWorker w queuedTasks = some (some task))
    (hknown : (pool.allWorkers.lookup w).isSome = true) : pool.coolingDown w = false ∧ task ∈ queuedTasks ∧
      ∃ available key, pool.availableWorkers pool.allWorkers = some available ∧
        pool.consider w available task = some (some key) := by
  unfold selectTaskForWorker at h
  split at h
  · cases h
  rw [if_neg (by simpa using hknown)] at h
  split at h
  · cases h
  next hcool =>
    obtain ⟨available, havailable, h⟩ := Option.bind_eq_some_iff.mp h
    split at h
    · cases h
    obtain ⟨chosen, hchosen, hmap⟩ := Option.bind_eq_some_iff.mp h
    obtain ⟨⟨key, task'⟩, rfl, rfl⟩ := Option.map_eq_some_iff.mp (Option.some.inj hmap)
    rcases best_spec hchosen with hnone | ⟨hmem, hconsider⟩
    · cases hnone
    · exact ⟨by simpa using hcool, hmem, available, key, havailable, hconsider⟩

theorem candidate_of_selected {queuedTasks : List Task} (h : pool.selectTaskForWorker w queuedTasks = some (some task))
    (hknown : (pool.allWorkers.lookup w).isSome = true) :
    pool.coolingDown w = false ∧ task ∈ queuedTasks ∧ ∃ m, pool.Candidate w pool.allWorkers task m := by
  obtain ⟨hcool, hmem, available, key, havailable, hconsider⟩ := consider_of_selected h hknown
  obtain ⟨m, hc⟩ := candidate_of_consider hconsider
  obtain ⟨info, hinfo, hsupported⟩ := hc.supported
  have hworker := ((mem_availableWorkers havailable).mp hinfo).1
  exact ⟨hcool, hmem, m, { hc with supported := ⟨info, hworker, hsupported⟩ }⟩

/-- **Hard constraints.** A task that is returned meets all of them exactly if the worker is in the table
and is not blocked by a task without targets. -/
theorem selected_fits_iff {queuedTasks : List Task}
    (h : pool.selectTaskForWorker w queuedTasks = some (some task)) :
    (task ∈ queuedTasks ∧ ∃ m, pool.extractTaskMetadata task = some m ∧ pool.Fits w task m) ↔
      (pool.allWorkers.lookup w).isSome = true ∧
        ∀ m, pool.extractTaskMetadata task = some m → hasTargets m = false →
          pool.blocked m w = false := by
  constructor
  · rintro ⟨-, m, hm, hfits⟩
    obtain ⟨info, hinfo, -⟩ := hfits.supported
    refine ⟨?_, fun m' hm' _ => ?_⟩
    · by_contra hnone
      have hunknown : ∀ info, (w, info) ∉ pool.allWorkers := by simpa using hnone
      exact hunknown info hinfo
    · cases hm.symm.trans hm'
      exact hfits.blocked
  rintro ⟨hknown, hblocked⟩
  obtain ⟨hcool, hmem, m, hc⟩ := candidate_of_selected h hknown
  refine ⟨hmem, m, hc.metadata, ?_⟩
  exact {
    blocked := by
      cases ht : hasTargets m with
      | true => exact (of_mem_allowed hc.allowed ht).2
      | false => exact hblocked m hc.metadata ht
    targets := fun ht => (of_mem_allowed hc.allowed ht).1
    quota := hc.quota
    sibling := by
      intro hone hparent hbusy
      have hnot := hc.busy
      rw [busy, if_pos ⟨hone, hparent⟩] at hnot
      exact hnot hbusy
    failed := hc.failed
    cooldown := hcool
    supported := hc.supported }

end Pool

def wholeFloats : Floats Int where
  ofJson
    | .int n => .ok n
    | _ => .error .other
  sub := (· - ·)
  eq a b := value a = value b
  lt a b := value a < value b
  le a b := value a ≤ value b
  zero := 0
  fifths x := some (max 0 x / 5)
  parseInt _ := none
where
  value : Num Int → Int
    | .int n => n
    | .float x => x

def poolOf (workers : List (String × Fields)) : Pool Int where
  floats := wholeFloats
  repr _ := ""
  now := 1000
  manifestCache := []
  allowCrossRegionWorkers := true
  allWorkers := workers
  processingByMaster _ := 0
  groupPool _ := []
  workflowBusy _ := []
  cooldownUntil _ := 0
  resolveUuidToIp u := u
  reliabilityBucket _ := 5
  masterQuotaPerOrigin := 4
  preferReliableWorkers := false
  sorted l := l.insertionSort fun a b => wholeFloats.tupleLt a.2 b.2 = false
  sorted_perm l := List.perm_insertionSort _ l

def idle : Fields := [("last_seen", .int 995), ("stats", .obj [("free_ram", .int 4096), ("cpu", .int 10)])]

def taskWith (env : Fields) : Task := ⟨"t1", "", "", .obj env⟩

theorem selected_fits_iff_target : (poolOf [("w1", idle), ("w2", idle)]).selectTaskForWorker "w2"
      [taskWith [("NEXUS_META_PREFERRED_WORKERS", .arr [.str "w2"])]] =
        some (some (taskWith [("NEXUS_META_PREFERRED_WORKERS", .arr [.str "w2"])])) ∧
    ∃ m, (poolOf [("w1", idle), ("w2", idle)]).Fits "w2"
      (taskWith [("NEXUS_META_PREFERRED_WORKERS", .arr [.str "w2"])]) m := by
  have h : (poolOf [("w1", idle), ("w2", idle)]).selectTaskForWorker "w2"
      [taskWith [("NEXUS_META_PREFERRED_WORKERS", .arr [.str "w2"])]] =
        some (some (taskWith [("NEXUS_META_PREFERRED_WORKERS", .arr [.str "w2"])])) := by
    rfl
  obtain ⟨-, m, -, hfits⟩ := (Pool.selected_fits_iff h).mpr ⟨rfl, fun m hm _ => by
    cases hm
    rfl⟩
  exact ⟨h, m, hfits⟩

/-- A worker that is not in the table, and one that is blocked. -/
theorem selected_unfit : (∃ m, (poolOf []).selectTaskForWorker "w1"
        [taskWith [("NEXUS_META_PREFERRED_WORKERS", .arr [.str "w2"])]] =
          some (some (taskWith [("NEXUS_META_PREFERRED_WORKERS", .arr [.str "w2"])])) ∧
      (poolOf []).extractTaskMetadata (taskWith [("NEXUS_META_PREFERRED_WORKERS", .arr [.str "w2"])]) = some m ∧
      Pool.hasTargets m = true ∧ "w1" ∉ (poolOf []).targets m) ∧
    (∃ m, (poolOf [("w1", idle)]).selectTaskForWorker "w1"
        [taskWith [("NEXUS_META_BLOCKED_MEMBERS", .arr [.str "w1"])]] =
          some (some (taskWith [("NEXUS_META_BLOCKED_MEMBERS", .arr [.str "w1"])])) ∧
      (poolOf [("w1", idle)]).extractTaskMetadata (taskWith [("NEXUS_META_BLOCKED_MEMBERS", .arr [.str "w1"])]) =
        some m ∧ (poolOf [("w1", idle)]).blocked m "w1" = true) := by
  refine ⟨⟨_, rfl, rfl, rfl, ?_⟩, ⟨_, rfl, rfl, rfl⟩⟩
  decide

end NexusGrid.Scheduler

import NexusGrid.Lib.JsonText
import NexusGrid.Lib.Rounds
import NexusGrid.Tasks.Dependencies

/-! # A workflow is worked off

A workflow that is worked off in rounds: a pass of `release_ready_tasks`, then every queued task is completed.
`local_add_workflow` has written the rows, each with the ids it waits for as one text. The module first says which
ids these are (`DependsOnParents`), for well planned workflows, and then follows the completed ids through the
rounds: a round of the master is a round of the plan (`Lib.Plan`) that the rows make up.
-/

namespace NexusGrid.Tasks

open Lib

/-! ## Rounds -/

def Master.completeQueued (m : Master) : Master :=
  { m with tasks := m.tasks.mapRows fun _ t => if t.status = .queued then { t with status := .completed } else t }

/-- One round: `release_ready_tasks`, then the queued tasks are completed. -/
def Master.round (cfg : NodeSettings) (m : Master) (now : Nat) : Master := (m.releaseReadyTasks cfg now).completeQueued

namespace WorkflowForm

/-! ## Well planned workflows -/

def taskIds (f : WorkflowForm) : List String := f.steps.flatMap f.sliceIds

structure Accepted (m : Master) (f : WorkflowForm) : Prop where
  new : ∀ id ∈ f.taskIds, m.tasks.get id = none
  nodup : f.taskIds.Nodup

structure WellPlanned (f : WorkflowForm) : Prop where
  ids : (f.steps.map WorkflowStep.id).Nodup
  /-- No step names another one twice. -/
  once : ∀ step ∈ f.steps, step.dependsOn.Nodup
  known : ∀ step ∈ f.steps, ∀ d ∈ step.dependsOn, ∃ parent ∈ f.steps, parent.id = d
  /-- No step names a later one that is sliced. -/
  forward : f.steps.Pairwise fun step later => later.id ∈ step.dependsOn → ¬ 1 < later.sliceCount
  acyclic : ∃ rank : String → Nat, ∀ step ∈ f.steps, ∀ d ∈ step.dependsOn, rank d < rank step.id
  /-- The ids of a named step survive being joined by commas. -/
  clean : ∀ step ∈ f.steps, ∀ parent ∈ f.steps, parent.id ∈ step.dependsOn →
    ∀ id ∈ f.sliceIds parent, ',' ∉ id.toList ∧ PyStr.strip id = id

def baseId (f : WorkflowForm) (id : String) : String := f.workflowId ++ "_" ++ id

/-- The entry of a step in `slice_map`. -/
def sliceEntry (f : WorkflowForm) (step : WorkflowStep) : String × List String := (f.baseId step.id, f.sliceIds step)

def parentIds (f : WorkflowForm) (step : WorkflowStep) : List String :=
  step.dependsOn.flatMap fun d => (f.steps.filter fun parent => parent.id = d).flatMap f.sliceIds

theorem baseId_inj {f : WorkflowForm} {a b : String} (h : f.baseId a = f.baseId b) : a = b := by
  have hlist := congrArg String.toList h
  simp only [baseId, String.toList_append, List.append_assoc, List.append_cancel_left_eq] at hlist
  exact String.toList_injective hlist

theorem sliceIds_ne_empty (f : WorkflowForm) (step : WorkflowStep) {id : String} (h : id ∈ f.sliceIds step) :
    id ≠ "" := by
  have hmem : '_' ∈ id.toList := by
    unfold sliceIds at h
    split at h
    · obtain ⟨i, -, rfl⟩ := List.mem_map.mp h
      simp
    rw [List.mem_singleton.mp h]
    simp
  rintro rfl
  simp at hmem

/-! ## What a step waits for -/

section Expand

variable {f : WorkflowForm} {cfg : NodeSettings} {now : Nat}

theorem expand_keys (sliceMap : List (String × List String)) (steps : List WorkflowStep) :
    (f.expand cfg now sliceMap steps).map Prod.fst = steps.flatMap f.sliceIds := by
  induction steps generalizing sliceMap with
  | nil => rfl
  | cons step steps ih =>
    rw [expand, List.map_append, List.map_map, ih, List.flatMap_cons]
    congr 1
    exact List.map_id _

variable {d : String} {step : WorkflowStep} {steps : List WorkflowStep}

theorem mem_expand {sliceMap : List (String × List String)} {row : String × Task}
    (h : row ∈ f.expand cfg now sliceMap steps) :
    ∃ pre step post, steps = pre ++ step :: post ∧ row.1 ∈ f.sliceIds step ∧
      row.2 = f.newTask cfg now step (f.stepDeps ((pre.map f.sliceEntry).reverse ++ sliceMap) step) := by
  induction steps generalizing sliceMap with
  | nil => exact absurd h List.not_mem_nil
  | cons step steps ih =>
    rcases List.mem_append.mp h with hnew | hrest
    · obtain ⟨id, hid, rfl⟩ := List.mem_map.mp hnew
      exact ⟨[], step, steps, rfl, hid, rfl⟩
    obtain ⟨pre, step', post, rfl, hid, hrow⟩ := ih hrest
    refine ⟨step :: pre, step', post, rfl, hid, ?_⟩
    rw [hrow, List.map_cons, List.reverse_cons, List.append_assoc]
    rfl

theorem lookup_sliceEntry (hids : (steps.map WorkflowStep.id).Nodup) (h : step ∈ steps) :
    ((steps.map f.sliceEntry).reverse).lookup (f.baseId step.id) = some (f.sliceIds step) := by
  have hkeys : (((steps.map f.sliceEntry).reverse).map Prod.fst).Nodup := by
    rw [List.map_reverse, List.nodup_reverse, List.map_map]
    have heq : steps.map (Prod.fst ∘ f.sliceEntry) = (steps.map WorkflowStep.id).map f.baseId := by
      rw [List.map_map]
      rfl
    rw [heq]
    exact hids.map fun _ _ => baseId_inj
  rw [Json.lookup_eq_some_iff_mem hkeys, List.mem_reverse]
  exact List.mem_map_of_mem h

theorem lookup_sliceEntry_none (h : ∀ step ∈ steps, step.id ≠ d) :
    ((steps.map f.sliceEntry).reverse).lookup (f.baseId d) = none := by
  rw [List.lookup_eq_none_iff]
  intro e he
  obtain ⟨step, hstep, rfl⟩ := List.mem_map.mp (List.mem_reverse.mp he)
  have hne : f.baseId d ≠ f.baseId step.id := fun heq => h step hstep (baseId_inj heq).symm
  exact bne_iff_ne.mpr hne

theorem eq_of_id_eq (hids : (f.steps.map WorkflowStep.id).Nodup) {s s' : WorkflowStep} (hs : s ∈ f.steps)
    (hs' : s' ∈ f.steps) (h : s.id = s'.id) : s = s' :=
  List.inj_on_of_nodup_map hids hs hs' h

theorem flatMap_sliceIds_filter (hids : (f.steps.map WorkflowStep.id).Nodup) {parent : WorkflowStep}
    (h : parent ∈ f.steps) : (f.steps.filter fun s => s.id = parent.id).flatMap f.sliceIds = f.sliceIds parent := by
  have hnodup : f.steps.Nodup := hids.of_map
  have hperm : (f.steps.filter fun s => s.id = parent.id).Perm [parent] := by
    rw [List.perm_ext_iff_of_nodup (hnodup.filter _) (List.nodup_singleton _)]
    intro s
    rw [List.mem_filter, List.mem_singleton, decide_eq_true_iff]
    constructor
    · rintro ⟨hs, heq⟩
      exact eq_of_id_eq hids hs h heq
    rintro rfl
    exact ⟨h, rfl⟩
  rw [List.perm_singleton.mp hperm, List.flatMap_singleton]

/-- **Dependencies.** -/
theorem stepDeps_eq (hplan : f.WellPlanned) {pre post : List WorkflowStep} (hsteps : f.steps = pre ++ step :: post) :
    f.stepDeps ((pre.map f.sliceEntry).reverse) step = f.parentIds step := by
  have hstep : step ∈ f.steps := by simp [hsteps]
  obtain ⟨rank, hrank⟩ := hplan.acyclic
  apply List.flatMap_congr
  intro d hd
  obtain ⟨parent, hparent, rfl⟩ := hplan.known step hstep d hd
  rw [flatMap_sliceIds_filter hplan.ids hparent]
  change ((pre.map f.sliceEntry).reverse.lookup (f.baseId parent.id)).getD [f.baseId parent.id] = f.sliceIds parent
  have hids := hplan.ids
  rw [hsteps, List.map_append] at hids
  have hcases : parent ∈ pre ∨ parent = step ∨ parent ∈ post := by simpa [hsteps] using hparent
  rcases hcases with hpre | rfl | hpost
  · rw [lookup_sliceEntry hids.of_append_left hpre, Option.getD_some]
  · exact absurd (hrank parent hparent parent.id hd) (lt_irrefl _)
  -- A later step is not sliced, and none of the earlier ones has its id.
  have hforward := hplan.forward
  rw [hsteps, List.pairwise_append] at hforward
  have hunsliced := (List.pairwise_cons.mp hforward.2.1).1 parent hpost hd
  have hne : ∀ s ∈ pre, s.id ≠ parent.id := by
    intro s hs heq
    refine (List.disjoint_of_nodup_append hids) (List.mem_map_of_mem hs) ?_
    rw [heq]
    exact List.mem_map_of_mem (.tail _ hpost)
  rw [lookup_sliceEntry_none hne, Option.getD_none, sliceIds, if_neg hunsliced]
  rfl

theorem eq_of_mem_sliceIds (hnodup : f.taskIds.Nodup) {s s' : WorkflowStep} (hs : s ∈ f.steps) (hs' : s' ∈ f.steps)
    {id : String} (h : id ∈ f.sliceIds s) (h' : id ∈ f.sliceIds s') : s = s' := by
  by_contra hne
  have hdisjoint := (List.nodup_flatMap.mp hnodup).2
  have hsymm : Std.Symm (Function.onFun List.Disjoint f.sliceIds) := ⟨fun _ _ hd => List.Disjoint.symm hd⟩
  exact hdisjoint.forall hs hs' hne h h'

theorem mem_parentIds :
    d ∈ f.parentIds step ↔ ∃ parent ∈ f.steps, parent.id ∈ step.dependsOn ∧ d ∈ f.sliceIds parent := by
  simp only [parentIds, List.mem_flatMap, List.mem_filter, decide_eq_true_eq]
  constructor
  · rintro ⟨_, hid, parent, ⟨hparent, rfl⟩, hd⟩
    exact ⟨parent, hparent, hid, hd⟩
  rintro ⟨parent, hparent, hid, hd⟩
  exact ⟨parent.id, hid, parent, ⟨hparent, rfl⟩, hd⟩

theorem parentIds_nodup (hplan : f.WellPlanned) (hnodup : f.taskIds.Nodup)
    (hstep : step ∈ f.steps) : (f.parentIds step).Nodup := by
  rw [parentIds, List.nodup_flatMap]
  constructor
  · intro d hd
    obtain ⟨parent, hparent, rfl⟩ := hplan.known step hstep d hd
    rw [flatMap_sliceIds_filter hplan.ids hparent]
    exact (List.nodup_flatMap.mp hnodup).1 parent hparent
  refine (hplan.once step hstep).imp ?_
  intro d d' hne id hid hid'
  simp only [List.mem_flatMap, List.mem_filter, decide_eq_true_eq] at hid hid'
  obtain ⟨s, ⟨hs, rfl⟩, hmem⟩ := hid
  obtain ⟨s', ⟨hs', rfl⟩, hmem'⟩ := hid'
  exact hne (congrArg WorkflowStep.id (eq_of_mem_sliceIds hnodup hs hs' hmem hmem'))

theorem newTask_deps (hplan : f.WellPlanned) (hstep : step ∈ f.steps) :
    (f.newTask cfg now step (f.parentIds step)).deps = f.parentIds step := by
  apply PyStr.splitCsv_intercalate
  intro d hd
  obtain ⟨parent, hparent, hnamed, hmem⟩ := mem_parentIds.mp hd
  obtain ⟨hcomma, hstrip⟩ := hplan.clean step hstep parent hparent hnamed d hmem
  exact ⟨hcomma, hstrip, f.sliceIds_ne_empty parent hmem⟩

end Expand

/-! ## The rows of a workflow -/

section Rows

variable {f : WorkflowForm} {cfg : NodeSettings} {now : Nat} {m : Master}

theorem addWorkflow_tasks (hacc : f.Accepted m) :
    (m.addWorkflow cfg now f).tasks = m.tasks.putAll (f.expand cfg now [] f.steps) := by
  have hkeys : (f.expand cfg now [] f.steps).map Prod.fst = f.steps.flatMap f.sliceIds := expand_keys [] f.steps
  have hnew : ∀ r ∈ f.expand cfg now [] f.steps, m.tasks.get r.1 = none := by
    intro r hr
    refine hacc.new r.1 ?_
    rw [taskIds, ← hkeys]
    exact List.mem_map_of_mem hr
  rw [Master.addWorkflow_of_new hnew (hkeys ▸ hacc.nodup)]

variable (cfg now) in
theorem row_addWorkflow (hacc : f.Accepted m) {id : String} (hid : id ∈ f.taskIds) :
    ∃ pre step post, f.steps = pre ++ step :: post ∧ id ∈ f.sliceIds step ∧ (m.addWorkflow cfg now f).tasks.get id =
      some (f.newTask cfg now step (f.stepDeps ((pre.map f.sliceEntry).reverse) step)) := by
  have hrow : id ∈ (f.expand cfg now [] f.steps).map Prod.fst := by
    rw [expand_keys]
    exact hid
  obtain ⟨row, hmem, rfl⟩ := List.mem_map.mp hrow
  rw [addWorkflow_tasks hacc]
  obtain ⟨t, ht⟩ := Option.isSome_iff_exists.mp (Table.isSome_get_putAll_of_mem (t := m.tasks) hmem)
  rcases Table.get_putAll ht with hold | hnew
  · rw [hacc.new row.1 hid] at hold
    cases hold
  obtain ⟨pre, step, post, hsteps, hid', hnewTask⟩ := mem_expand hnew
  rw [List.append_nil] at hnewTask
  exact ⟨pre, step, post, hsteps, hid', ht.trans (congrArg some hnewTask)⟩

theorem get_addWorkflow (hacc : f.Accepted m) (hplan : f.WellPlanned) {step : WorkflowStep} (hstep : step ∈ f.steps)
    {id : String} (hid : id ∈ f.sliceIds step) :
    (m.addWorkflow cfg now f).tasks.get id = some (f.newTask cfg now step (f.parentIds step)) := by
  obtain ⟨pre, step', post, hsteps, hid', hrow⟩ :=
    row_addWorkflow cfg now hacc (List.mem_flatMap.mpr ⟨step, hstep, hid⟩)
  obtain rfl := eq_of_mem_sliceIds hacc.nodup hstep (by simp [hsteps]) hid hid'
  rw [hrow, stepDeps_eq hplan hsteps]

end Rows

end WorkflowForm

/-! ## A round -/

namespace Task

variable {cfg : NodeSettings} {now : Nat} {tasks : Table String Task} {t : Task}

/-- The rows are counted, and an id that is listed twice has one row. -/
theorem depsMet_iff : t.depsMet tasks = true ↔ t.Free tasks ∧ t.deps.Nodup := by
  constructor
  · intro h
    refine ⟨t.free_of_depsMet h, ?_⟩
    simp only [depsMet, Bool.and_eq_true, decide_eq_true_eq] at h
    exact (tasks.perm_of_length_eq t.deps h.1).nodup_iff.mp (tasks.nodup_filter_keys _)
  rintro ⟨h, hnodup⟩
  have hkeys : ((tasks.rows.filter fun r => r.1 ∈ t.deps).map Prod.fst).Perm t.deps := by
    rw [List.perm_ext_iff_of_nodup (tasks.nodup_filter_keys _) hnodup]
    intro d
    constructor
    · intro hd
      obtain ⟨r, hr, rfl⟩ := List.mem_map.mp hd
      exact of_decide_eq_true (List.mem_filter.mp hr).2
    intro hd
    obtain ⟨u, hu, -⟩ := Option.map_eq_some_iff.mp (h d hd)
    refine List.mem_map.mpr ⟨(d, u), List.mem_filter.mpr ⟨(Table.mem_rows ..).mpr hu, ?_⟩, rfl⟩
    exact decide_eq_true hd
  unfold depsMet
  simp only [Bool.and_eq_true, decide_eq_true_eq, List.all_eq_true]
  constructor
  · rw [← hkeys.length_eq, List.length_map]
  rintro ⟨d, u⟩ hr
  obtain ⟨hrow, hd⟩ := List.mem_filter.mp hr
  have hstatus := h d (of_decide_eq_true hd)
  rw [(Table.mem_rows ..).mp hrow] at hstatus
  exact Option.some.inj hstatus

def afterRound (cfg : NodeSettings) (now : Nat) (tasks : Table String Task) (t : Task) : Task :=
  let t := t.releaseReady cfg now tasks
  if t.status = .queued then { t with status := .completed } else t

theorem releaseReady_status_iff (hstatus : t.status = .waiting) :
    (t.releaseReady cfg now tasks).status ≠ .waiting ↔ t.Free tasks ∧ t.deps.Nodup := by
  have hmove (target : TaskStatus) (reason : String) (h : target = .queued ∨ target = .awaitingApproval) :
      (t.setTaskStatus now target reason false).1.status ≠ .waiting := by
    rcases h with rfl | rfl <;> simp [setTaskStatus, hstatus, TaskStatus.allowed, enter]
  unfold releaseReady
  rw [if_neg (not_not.mpr hstatus), ← depsMet_iff]
  split_ifs with hdeps hmet hgate
  · refine iff_of_true (hmove _ _ (.inl rfl)) (depsMet_iff.mpr ?_)
    simp [Free, hdeps]
  · exact iff_of_true (hmove _ _ (.inr rfl)) hmet
  · exact iff_of_true (hmove _ _ (.inl rfl)) hmet
  · exact iff_of_false (not_not.mpr hstatus) hmet

theorem resume_status_iff {workflowId : String} (hparent : t.parentId = workflowId)
    (hstatus : t.status ∈ [.failed, .disrupted, .cancelled]) : (t.resume now workflowId tasks).status = .queued ↔
      t.Free tasks ∧ ∀ d ∈ t.deps, (tasks.get d).map Task.parentId = some workflowId := by
  have hforced (target : TaskStatus) (reason : String) :
      (t.setTaskStatus now target reason true).1.status = target := by
    unfold setTaskStatus
    rw [if_neg (by simp)]
    split_ifs with hsame
    · exact hsame
    · rfl
  have hdone (d : String) : ((tasks.get d).filter fun u => u.parentId = workflowId).map status = some .completed ↔
      (tasks.get d).map status = some .completed ∧ (tasks.get d).map Task.parentId = some workflowId := by
    cases tasks.get d with
    | none => simp
    | some u =>
      by_cases hu : u.parentId = workflowId <;> simp [Option.filter, hu]
  unfold resume
  rw [if_pos ⟨hparent, hstatus⟩]
  simp only [List.all_eq_true, decide_eq_true_eq, hdone]
  split_ifs with hall
  · exact iff_of_true (hforced _ _) ⟨fun d hd => (hall d hd).1, fun d hd => (hall d hd).2⟩
  rw [hforced]
  exact iff_of_false nofun fun h => hall fun d hd => ⟨h.1 d hd, h.2 d hd⟩

theorem releaseReady_samePlan : t.SamePlan (t.releaseReady cfg now tasks) := by
  unfold releaseReady
  split_ifs
  · exact .refl t
  · exact t.setTaskStatus_samePlan ..
  · exact t.setTaskStatus_samePlan ..
  · exact t.setTaskStatus_samePlan ..
  · exact .refl t

theorem afterRound_samePlan : t.SamePlan (t.afterRound cfg now tasks) := by
  have h : t.SamePlan (t.releaseReady cfg now tasks) := releaseReady_samePlan
  unfold afterRound
  dsimp only
  split_ifs
  · exact ⟨h.dependsOn, h.stepGate⟩
  · exact h

theorem afterRound_of_done (h : t.status = .completed ∨ t.status = .queued) :
    (t.afterRound cfg now tasks).status = .completed := by
  have hsame : t.releaseReady cfg now tasks = t := by rw [releaseReady, if_pos (by rcases h with h | h <;> simp [h])]
  rcases h with h | h <;> simp [afterRound, hsame, h]

theorem afterRound_of_ready (h : t.status = .waiting) (hgate : t.gateOn cfg = false)
    (hready : t.Free tasks ∧ t.deps.Nodup) : (t.afterRound cfg now tasks).status = .completed := by
  have hqueued (reason : String) : (t.setTaskStatus now .queued reason false).1.status = .queued := by
    rw [setTaskStatus_status, h]
    rfl
  have hrelease : (t.releaseReady cfg now tasks).status = .queued := by
    unfold releaseReady
    rw [if_neg (by simp [h]), if_pos (depsMet_iff.mpr hready), hgate, if_neg Bool.false_ne_true]
    split_ifs <;> exact hqueued _
  simp [afterRound, hrelease]

theorem afterRound_of_not_ready (h : t.status = .waiting) (hready : ¬ (t.Free tasks ∧ t.deps.Nodup)) :
    (t.afterRound cfg now tasks).status = .waiting := by
  have hstays : (t.releaseReady cfg now tasks).status = .waiting := by
    by_contra hmoved
    exact hready ((releaseReady_status_iff h).mp hmoved)
  simp [afterRound, hstays]

end Task

theorem Master.get_round (cfg : NodeSettings) (m : Master) (now : Nat) (id : String) :
    (m.round cfg now).tasks.get id = (m.tasks.get id).map (Task.afterRound cfg now m.tasks) := by
  rw [round, completeQueued, Table.get_mapRows, releaseReadyTasks, Table.get_mapRows, Option.map_map]
  rfl

/-- A task with an id twice among its dependencies waits for ever. -/
theorem Master.run_waiting {cfg : NodeSettings} {m : Master} {id : String} {t : Task} (ht : m.tasks.get id = some t)
    (hstatus : t.status = .waiting) (hdeps : ¬ t.deps.Nodup) (times : List Nat) :
    ((run (Master.round cfg) m times).tasks.get id).map Task.status = some .waiting := by
  induction times generalizing m t with
  | nil => simp [ht, hstatus]
  | cons now times ih =>
    refine ih (t := t.afterRound cfg now m.tasks) (by rw [get_round, ht]; rfl)
      (Task.afterRound_of_not_ready hstatus fun hready => hdeps hready.2) ?_
    rwa [(Task.afterRound_samePlan).deps]

/-! ## The plan of a workflow -/

namespace WorkflowForm

section Plan

variable {f : WorkflowForm} {cfg : NodeSettings} {now : Nat} {m m₀ : Master}

def plan (m₀ : Master) (f : WorkflowForm) : Plan String where
  items := f.taskIds.toFinset
  deps id := ((m₀.tasks.get id).map fun t => t.deps.toFinset).getD ∅

def completedIds (f : WorkflowForm) (m : Master) : Finset String :=
  f.taskIds.toFinset.filter fun id => (m.tasks.get id).map Task.status = some .completed

/-- A row that is completed, waits, or is queued and waits for nothing. -/
structure OnWay (cfg : NodeSettings) (t₀ t : Task) : Prop where
  samePlan : t₀.SamePlan t
  gate : t.gateOn cfg = false
  status : t.status = .completed ∨ t.status = .waiting ∨ t.status = .queued ∧ t.deps = []

structure Planned (m₀ : Master) (f : WorkflowForm) : Prop where
  nodup : ∀ id ∈ f.taskIds, ∀ t, m₀.tasks.get id = some t → t.deps.Nodup
  subset : ∀ id ∈ f.taskIds, ∀ t, m₀.tasks.get id = some t → ∀ d ∈ t.deps, d ∈ f.taskIds

def Follows (cfg : NodeSettings) (m₀ : Master) (f : WorkflowForm) (m : Master) : Prop :=
  ∀ id ∈ f.taskIds, ∃ t₀ t, m₀.tasks.get id = some t₀ ∧ m.tasks.get id = some t ∧ OnWay cfg t₀ t

theorem OnWay.afterRound {t₀ t : Task} (h : OnWay cfg t₀ t) (tasks : Table String Task) :
    OnWay cfg t₀ (t.afterRound cfg now tasks) where
  samePlan := h.samePlan.trans Task.afterRound_samePlan
  gate := by
    rw [(Task.afterRound_samePlan).gateOn cfg]
    exact h.gate
  status := by
    rcases h.status with hdone | hwaiting | ⟨hqueued, -⟩
    · exact .inl (Task.afterRound_of_done (.inl hdone))
    · by_cases hready : t.Free tasks ∧ t.deps.Nodup
      · exact .inl (Task.afterRound_of_ready hwaiting h.gate hready)
      · exact .inr (.inl (Task.afterRound_of_not_ready hwaiting hready))
    · exact .inl (Task.afterRound_of_done (.inr hqueued))

theorem Follows.round (h : f.Follows cfg m₀ m) (now : Nat) : f.Follows cfg m₀ (m.round cfg now) := by
  intro id hid
  obtain ⟨t₀, t, ht₀, ht, hway⟩ := h id hid
  refine ⟨t₀, t.afterRound cfg now m.tasks, ht₀, ?_, hway.afterRound m.tasks⟩
  rw [Master.get_round, ht]
  rfl

theorem free_iff_subset {t : Task} (hsubset : ∀ d ∈ t.deps, d ∈ f.taskIds) :
    t.Free m.tasks ↔ t.deps.toFinset ⊆ f.completedIds m := by
  constructor
  · intro h d hd
    have hd' := List.mem_toFinset.mp hd
    exact Finset.mem_filter.mpr ⟨List.mem_toFinset.mpr (hsubset d hd'), h d hd'⟩
  intro h d hd
  exact (Finset.mem_filter.mp (h (List.mem_toFinset.mpr hd))).2

/-- **A round of the model is a round of the plan.** -/
theorem completedIds_round (h : f.Follows cfg m₀ m) (hplanned : f.Planned m₀) (now : Nat) :
    f.completedIds (m.round cfg now) = (f.plan m₀).next (f.completedIds m) := by
  ext id
  rw [Plan.next, Finset.mem_filter]
  rw [completedIds, Finset.mem_filter]
  refine and_congr_right fun hmem => ?_
  have hid := List.mem_toFinset.mp hmem
  obtain ⟨t₀, t, ht₀, ht, hway⟩ := h id hid
  have hdeps : t.deps = t₀.deps := hway.samePlan.deps
  have hnodup : t.deps.Nodup := hdeps ▸ hplanned.nodup id hid t₀ ht₀
  have hfree : t.Free m.tasks ↔ (f.plan m₀).deps id ⊆ f.completedIds m := by
    rw [free_iff_subset (hdeps ▸ hplanned.subset id hid t₀ ht₀), hdeps]
    simp only [plan, ht₀, Option.map_some, Option.getD_some]
  have hdone : id ∈ f.completedIds m ↔ t.status = .completed := by
    rw [completedIds, Finset.mem_filter, ht, Option.map_some, Option.some.injEq]
    exact and_iff_right hmem
  rw [Master.get_round, ht, Option.map_some, Option.map_some, Option.some.injEq, hdone, ← hfree]
  rcases hway.status with hcompleted | hwaiting | ⟨hqueued, hnil⟩
  · exact iff_of_true (Task.afterRound_of_done (.inl hcompleted)) (.inl hcompleted)
  · by_cases hready : t.Free m.tasks
    · exact iff_of_true (Task.afterRound_of_ready hwaiting hway.gate ⟨hready, hnodup⟩) (.inr hready)
    rw [Task.afterRound_of_not_ready hwaiting fun h => hready h.1, hwaiting]
    simp [hready]
  refine iff_of_true (Task.afterRound_of_done (.inr hqueued)) (.inr ?_)
  intro d hd
  rw [hnil] at hd
  cases hd

theorem completedIds_run (h : f.Follows cfg m₀ m) (hplanned : f.Planned m₀) (times : List Nat) :
    f.completedIds (run (Master.round cfg) m times) = (f.plan m₀).next^[times.length] (f.completedIds m) := by
  induction times generalizing m with
  | nil => rfl
  | cons now times ih =>
    rw [run_cons, ih (h.round now), completedIds_round h hplanned, List.length_cons,
      Function.iterate_succ_apply]

/-! ## The whole workflow -/

def gateOff (cfg : NodeSettings) (f : WorkflowForm) : Bool := f.gate.getD cfg.stepGate = false

/-- Every task waits for exactly the tasks of its parent steps. -/
def DependsOnParents (cfg : NodeSettings) (now : Nat) (m : Master) (f : WorkflowForm) : Prop :=
  ∀ step ∈ f.steps, ∀ id ∈ f.sliceIds step, ∃ t, (m.addWorkflow cfg now f).tasks.get id = some t ∧
    ∀ d, d ∈ t.deps ↔ ∃ parent ∈ f.steps, parent.id ∈ step.dependsOn ∧ d ∈ f.sliceIds parent

def DepsNodup (cfg : NodeSettings) (now : Nat) (m : Master) (f : WorkflowForm) : Prop :=
  ∀ id ∈ f.taskIds, ∀ t, (m.addWorkflow cfg now f).tasks.get id = some t → t.deps.Nodup

def Acyclic (f : WorkflowForm) : Prop :=
  ∃ rank : WorkflowStep → Nat, ∀ step ∈ f.steps, ∀ parent ∈ f.steps, parent.id ∈ step.dependsOn →
    rank parent < rank step

def Completes (cfg : NodeSettings) (now : Nat) (m : Master) (f : WorkflowForm) (times : List Nat) : Prop :=
  ∀ id ∈ f.taskIds,
    ((run (Master.round cfg) (m.addWorkflow cfg now f) times).tasks.get id).map Task.status = some .completed

theorem WellPlanned.dependsOnParents (hacc : f.Accepted m) (hplan : f.WellPlanned) :
    f.DependsOnParents cfg now m := by
  intro step hstep id hid
  refine ⟨_, get_addWorkflow hacc hplan hstep hid, fun d => ?_⟩
  rw [newTask_deps hplan hstep, mem_parentIds]

theorem WellPlanned.depsNodup (hacc : f.Accepted m) (hplan : f.WellPlanned) : f.DepsNodup cfg now m := by
  intro id hid t ht
  obtain ⟨step, hstep, hmem⟩ := List.mem_flatMap.mp hid
  rw [get_addWorkflow hacc hplan hstep hmem] at ht
  rw [← Option.some.inj ht, newTask_deps hplan hstep]
  exact parentIds_nodup hplan hacc.nodup hstep

theorem newTask_deps_nil (f : WorkflowForm) (step : WorkflowStep) : (f.newTask cfg now step []).deps = [] := by
  have hnone : PyStr.splitCsv (String.intercalate "," []) = [] := by decide
  exact hnone

theorem follows_addWorkflow (hacc : f.Accepted m) (hgate : f.gateOff cfg = true) :
    f.Follows cfg (m.addWorkflow cfg now f) (m.addWorkflow cfg now f) := by
  intro id hid
  obtain ⟨pre, step, post, -, -, hget⟩ := row_addWorkflow cfg now hacc hid
  generalize f.stepDeps _ step = deps at hget
  have hoff : (f.newTask cfg now step deps).gateOn cfg = false := by
    simp only [gateOff, decide_eq_true_eq] at hgate
    simp only [Task.gateOn, newTask, taskMetadata, hgate]
  refine ⟨_, _, hget, hget, Task.SamePlan.refl _, hoff, ?_⟩
  by_cases hnil : deps = []
  · refine .inr (.inr ⟨by rw [newTask, if_pos hnil], ?_⟩)
    rw [hnil, newTask_deps_nil]
  · exact .inr (.inl (by rw [newTask, if_neg hnil]))

theorem completedIds_addWorkflow (hacc : f.Accepted m) : f.completedIds (m.addWorkflow cfg now f) = ∅ := by
  rw [completedIds, Finset.filter_eq_empty_iff]
  intro id hid
  obtain ⟨pre, step, post, -, -, hget⟩ := row_addWorkflow cfg now hacc (List.mem_toFinset.mp hid)
  rw [hget, Option.map_some, newTask]
  split_ifs <;> simp

def taskRank (f : WorkflowForm) (rank : WorkflowStep → Nat) (id : String) : Nat :=
  ((f.steps.find? fun s => id ∈ f.sliceIds s).map rank).getD 0

theorem taskRank_eq (hnodup : f.taskIds.Nodup) (rank : WorkflowStep → Nat) {step : WorkflowStep}
    (hstep : step ∈ f.steps) {id : String} (hid : id ∈ f.sliceIds step) : f.taskRank rank id = rank step := by
  have hsome : (f.steps.find? fun s => id ∈ f.sliceIds s).isSome = true := by
    rw [List.find?_isSome]
    exact ⟨step, hstep, decide_eq_true hid⟩
  obtain ⟨s, hs⟩ := Option.isSome_iff_exists.mp hsome
  have hmem : id ∈ f.sliceIds s := by simpa using List.find?_some hs
  obtain rfl := eq_of_mem_sliceIds hnodup hstep (List.mem_of_find?_eq_some hs) hid hmem
  rw [taskRank, hs]
  rfl

section Dependencies

variable (hacc : f.Accepted m) (hdeps : f.DependsOnParents cfg now m)
include hdeps

theorem mem_plan_deps {step : WorkflowStep} (hstep : step ∈ f.steps) {id : String} (hid : id ∈ f.sliceIds step)
    {d : String} : d ∈ (f.plan (m.addWorkflow cfg now f)).deps id ↔
      ∃ parent ∈ f.steps, parent.id ∈ step.dependsOn ∧ d ∈ f.sliceIds parent := by
  obtain ⟨t, ht, hmem⟩ := hdeps step hstep id hid
  simp only [plan, ht, Option.map_some, Option.getD_some, List.mem_toFinset, hmem]

theorem planned_addWorkflow (hnodup : f.DepsNodup cfg now m) : f.Planned (m.addWorkflow cfg now f) := by
  refine ⟨hnodup, fun id hid t ht d hd => ?_⟩
  obtain ⟨step, hstep, hmem⟩ := List.mem_flatMap.mp hid
  obtain ⟨t', ht', hiff⟩ := hdeps step hstep id hmem
  cases ht.symm.trans ht'
  obtain ⟨parent, hparent, -, hd'⟩ := (hiff d).mp hd
  exact List.mem_flatMap.mpr ⟨parent, hparent, hd'⟩

include hacc

theorem plan_ranked {rank : WorkflowStep → Nat} (hrank : ∀ step ∈ f.steps, ∀ parent ∈ f.steps,
    parent.id ∈ step.dependsOn → rank parent < rank step) :
    (f.plan (m.addWorkflow cfg now f)).Ranked (f.taskRank rank) := by
  intro id hid d hd
  obtain ⟨step, hstep, hmem⟩ := List.mem_flatMap.mp (List.mem_toFinset.mp hid)
  obtain ⟨parent, hparent, hnamed, hd'⟩ := (mem_plan_deps hdeps hstep hmem).mp hd
  refine ⟨List.mem_toFinset.mpr (List.mem_flatMap.mpr ⟨parent, hparent, hd'⟩), ?_⟩
  rw [taskRank_eq hacc.nodup rank hparent hd', taskRank_eq hacc.nodup rank hstep hmem]
  exact hrank step hstep parent hparent hnamed

omit hacc in
theorem acyclic_of_ranked {rank : String → Nat} (hrank : (f.plan (m.addWorkflow cfg now f)).Ranked rank) :
    f.Acyclic := by
  refine ⟨fun step => rank ((f.sliceIds step).headD ""), fun step hstep parent hparent hnamed => ?_⟩
  have hhead (s : WorkflowStep) (hs : s ∈ f.steps) : (f.sliceIds s).headD "" ∈ f.sliceIds s := by
    have hne : f.sliceIds s ≠ [] := by
      unfold sliceIds
      split
      · simp
        omega
      · simp
    cases hids : f.sliceIds s with
    | nil => exact absurd hids hne
    | cons id ids => exact .head _
  refine (hrank _ (List.mem_toFinset.mpr (List.mem_flatMap.mpr ⟨step, hstep, hhead step hstep⟩)) _ ?_).2
  exact (mem_plan_deps hdeps hstep (hhead step hstep)).mpr ⟨parent, hparent, hnamed, hhead parent hparent⟩

omit hdeps in
theorem depsNodup_of_completes {times : List Nat} (h : f.Completes cfg now m times) : f.DepsNodup cfg now m := by
  intro id hid t ht
  by_contra hnot
  obtain ⟨pre, step, post, -, -, hget⟩ := row_addWorkflow cfg now hacc hid
  generalize f.stepDeps _ step = deps at hget
  cases ht.symm.trans hget
  have hwaiting : (f.newTask cfg now step deps).status = .waiting := by
    rw [newTask, if_neg]
    rintro rfl
    rw [newTask_deps_nil] at hnot
    exact hnot List.nodup_nil
  have hend := h id hid
  rw [Master.run_waiting ht hwaiting hnot] at hend
  cases hend

/-- **Rounds.** Where the dependencies are right, the workflow is worked off exactly if no id is named twice and
there is no cycle. -/
theorem completes_iff (hgate : f.gateOff cfg = true) {times : List Nat} (htimes : f.taskIds.length ≤ times.length) :
    f.Completes cfg now m times ↔ f.DepsNodup cfg now m ∧ f.Acyclic := by
  have hall : f.Completes cfg now m times ↔
      f.completedIds (run (Master.round cfg) (m.addWorkflow cfg now f) times) = f.taskIds.toFinset := by
    simp [Completes, completedIds, Finset.filter_eq_self]
  have hrun (hnodup : f.DepsNodup cfg now m) :=
    completedIds_run (follows_addWorkflow hacc hgate) (planned_addWorkflow hdeps hnodup) times
  simp only [completedIds_addWorkflow hacc] at hrun
  constructor
  · intro h
    have hnodup := depsNodup_of_completes hacc h
    refine ⟨hnodup, ?_⟩
    have hitems := (hrun hnodup).symm.trans (hall.mp h)
    obtain ⟨rank, hrank⟩ := Plan.exists_ranked (P := f.plan (m.addWorkflow cfg now f)) (fun id hid d hd => by
      obtain ⟨step, hstep, hmem⟩ := List.mem_flatMap.mp (List.mem_toFinset.mp hid)
      obtain ⟨parent, hparent, -, hd'⟩ := (mem_plan_deps hdeps hstep hmem).mp hd
      exact List.mem_toFinset.mpr (List.mem_flatMap.mpr ⟨parent, hparent, hd'⟩)) hitems
    exact acyclic_of_ranked hdeps hrank
  · rintro ⟨hnodup, rank, hrank⟩
    have hcard : (f.plan (m.addWorkflow cfg now f)).items.card ≤ times.length := (List.toFinset_card_le _).trans htimes
    rw [hall, hrun hnodup, Plan.iterate_next_eq_items (plan_ranked hacc hdeps hrank) hcard]
    rfl

end Dependencies

end Plan

/-! ## Good and bad plans -/

def plainStep (id : String) (dependsOn : List String) (sliceCount : Int) : WorkflowStep :=
  ⟨id, dependsOn, sliceCount, "docker", none, none, none, []⟩

def plainWorkflow (steps : List WorkflowStep) : WorkflowForm where
  workflowId := "wf"
  steps := steps
  retryMax := 2
  retryBackoffBaseSec := 0
  leaseSeconds := 0
  stepGate := "off"

/-- Two slices, a step listed after the one that needs it, and the end. -/
def diamond : WorkflowForm := plainWorkflow [plainStep "a" [] 2, plainStep "c" ["a", "b"] 1, plainStep "b" ["a"] 1]

end WorkflowForm

/-- **The two readiness rules.** -/
theorem readiness_iff (cfg : NodeSettings) (now : Nat) (m : Master) :
    (∀ id t, m.tasks.get id = some t → t.status = .waiting →
      (((m.releaseReadyTasks cfg now).tasks.get id).map Task.status ≠ some .waiting ↔ t.Free m.tasks ∧ t.deps.Nodup)) ∧
    ∀ workflowId id t, m.tasks.get id = some t → t.parentId = workflowId →
      t.status ∈ [.failed, .disrupted, .cancelled] →
      (((m.resumeWorkflow now workflowId).tasks.get id).map Task.status = some .queued ↔
        t.Free m.tasks ∧ ∀ d ∈ t.deps, (m.tasks.get d).map Task.parentId = some workflowId) := by
  refine ⟨fun id t ht hstatus => ?_, fun workflowId id t ht hparent hstatus => ?_⟩
  · have hiff : (t.releaseReady cfg now m.tasks).status ≠ .waiting ↔ _ := Task.releaseReady_status_iff hstatus
    rw [← hiff]
    simp [Master.releaseReadyTasks, Table.get_mapRows, ht]
  have hiff : (t.resume now workflowId m.tasks).status = .queued ↔ _ := Task.resume_status_iff hparent hstatus
  rw [← hiff]
  simp [Master.resumeWorkflow, Table.get_mapRows, ht]

/-- **Ready steps are left behind.** -/
theorem ready_steps_left_behind :
    let done := Submission.exampleTask .completed none
    let b := { Submission.exampleTask .waiting none with dependsOn := "a,a" }
    let c := { Submission.exampleTask .failed none with dependsOn := "a", parentId := "v" }
    let tasks : Table String Task := (((∅ : Table String Task).put "a" done).put "b" b).put "c" c
    let m := { Submission.exampleMaster done with tasks }
    b.Free tasks ∧ c.Free tasks ∧
      ((m.releaseReadyTasks Submission.exampleEnv.cfg 1).tasks.get "b").map Task.status = some .waiting ∧
      ((m.resumeWorkflow 1 "v").tasks.get "c").map Task.status = some .waiting := by
  unfold Task.Free
  decide

end NexusGrid.Tasks

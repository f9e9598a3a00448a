import NexusGrid.Storage.Hosted

/-! # What is left of a purged deposit

A hosted deposit is purged by its depositor, by a move to a cloud, or by the lifecycle pass.
-/

namespace NexusGrid.Storage

open Lib

namespace DepositRow

variable (row : DepositRow)

def totalDays : Int := max 1 (if row.evictionTotalDays = 0 then 3 else row.evictionTotalDays)

def responseWindow : Int := if 2 ≤ row.totalDays then 1 else 0

def graceDays : Int := max 0 (row.totalDays - row.responseWindow)

end DepositRow

def elapsed (now : Int) (since : Option Int) (days : Int) : Bool :=
  match since.bind (addDays · days) with
  | none => false
  | some cutoff => cutoff ≤ now

namespace Node

variable (e : Env) (n : Node) (id : String)

/-- `_move_to_db_grace` and the commit after it. -/
def moveToDbGrace (row : DepositRow) : Node :=
  let dir := n.pumpDir id
  let chunks := n.chunksIn dir
  let blob := if e.readable then
      (chunks.filterMap fun k => n.chunkFiles.get (dir, k)).flatten
    else []
  let gone := chunks.takeWhile fun k => e.unlink (dir, k)
  let n := { n with chunkFiles := n.chunkFiles.deleteWhere fun key _ => key.1 = dir ∧ key.2 ∈ gone }
  match n.grace.insertNew id blob with
  | none => n
  | some grace => { n.putRow id (inGrace e row) with grace := grace }

/-- `_purge_deposit` and the commit after it. -/
def purgeDeposit (row : DepositRow) : Node :=
  { n.putRow id { row with status := .purged, purgedAt := e.clock } with
    grace := n.grace.delete id
    pumps := n.pumps.delete id }

def commitLifecyclePurge : Option Node :=
  match n.row? .host id with
  | none => none
  | some row =>
    if row.status = .inDbGrace ∧ elapsed e.now row.dbGraceAt row.graceDays then
      some (n.purgeDeposit e id row)
    else none

/-- One row in `foreign_storage_lifecycle_pass`. -/
def lifecycleRow : Node :=
  match n.row? .host id with
  | none => n
  | some row =>
    if row.status = .evictionRequested then
      if elapsed e.now row.evictionRequestedAt row.responseWindow then n.moveToDbGrace e id row else n
    else if row.status = .inDbGrace then (n.commitLifecyclePurge e id).getD n
    else if row.status = .stored ∧ elapsed e.now row.ttlAt 0 then
      let days := max 1 (if e.evictTotalDays = 0 then 3 else e.evictTotalDays)
      (n.putRow id { row with
        status := .evictionRequested
        evictionRequestedAt := some e.now
        evictionTotalDays := days }).send row.depositorUuid id (.evictionRequest days)
    else n

end Node

inductive PurgePath
  | deleteNow (peer : String)
  | cloudEviction (peer : String) (c : CloudFields)
  | lifecycle
deriving DecidableEq

namespace Node

variable {e : Env} {n m : Node} {peer id : String} {row : DepositRow} {path : PurgePath}

def purgeCommit (e : Env) (n : Node) (id : String) : PurgePath → Option Node
  | .deleteNow peer => n.commitDelete e peer id
  | .cloudEviction peer c => (n.commitCloudPurge e peer id c).toOption.map Prod.fst
  | .lifecycle => n.commitLifecyclePurge e id

def hostedDirs (e : Env) (n : Node) (id : String) : List String :=
  match n.row? .host id with
  | none => []
  | some row => chunkDirs e n id row

def Gone (dirs : List String) (id : String) (n : Node) : Prop :=
  (∀ dir ∈ dirs, ∀ k, n.chunkFiles.get (dir, k) = none) ∧ n.grace.get id = none

theorem commitDelete_eq_some (h : n.commitDelete e peer id = some m) :
    ∃ row, n.row? .host id = some row ∧ row.depositorUuid = peer ∧
      m = n.putRow id { row with status := .purged, purgedAt := e.clock } := by
  unfold commitDelete at h
  cases hrow : n.row? .host id with
  | none => simp [hrow] at h
  | some row =>
    simp only [hrow] at h
    split_ifs at h with hdep
    exact ⟨row, rfl, not_not.mp hdep, (Option.some.inj h).symm⟩

theorem purgeCommit_cloudEviction {c : CloudFields} (h : n.purgeCommit e id (.cloudEviction peer c) = some m) :
    ∃ objectId, n.commitCloudPurge e peer id c = .ok (m, objectId) := by
  simp only [purgeCommit] at h
  cases hc : n.commitCloudPurge e peer id c with
  | error r => simp [hc, Except.toOption] at h
  | ok r =>
    simp only [hc, Except.toOption, Option.map_some, Option.some.injEq] at h
    exact ⟨r.2, h ▸ rfl⟩

theorem commitLifecyclePurge_eq_some (h : n.commitLifecyclePurge e id = some m) :
    ∃ row, n.row? .host id = some row ∧ row.status = .inDbGrace ∧ m = n.purgeDeposit e id row := by
  unfold commitLifecyclePurge at h
  cases hrow : n.row? .host id with
  | none => simp [hrow] at h
  | some row =>
    simp only [hrow] at h
    split_ifs at h with hdue
    exact ⟨row, rfl, hdue.1, (Option.some.inj h).symm⟩

/-- What the commit of a purge has done. -/
theorem purgeCommit_spec (h : n.purgeCommit e id path = some m) :
    (∃ row, m.rows.get id = some row ∧ row.role = .host ∧ row.status = .purged) ∧ m.chunkFiles = n.chunkFiles ∧
      m.grace.get id = if path = .lifecycle then none else n.grace.get id := by
  cases path with
  | deleteNow peer =>
    obtain ⟨row, hrow, -, rfl⟩ := commitDelete_eq_some h
    have hrole : row.role = .host := row?_role hrow
    exact ⟨⟨_, Table.get_put_self _ _ _, hrole, rfl⟩, rfl, by simp [putRow]⟩
  | cloudEviction peer c =>
    obtain ⟨objectId, hc⟩ := purgeCommit_cloudEviction h
    obtain ⟨-, row, hrow, -, hm⟩ := commitCloudPurge_ok_iff.mp hc
    have hrole : row.role = .host := row?_role hrow
    dsimp only at hm
    rw [hm]
    exact ⟨⟨_, Table.get_put_self _ _ _, hrole, rfl⟩, rfl, by simp [putRow]⟩
  | lifecycle =>
    obtain ⟨row, hrow, -, rfl⟩ := commitLifecyclePurge_eq_some h
    have hrole : row.role = .host := row?_role hrow
    exact ⟨⟨_, Table.get_put_self _ _ _, hrole, rfl⟩, rfl, by simp [purgeDeposit, Table.get_delete]⟩

/-- **As the row of a hosted deposit is committed as purged, nothing of the deposit is left exactly when
there was no chunk file before, and the lifecycle pass does it or there was no copy in the grace table.** -/
theorem purged_commit_clean_iff (e : Env) (n m : Node) (id : String) (path : PurgePath)
    (h : n.purgeCommit e id path = some m) :
    (∃ row, m.rows.get id = some row ∧ row.role = .host ∧ row.status = .purged) ∧ (Gone (hostedDirs e n id) id m ↔
        (∀ dir ∈ hostedDirs e n id, ∀ k, n.chunkFiles.get (dir, k) = none) ∧
        (path = .lifecycle ∨ n.grace.get id = none)) := by
  obtain ⟨hpurged, hfiles, hgrace⟩ := purgeCommit_spec h
  refine ⟨hpurged, ?_⟩
  unfold Gone
  rw [hfiles, hgrace]
  by_cases hlife : path = .lifecycle <;> simp [hlife]

theorem purged_commit_clean_iff_lifecycle :
    ∃ m, graced.purgeCommit .plain "d" .lifecycle = some m ∧ Gone (hostedDirs .plain graced "d") "d" m :=
  ⟨graced.purgeDeposit .plain "d" gracedRow, rfl, (purged_commit_clean_iff .plain graced _ "d" .lifecycle rfl).2.mpr
      ⟨fun _ _ _ => rfl, .inl rfl⟩⟩

/-- After a restart the host has no pump entry. -/
theorem deletion_after_restart_keeps_chunk : ∃ m, restarted.purgeCommit .plain "d" (.deleteNow "depositor") = some m ∧
      ¬ Gone (hostedDirs .plain restarted "d") "d" m ∧ ¬ Gone (hostedDirs .plain restarted "d") "d"
        (restarted.dispatchStorageFrame .plain "depositor" ⟨"d", .deleteNow⟩) := by
  refine ⟨restarted.putRow "d" { DepositRow.plain .host .stored with
    status := .purged, purgedAt := "22:13:20" }, rfl, fun h => ?_, fun h => ?_⟩
  · have hfile := h.1 "depositor/d" (by decide) 0
    revert hfile
    decide +kernel
  have hfile := h.1 "depositor/d" (by decide) 0
  revert hfile
  decide +kernel

end Node

end NexusGrid.Storage

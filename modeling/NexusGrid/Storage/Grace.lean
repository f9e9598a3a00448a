import NexusGrid.Lib.Blocks
import NexusGrid.Storage.Purge

/-! # The move to the grace table

When an eviction is due, `_move_to_db_grace` joins the chunk files of a deposit to one blob for the database.
-/

namespace NexusGrid.Storage

open Lib

namespace Node

variable (e : Env) (n : Node) (id : String) (row : DepositRow)

def graceBlob : List UInt8 :=
  if e.readable then ((n.chunksIn (n.pumpDir id)).filterMap fun k => n.chunkFiles.get (n.pumpDir id, k)).flatten else []

def graceUnlinked : List Nat := (n.chunksIn (n.pumpDir id)).takeWhile fun k => e.unlink (n.pumpDir id, k)

def afterUnlinks (gone : List Nat) : Node :=
  { n with chunkFiles := n.chunkFiles.deleteWhere fun key _ => key.1 = n.pumpDir id ∧ key.2 ∈ gone }

/-- The node after every removal of `_move_to_db_grace`, and after the commit. -/
def graceStates : List Node := (n.graceUnlinked e id).inits.map (n.afterUnlinks id) ++ [n.moveToDbGrace e id row]

def depositChunks : List (List UInt8) := (n.chunksIn (e.depositDir id row.depositorUuid)).filterMap fun k =>
    n.chunkFiles.get (e.depositDir id row.depositorUuid, k)

def Untouched (m : Node) : Prop := (∀ k, m.chunkFiles.get (e.depositDir id row.depositorUuid, k) =
      n.chunkFiles.get (e.depositDir id row.depositorUuid, k)) ∧
    m.row? .host id = n.row? .host id

/-- The grace table has a blob that gives the chunks back. -/
def Holds (m : Node) : Prop :=
  ∃ blob, m.grace.get id = some blob ∧ recut 65564 (n.depositChunks e id row).length blob = n.depositChunks e id row

variable {e n id row}

theorem moveToDbGrace_of_taken (h : n.grace.get id ≠ none) :
    n.moveToDbGrace e id row = n.afterUnlinks id (n.graceUnlinked e id) := by
  unfold moveToDbGrace
  dsimp only
  split
  · rfl
  next grace hnew => exact absurd (Table.insertNew_eq_some.mp hnew).1 h

theorem moveToDbGrace_of_new (h : n.grace.get id = none) :
    n.moveToDbGrace e id row = { (n.afterUnlinks id (n.graceUnlinked e id)).putRow id (inGrace e row) with
      grace := n.grace.put id (n.graceBlob e id) } := by
  unfold moveToDbGrace
  dsimp only
  split
  next hnew => simp [Table.insertNew, h] at hnew
  next grace hnew =>
    obtain ⟨-, rfl⟩ := Table.insertNew_eq_some.mp hnew
    rfl

theorem untouched_afterUnlinks_iff {gone : List Nat} (hgone : gone ⊆ n.chunksIn (n.pumpDir id)) :
    Untouched e n id row (n.afterUnlinks id gone) ↔ (e.depositDir id row.depositorUuid = n.pumpDir id → gone = []) := by
  constructor
  · intro h hdir
    refine List.eq_nil_iff_forall_not_mem.mpr fun k hk => ?_
    obtain ⟨blob, hblob⟩ := mem_chunksIn.mp (hgone hk)
    have hsame := h.1 k
    rw [hdir, afterUnlinks, Table.get_deleteWhere, hblob] at hsame
    simp [hk] at hsame
  refine fun h => ⟨fun k => ?_, rfl⟩
  have hkept : ¬ (e.depositDir id row.depositorUuid = n.pumpDir id ∧ k ∈ gone) := by
    rintro ⟨hdir, hk⟩
    rw [h hdir] at hk
    cases hk
  rw [afterUnlinks, Table.get_deleteWhere]
  cases n.chunkFiles.get (e.depositDir id row.depositorUuid, k) <;> simp [hkept]

theorem graceUnlinked_subset : n.graceUnlinked e id ⊆ n.chunksIn (n.pumpDir id) := List.takeWhile_subset _

theorem sound_unlinks_iff :
    (∀ m ∈ (n.graceUnlinked e id).inits.map (n.afterUnlinks id), Untouched e n id row m ∨ Holds e n id row m) ↔
      Holds e n id row n ∨ (e.depositDir id row.depositorUuid = n.pumpDir id → n.graceUnlinked e id = []) := by
  simp only [List.forall_mem_map, List.mem_inits]
  constructor
  · intro h
    refine (h _ List.prefix_rfl).symm.imp_right ?_
    exact (untouched_afterUnlinks_iff graceUnlinked_subset).mp
  rintro (hheld | hnone) gone hgone
  · exact .inr hheld
  have hsub := List.Subset.trans hgone.subset graceUnlinked_subset
  refine .inl ((untouched_afterUnlinks_iff hsub).mpr fun hdir => ?_)
  rw [hnone hdir] at hgone
  exact List.prefix_nil.mp hgone

/-- **The move to the grace table.** -/
theorem grace_sound_iff (e : Env) (n : Node) (id : String) (row : DepositRow) (hrow : n.row? .host id = some row)
    (hstatus : row.status = .evictionRequested) :
    (∀ m ∈ n.graceStates e id row, Untouched e n id row m ∨ Holds e n id row m) ↔ Holds e n id row n ∨
      (e.depositDir id row.depositorUuid = n.pumpDir id → n.graceUnlinked e id = []) ∧ (n.grace.get id ≠ none ∨
          recut 65564 (n.depositChunks e id row).length (n.graceBlob e id) = n.depositChunks e id row) := by
  simp only [graceStates, List.forall_mem_append, List.forall_mem_singleton, sound_unlinks_iff]
  by_cases htaken : n.grace.get id = none
  · have hbefore : ¬ Holds e n id row n := by
      rintro ⟨blob, hblob, -⟩
      cases htaken.symm.trans hblob
    have hmoved : ¬ Untouched e n id row (n.moveToDbGrace e id row) := by
      intro h
      have hrole : row.role = .host := row?_role hrow
      have hput : (n.moveToDbGrace e id row).row? .host id = some (inGrace e row) := by
        rw [moveToDbGrace_of_new htaken]
        exact row?_of_put rfl hrole
      have hsame : inGrace e row = row := Option.some.inj ((hput.symm.trans h.2).trans hrow)
      have hstill := congrArg DepositRow.status hsame
      rw [hstatus] at hstill
      cases hstill
    have hafter : Holds e n id row (n.moveToDbGrace e id row) ↔
        recut 65564 (n.depositChunks e id row).length (n.graceBlob e id) = n.depositChunks e id row := by
      rw [moveToDbGrace_of_new htaken]
      simp [Holds]
    simp [hbefore, hmoved, hafter, htaken]
  · have hafter : Holds e n id row (n.moveToDbGrace e id row) ↔ Holds e n id row n := by
      rw [moveToDbGrace_of_taken htaken]
      rfl
    rw [hafter, moveToDbGrace_of_taken htaken, untouched_afterUnlinks_iff graceUnlinked_subset]
    tauto

def evicted : DepositRow := .plain .host .evictionRequested

/-- The files cannot be removed, and so nothing is lost. -/
theorem grace_sound_iff_stuck : (hosting .evictionRequested).row? .host "d" = some evicted ∧
    ∀ m ∈ (hosting .evictionRequested).graceStates { Env.plain with unlink := fun _ => false } "d" evicted,
      Untouched { Env.plain with unlink := fun _ => false } (hosting .evictionRequested) "d" evicted m ∨
        Holds { Env.plain with unlink := fun _ => false } (hosting .evictionRequested) "d" evicted m :=
  ⟨rfl, (grace_sound_iff { Env.plain with unlink := fun _ => false } (hosting .evictionRequested) "d" evicted
    rfl rfl).mpr (.inr ⟨fun _ => by decide +kernel, .inr (by decide +kernel)⟩)⟩

theorem move_to_grace_loses_chunk :
    (∃ m, m = (hosting .evictionRequested).moveToDbGrace { Env.plain with readable := false } "d" evicted ∧
      m.chunkFiles.get ("depositor/d", 0) = none ∧ m.grace.get "d" = some [] ∧
        (m.row? .host "d").map DepositRow.status = some .inDbGrace) ∧
    (∃ m, m = { hosting .evictionRequested with pumps := ∅ }.moveToDbGrace Env.plain "d" evicted ∧
      m.grace.get "d" = some [] ∧
      (m.row? .host "d").map DepositRow.status = some .inDbGrace) ∧
    ∃ m ∈ (hosting .evictionRequested).graceStates Env.plain "d" evicted,
      m.chunkFiles.get ("depositor/d", 0) = none ∧ m.grace.get "d" = none := by
  refine ⟨⟨_, rfl, ?_⟩, ⟨_, rfl, ?_⟩, ?_⟩ <;> decide +kernel

end Node

end NexusGrid.Storage

import NexusGrid.Groups.Handlers
import NexusGrid.Lib.Run

/-! # The pool-usage ledger

`store_and_apply` (`runtime/usage_receipts.py`) is the one entry point of usage receipts.
-/

namespace NexusGrid.Groups

open Lib

/-- A call of `store_and_apply`. -/
structure UsageDelivery where
  call : Call
  receipt : List (String × Json)
  sig : String
  /-- The commit goes through. -/
  commits : Bool

def UsageDelivery.receiptId (p : Primitives) (d : UsageDelivery) : String := Json.textAt p.repr d.receipt "receipt_id"

def UsageDelivery.row (p : Primitives) (d : UsageDelivery) (amount : Int) : UsageReceipt where
  groupId := Json.textAt p.repr d.receipt "group_id"
  providerPubkey := Json.textAt p.repr d.receipt "provider_pubkey"
  consumerPubkey := Json.textAt p.repr d.receipt "consumer_pubkey"
  kind := Json.textAt p.repr d.receipt "kind"
  refId := Json.textAt p.repr d.receipt "ref_id"
  amount := amount
  ts := Json.textOr p.repr d.receipt "ts" d.call.now
  sig := d.sig

namespace Db

/-- The call returns `True`. -/
def applies (p : Primitives) (db : Db) (d : UsageDelivery) : Bool :=
  d.commits && (storeAndApply p d.call db d.receipt d.sig).any Prod.snd

def deliver (p : Primitives) (db : Db) (d : UsageDelivery) : Db :=
  match storeAndApply p d.call db d.receipt d.sig with
  | none => db
  | some (db', _) => if d.commits then db' else db

def appliedIds (p : Primitives) : Db → List UsageDelivery → List String
  | _, [] => []
  | db, d :: ds => (if db.applies p d then [d.receiptId p] else []) ++ appliedIds p (db.deliver p d) ds

def counter (col : ComputeStat → Nat) (stats : Table (String × String) ComputeStat) (k : String × String) : Nat :=
  ((stats.get k).map col).getD 0

/-- `tasks_contributed` of a member. -/
def contributed (db : Db) (groupId member : String) : Nat :=
  counter ComputeStat.tasksContributed db.computeStats (groupId, member)

/-- `tasks_consumed` of a member. -/
def consumed (db : Db) (groupId member : String) : Nat :=
  counter ComputeStat.tasksConsumed db.computeStats (groupId, member)

/-- The number of stored compute receipts of a group with the member as the `party`. -/
def receiptsOf (db : Db) (party : UsageReceipt → String) (groupId member : String) : Nat :=
  db.usageReceipts.rows.countP fun r => r.2.groupId = groupId && r.2.kind = "compute" && party r.2 = member

/-- The counters are the numbers of receipts. -/
structure Ledger (db : Db) : Prop where
  contributed : ∀ g m, g ≠ "" → db.contributed g m = db.receiptsOf UsageReceipt.providerPubkey g m
  consumed : ∀ g m, g ≠ "" → db.consumed g m = db.receiptsOf UsageReceipt.consumerPubkey g m

def record (call : Call) (db : Db) (receiptId : String) (row : UsageReceipt) : Db where
  __ := db
  usageReceipts := db.usageReceipts.put receiptId row
  computeStats :=
    if row.groupId ≠ "" ∧ row.kind = "compute" then
      bumpStat call row.groupId row.consumerPubkey 0 1
        (bumpStat call row.groupId row.providerPubkey 1 0 db.computeStats)
    else db.computeStats

variable {p : Primitives} {call : Call} {db : Db} {d : UsageDelivery}

variable (p db d) in
theorem storeAndApply_cases : (storeAndApply p d.call db d.receipt d.sig = none ∨
      storeAndApply p d.call db d.receipt d.sig = some (db, false)) ∨
    ∃ amount, db.usageReceipts.get (d.receiptId p) = none ∧ storeAndApply p d.call db d.receipt d.sig =
        some (db.record d.call (d.receiptId p) (d.row p amount), true) := by
  unfold storeAndApply
  dsimp only
  split
  · exact .inl (.inr rfl)
  split
  · exact .inl (.inl rfl)
  next amount _ =>
    split
    · exact .inl (.inr rfl)
    split
    · exact .inl (.inr rfl)
    next hnew => exact .inr ⟨amount, hnew, rfl⟩

variable (p db d) in
theorem deliver_cases : (db.applies p d = false ∧ db.deliver p d = db) ∨
    ∃ amount, db.applies p d = true ∧ db.usageReceipts.get (d.receiptId p) = none ∧
      db.deliver p d = db.record d.call (d.receiptId p) (d.row p amount) := by
  unfold applies deliver
  rcases storeAndApply_cases p db d with (h | h) | ⟨amount, hnew, h⟩
  · simp [h]
  · simp [h]
  cases hc : d.commits with
  | false => simp [h]
  | true => exact .inr ⟨amount, by simp [h], hnew, by simp [h]⟩

theorem counter_bumpStat (stats : Table (String × String) ComputeStat) (g m : String) (a b : Nat)
    (k : String × String) : counter ComputeStat.tasksContributed (bumpStat call g m a b stats) k =
        counter ComputeStat.tasksContributed stats k + (if k = (g, m) then a else 0) ∧
      counter ComputeStat.tasksConsumed (bumpStat call g m a b stats) k =
        counter ComputeStat.tasksConsumed stats k + if k = (g, m) then b else 0 := by
  unfold counter bumpStat
  rw [Table.get_put]
  by_cases hk : k = (g, m)
  · subst hk
    cases stats.get (g, m) <;> simp
  · simp [hk]

theorem counters_record (receiptId : String) (row : UsageReceipt) (g m : String) :
    (db.record call receiptId row).contributed g m = (db.contributed g m +
      if (row.groupId ≠ "" ∧ row.kind = "compute") ∧ g = row.groupId ∧ m = row.providerPubkey then 1 else 0) ∧
    (db.record call receiptId row).consumed g m = db.consumed g m +
      if (row.groupId ≠ "" ∧ row.kind = "compute") ∧ g = row.groupId ∧ m = row.consumerPubkey then 1 else 0 := by
  unfold contributed consumed record
  by_cases hcompute : row.groupId ≠ "" ∧ row.kind = "compute"
  · simp only [if_pos hcompute, counter_bumpStat]
    simp [hcompute]
  · simp [hcompute]

theorem receiptsOf_record {receiptId : String} (hnew : db.usageReceipts.get receiptId = none)
    (row : UsageReceipt) (party : UsageReceipt → String) (g m : String) :
    (db.record call receiptId row).receiptsOf party g m = db.receiptsOf party g m +
      if (row.groupId = g ∧ row.kind = "compute") ∧ party row = m then 1 else 0 := by
  unfold receiptsOf record
  rw [Table.countP_rows_put hnew]
  simp

theorem Ledger.record (h : db.Ledger) {receiptId : String} (hnew : db.usageReceipts.get receiptId = none)
    (row : UsageReceipt) : (db.record call receiptId row).Ledger := by
  -- the same receipts count on both sides, as the group is a real one
  have hsame (g m m' : String) (hg : g ≠ "") : ((row.groupId ≠ "" ∧ row.kind = "compute") ∧ g = row.groupId ∧ m = m') ↔
        (row.groupId = g ∧ row.kind = "compute") ∧ m' = m := by
    constructor
    · rintro ⟨⟨-, hkind⟩, rfl, rfl⟩
      exact ⟨⟨rfl, hkind⟩, rfl⟩
    rintro ⟨⟨rfl, hkind⟩, rfl⟩
    exact ⟨⟨hg, hkind⟩, rfl, rfl⟩
  constructor
  · intro g m hg
    rw [(counters_record ..).1, receiptsOf_record hnew, h.contributed g m hg]
    simp only [hsame g m _ hg]
  intro g m hg
  rw [(counters_record ..).2, receiptsOf_record hnew, h.consumed g m hg]
  simp only [hsame g m _ hg]

theorem Ledger.deliver (h : db.Ledger) (d : UsageDelivery) : (db.deliver p d).Ledger := by
  rcases deliver_cases p db d with ⟨-, hdb⟩ | ⟨amount, -, hnew, hdb⟩
  · rw [hdb]
    exact h
  rw [hdb]
  exact h.record hnew _

theorem appliedIds_nodup (db : Db) (ds : List UsageDelivery) :
    (db.appliedIds p ds).Nodup ∧ ∀ id ∈ db.appliedIds p ds, db.usageReceipts.get id = none := by
  induction ds generalizing db with
  | nil => simp [appliedIds]
  | cons d ds ih =>
    obtain ⟨hnodup, hold⟩ := ih (db.deliver p d)
    rw [appliedIds]
    rcases deliver_cases p db d with ⟨hno, hdb⟩ | ⟨amount, hyes, hnew, hdb⟩
    · rw [hdb] at hnodup hold ⊢
      simp only [hno, Bool.false_eq_true, if_false, List.nil_append]
      exact ⟨hnodup, hold⟩
    -- the ids that come later are other ones, as this one is stored now
    have hlater : ∀ id ∈ (db.deliver p d).appliedIds p ds, id ≠ d.receiptId p ∧ db.usageReceipts.get id = none := by
      intro id hid
      have hget := hold id hid
      rw [hdb, Db.record, Table.get_put] at hget
      by_cases heq : id = d.receiptId p
      · simp [heq] at hget
      rw [if_neg heq] at hget
      exact ⟨heq, hget⟩
    rw [if_pos hyes, List.singleton_append, List.nodup_cons]
    refine ⟨⟨fun hmem => (hlater _ hmem).1 rfl, hnodup⟩, ?_⟩
    intro id hid
    rcases List.mem_cons.mp hid with rfl | hid
    · exact hnew
    · exact (hlater id hid).2

/-- **The ledger.** -/
theorem ledger_exact (p : Primitives) (db : Db) (ds : List UsageDelivery) :
    let db₀ := { db with usageReceipts := ∅, computeStats := ∅ }
    let db' := run (deliver p) db₀ ds
    (∀ g m, g ≠ "" → db'.contributed g m = db'.receiptsOf UsageReceipt.providerPubkey g m) ∧
      (∀ g m, g ≠ "" → db'.consumed g m = db'.receiptsOf UsageReceipt.consumerPubkey g m) ∧
      (db₀.appliedIds p ds).Nodup := by
  intro db₀ db'
  have hinit : db₀.Ledger := by
    constructor <;> intro g m _ <;> simp [db₀, contributed, consumed, counter, receiptsOf, Table.rows]
  have hledger : db'.Ledger := run_invariant_of_step (fun s d h => h.deliver d) hinit ds
  exact ⟨hledger.contributed, hledger.consumed, (appliedIds_nodup db₀ ds).1⟩

end Db

end NexusGrid.Groups

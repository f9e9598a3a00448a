import Mathlib.Algebra.GroupWithZero.Nat
import Mathlib.Algebra.Order.BigOperators.Group.List
import Mathlib.Algebra.Order.Group.Nat
import NexusGrid.Storage.Purge

/-! # The space that deposits take

A host agrees to a size when it accepts an offer (`foreign_storage_respond`, `api/local.py`).
-/

namespace NexusGrid.Storage

open Lib

namespace Node

variable (e : Env) (n : Node)

/-- `used_gb()`, in bytes. -/
def usedBytes : Nat := (n.chunkFiles.rows.map fun r => r.2.length).sum

def bytesIn (dir : String) : Nat := ((n.chunkFiles.rows.filter fun r => r.1.1 = dir).map fun r => r.2.length).sum

/-- `foreign_storage_respond`; `sig` is the signature of the terms. -/
def foreignStorageRespond (id sig : String) (accept : Bool) : Node :=
  match n.row? .host id with
  | none => n
  | some row =>
    if row.status ≠ .offered then n
    else if accept then
      { n.putRow id { row with status := .accepted, hostSignature := sig } with
        pumps := n.pumps.put id ⟨.host, row.depositorUuid, row.totalBytes, row.chunkCount,
          e.depositDir id row.depositorUuid, -1, e.now, e.now, 0, "transferring", []⟩ }
    else n.putRow id { row with status := .declined }

end Node

/-- A `storage_chunk` frame and what the host finds when it comes. -/
structure ChunkArrival where
  env : Env
  peer : String
  chunkIdx : Int
  b64 : String

namespace ChunkArrival

def step (id : String) (n : Node) (a : ChunkArrival) : Node := n.receiveChunk a.env a.peer id a.chunkIdx a.b64

def left (a : ChunkArrival) (blob : List UInt8) : Option (List UInt8) :=
  match a.env.write with
  | .done => some blob
  | .failed left => left

/-- What is left in the file of chunk `i` has at most `limit i` bytes. -/
def Fits (limit : Nat → Nat) (a : ChunkArrival) : Prop :=
  ∀ blob, a.env.b64decode a.b64 = some blob → ∀ l, a.left blob = some l → l.length ≤ limit a.chunkIdx.toNat

end ChunkArrival

section Bytes

variable {limit : Nat → Nat} {dir id : String} {count : Nat} {n : Node}

/-- Chunks below `count` go into a directory, which has none that is too big. -/
structure Bounded (limit : Nat → Nat) (dir id : String) (count : Nat) (n : Node) : Prop where
  pump : ∃ p, n.pumps.get id = some p ∧ p.dir = dir ∧ p.chunkCount = count
  files : ∀ i blob, n.chunkFiles.get (dir, i) = some blob → i < count ∧ blob.length ≤ limit i

theorem Bounded.put (h : Bounded limit dir id count n) {i : Nat} {blob : List UInt8} (hi : i < count)
    (hblob : blob.length ≤ limit i) (j : Nat) (blob' : List UInt8)
    (hget : (n.chunkFiles.put (dir, i) blob).get (dir, j) = some blob') : j < count ∧ blob'.length ≤ limit j := by
  rw [Table.get_put] at hget
  split at hget
  next heq =>
    obtain rfl : j = i := (Prod.mk.inj heq).2
    cases hget
    exact ⟨hi, hblob⟩
  · exact h.files j blob' hget

theorem Bounded.step (hcount : 0 < count) (h : Bounded limit dir id count n) {a : ChunkArrival} (hfits : a.Fits limit) :
    Bounded limit dir id count (a.step id n) := by
  obtain ⟨p, hp, hdir, hchunks⟩ := h.pump
  unfold ChunkArrival.step
  cases hidx : a.chunkIdx with
  | negSucc k => exact h
  | ofNat i =>
    obtain ⟨out, heq, -⟩ | ⟨p', blob, hp', hrange, hdecode, hwritten⟩ :=
      Node.receiveChunk_cases a.env n a.peer id i a.b64
    · rw [Int.ofNat_eq_natCast, heq]
      exact ⟨h.pump, h.files⟩
    cases hp.symm.trans hp'
    have hi : i < count := by omega
    have hlimit := hfits blob hdecode
    rw [hidx] at hlimit
    unfold ChunkArrival.left at hlimit
    subst hdir
    obtain ⟨hwrite, heq⟩ | ⟨left, hwrite, heq⟩ := hwritten
    · rw [hwrite] at hlimit
      rw [Int.ofNat_eq_natCast, heq]
      exact ⟨⟨_, Table.get_put_self _ _ _, rfl, hchunks⟩, fun j b hget => h.put hi (hlimit blob rfl) j b hget⟩
    rw [hwrite] at hlimit
    rw [Int.ofNat_eq_natCast, heq]
    exact ⟨h.pump, fun j b hget => h.put hi (hlimit left rfl) j b hget⟩

theorem sum_le_sum_range {l : List Nat} (hl : l.Nodup) (hlt : ∀ i ∈ l, i < count) (limit : Nat → Nat) :
    (l.map limit).sum ≤ ((List.range count).map limit).sum := by
  obtain ⟨l', hperm, hsub⟩ := hl.subperm fun i hi => List.mem_range.mpr (hlt i hi)
  calc
    (l.map limit).sum = (l'.map limit).sum := (hperm.map limit).sum_eq.symm
    _ ≤ ((List.range count).map limit).sum := (hsub.map limit).sum_le_sum fun _ _ => Nat.zero_le _

theorem Bounded.bytesIn_le (h : Bounded limit dir id count n) : n.bytesIn dir ≤ ((List.range count).map limit).sum := by
  set rows := n.chunkFiles.rows.filter fun r => r.1.1 = dir
  have hrow : ∀ r ∈ rows, r.1.2 < count ∧ r.2.length ≤ limit r.1.2 := by
    rintro ⟨⟨d, i⟩, blob⟩ hr
    obtain ⟨hmem, hd⟩ := List.mem_filter.mp hr
    obtain rfl : d = dir := of_decide_eq_true hd
    exact h.files i blob ((Table.mem_rows ..).mp hmem)
  have hnodup : (rows.map fun r => r.1.2).Nodup := by
    have hkeys : (rows.map Prod.fst).Nodup := (Table.nodup_rows_keys _).sublist (List.filter_sublist.map _)
    have hcomp : (rows.map fun r => r.1.2) = (rows.map Prod.fst).map Prod.snd := by rw [List.map_map]; rfl
    rw [hcomp]
    refine hkeys.map_on fun x hx y hy hxy => ?_
    obtain ⟨r, hr, rfl⟩ := List.mem_map.mp hx
    obtain ⟨r', hr', rfl⟩ := List.mem_map.mp hy
    have hdirs : r.1.1 = dir ∧ r'.1.1 = dir :=
      ⟨of_decide_eq_true (List.mem_filter.mp hr).2, of_decide_eq_true (List.mem_filter.mp hr').2⟩
    exact Prod.ext (hdirs.1.trans hdirs.2.symm) hxy
  calc
    n.bytesIn dir = (rows.map fun r => r.2.length).sum := rfl
    _ ≤ (rows.map fun r => limit r.1.2).sum := List.sum_le_sum fun r hr => (hrow r hr).2
    _ = ((rows.map fun r => r.1.2).map limit).sum := by rw [List.map_map]; rfl
    _ ≤ ((List.range count).map limit).sum :=
      sum_le_sum_range hnodup (fun i hi => by
        obtain ⟨r, hr, rfl⟩ := List.mem_map.mp hi
        exact (hrow r hr).1) limit

end Bytes

/-- **The bytes of a deposit.** -/
theorem chunk_bytes_bounded (e : Env) (n : Node) (id sig : String) (row : DepositRow) (count : Nat) (limit : Nat → Nat)
    (arrivals : List ChunkArrival) (hrow : n.row? .host id = some row) (hstatus : row.status = .offered)
    (hcount : row.chunkCount = count) (hpos : 0 < count)
    (hfresh : ∀ i, n.chunkFiles.get (e.depositDir id row.depositorUuid, i) = none)
    (hfits : ∀ a ∈ arrivals, a.Fits limit)
    (hshares : (((List.range count).map limit).sum : Int) ≤ row.totalBytes + 28 * count) :
    ((run (ChunkArrival.step id) (n.foreignStorageRespond e id sig true) arrivals).bytesIn
      (e.depositDir id row.depositorUuid) : Int) ≤ row.totalBytes + 28 * count := by
  have hstart : Bounded limit (e.depositDir id row.depositorUuid) id count (n.foreignStorageRespond e id sig true) := by
    simp only [Node.foreignStorageRespond, hrow, hstatus, ne_eq, not_true_eq_false, if_false, if_true]
    refine ⟨⟨_, Table.get_put_self _ _ _, rfl, hcount⟩, fun i blob hget => ?_⟩
    cases (hfresh i).symm.trans hget
  have hrun : Bounded limit (e.depositDir id row.depositorUuid) id count
      (run (ChunkArrival.step id) (n.foreignStorageRespond e id sig true) arrivals) := by
    induction arrivals using List.reverseRecOn with
    | nil => exact hstart
    | append_singleton as a ih =>
      rw [run_concat]
      exact (ih fun b hb => hfits b (List.mem_append_left _ hb)).step hpos (hfits a (by simp))
  exact (Int.ofNat_le.mpr hrun.bytesIn_le).trans hshares

/-- The deposit `d` of one byte in one chunk is offered. -/
def oneOffered : Node := { Node.empty with rows := Table.put ∅ "d" (.plain .host .offered) }

def ChunkArrival.ofText (b64 : String) : ChunkArrival :=
  ⟨{ Env.plain with b64decode := fun s => some (List.replicate s.length 0) }, "depositor", 0, b64⟩

/-- The chunk comes three times, each time with other bytes. -/
theorem chunk_bytes_bounded_resent :
    ((run (ChunkArrival.step "d") (oneOffered.foreignStorageRespond Env.plain "d" "" true)
      [.ofText "x", .ofText "nine and twenty letters here.", .ofText "xyz"]).bytesIn "depositor/d" : Int) ≤ 29 :=
  chunk_bytes_bounded Env.plain oneOffered "d" "" (.plain .host .offered) 1 (fun _ => 29)
    [.ofText "x", .ofText "nine and twenty letters here.", .ofText "xyz"] rfl rfl rfl
    (by decide) (fun _ => rfl)
    (fun a ha => by
      simp only [List.mem_cons, List.not_mem_nil, or_false] at ha
      rcases ha with rfl | rfl | rfl <;> rintro blob ⟨⟩ l ⟨⟩ <;> decide) (by decide)

/-- A chunk of thirty bytes lands in a deposit of one byte in one chunk. -/
theorem oversized_chunk_lands : (run (ChunkArrival.step "d") (oneOffered.foreignStorageRespond Env.plain "d" "" true)
      [.ofText "thirty characters in this text"]).bytesIn "depositor/d" = 30 := by
  decide +kernel

/-- The three settings of the quota, in bytes. -/
structure Quota where
  maxTotal : Nat
  perDepositor : Nat
  safety : Nat

/-- What `_handle_offer` finds on a host: `effective_free_gb` and `auto_opt_out_reason`. -/
def Quota.env (q : Quota) (diskFree : Nat) (n : Node) (e : Env) : Env :=
  { e with
    freeBytes := min (max 0 ((q.maxTotal : Int) - n.usedBytes)) (max 0 ((diskFree : Int) - q.safety))
    autoOptOut := diskFree < q.maxTotal }

/-- The depositor and the size of every deposit that is accepted and not purged. -/
structure Ledger where
  node : Node
  agreed : Table String (String × Nat)

inductive HostEvent
  | frame (e : Env) (diskFree : Nat) (peer : String) (frame : StorageFrame)
  | respond (e : Env) (id sig : String) (accept : Bool)
  | lifecycle (e : Env) (id : String)

namespace Ledger

def agreement (n : Node) (id : String) : Option (String × Nat) :=
  ((n.row? .host id).filter fun row => row.status = .offered).map fun row => (row.depositorUuid, row.totalBytes.toNat)

/-- The host goes on as `n`, without the deposits that are purged there. -/
def goOn (h : Ledger) (n : Node) : Ledger :=
  ⟨n, h.agreed.deleteWhere fun id _ => (n.row? .host id).any fun row => row.status = .purged⟩

def step (q : Quota) (h : Ledger) : HostEvent → Ledger
  | .frame e diskFree peer frame => h.goOn (h.node.dispatchStorageFrame (q.env diskFree h.node e) peer frame)
  | .respond e id sig accept =>
    ⟨h.node.foreignStorageRespond e id sig accept,
      if accept then ((agreement h.node id).map (h.agreed.put id)).getD h.agreed else h.agreed⟩
  | .lifecycle e id => h.goOn (h.node.lifecycleRow e id)

def agreedBytes (agreed : Table String (String × Nat)) (who : String → Bool) : Nat :=
  ((agreed.rows.filter fun r => who r.2.1).map fun r => r.2.2).sum

def Within (q : Quota) (agreed : Table String (String × Nat)) : Prop :=
  agreedBytes agreed (fun _ => true) ≤ q.maxTotal ∧ ∀ d, agreedBytes agreed (fun x => x = d) ≤ q.perDepositor

/-- There is room beside the other agreed sizes, in all and for the depositor. -/
def Fits (q : Quota) (h : Ledger) : HostEvent → Prop
  | .respond _ id _ true => ∀ a, agreement h.node id = some a →
      agreedBytes (h.agreed.delete id) (fun _ => true) + a.2 ≤ q.maxTotal ∧
        agreedBytes (h.agreed.delete id) (fun x => x = a.1) + a.2 ≤ q.perDepositor
  | _ => True

variable {q : Quota} {h : Ledger} {t t' : Table String (String × Nat)}

theorem agreedBytes_mono (hsub : t'.rows.Sublist t.rows) (who : String → Bool) :
    agreedBytes t' who ≤ agreedBytes t who :=
  ((hsub.filter _).map _).sum_le_sum fun _ _ => Nat.zero_le _

theorem agreedBytes_put (id : String) (a : String × Nat) (who : String → Bool) :
    agreedBytes (t.put id a) who = agreedBytes (t.delete id) who + if who a.1 then a.2 else 0 := by
  have hrows : (t.put id a).rows = (id, a) :: (t.delete id).rows := rfl
  unfold agreedBytes
  rw [hrows, List.filter_cons]
  split <;> simp [Nat.add_comm]

theorem Within.mono (hw : Within q t) (hsub : t'.rows.Sublist t.rows) : Within q t' :=
  ⟨(agreedBytes_mono hsub _).trans hw.1, fun d => (agreedBytes_mono hsub _).trans (hw.2 d)⟩

theorem Within.goOn (hw : Within q h.agreed) (n : Node) : Within q (h.goOn n).agreed :=
  hw.mono (List.filter_sublist.map _)

theorem within_put_iff (hw : Within q t) (id : String) (a : String × Nat) :
    Within q (t.put id a) ↔ agreedBytes (t.delete id) (fun _ => true) + a.2 ≤ q.maxTotal ∧
      agreedBytes (t.delete id) (fun x => x = a.1) + a.2 ≤ q.perDepositor := by
  have hrest : Within q (t.delete id) := hw.mono ((List.kerase_sublist id _).map _)
  simp only [Within, agreedBytes_put, if_true, decide_eq_true_eq]
  refine and_congr_right fun _ => ⟨fun hd => by simpa using hd a.1, fun hown d => ?_⟩
  by_cases hd : a.1 = d
  · subst hd
    simpa using hown
  · simpa [hd] using hrest.2 d

theorem within_step {e : HostEvent} (hw : Within q h.agreed) (hfits : Fits q h e) : Within q (h.step q e).agreed := by
  cases e with
  | frame e diskFree peer frame => exact hw.goOn _
  | lifecycle e id => exact hw.goOn _
  | respond e id sig accept =>
    cases accept with
    | false => exact hw
    | true =>
      cases ha : agreement h.node id with
      | none => simpa [step, ha] using hw
      | some a => simpa [step, ha] using (within_put_iff hw id a).2 (hfits a ha)

end Ledger

/-- **The quota.** -/
theorem quota_kept_iff (q : Quota) (n : Node) (es : List HostEvent) :
    (∀ pre, pre <+: es → Ledger.Within q (run (Ledger.step q) ⟨n, ∅⟩ pre).agreed) ↔
      Along (Ledger.step q) (Ledger.Fits q) ⟨n, ∅⟩ es := by
  refine always_iff_along (P := fun h : Ledger => Ledger.Within q h.agreed) (fun _ hw => hw)
    (fun h e hw hfits => Ledger.within_step hw hfits) (fun h e hw hstep => ?_)
    ⟨Nat.zero_le _, fun _ => Nat.zero_le _⟩ es
  cases e with
  | frame e diskFree peer frame => trivial
  | lifecycle e id => trivial
  | respond e id sig accept =>
    cases accept with
    | false => trivial
    | true =>
      intro a ha
      refine (Ledger.within_put_iff hw id a).1 ?_
      simpa [Ledger.step, ha] using hstep

def twoOffers : List HostEvent :=
  let e : Env := { Env.plain with verifyTerms := fun _ _ _ => true }
  let offer : Offer := ⟨3, 1, "stream", "", "", 30, "", ""⟩
  [.frame e 100 "p" ⟨"a", .offer offer⟩, .frame e 100 "p" ⟨"b", .offer offer⟩, .respond e "a" "" true,
    .respond e "b" "" true]

/-- More bytes are agreed to than there are. -/
theorem pending_offers_exceed_quota :
    Ledger.agreedBytes (run (Ledger.step ⟨5, 9, 1⟩) ⟨Node.empty, ∅⟩ twoOffers).agreed (fun _ => true) = 6 ∧
    Ledger.agreedBytes (run (Ledger.step ⟨5, 2, 1⟩) ⟨Node.empty, ∅⟩ (twoOffers.take 3)).agreed (fun x => x = "p") =
      3 := by
  decide +kernel

end NexusGrid.Storage

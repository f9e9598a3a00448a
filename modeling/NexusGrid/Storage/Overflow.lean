import NexusGrid.Storage.Node

/-! # Piping a download into rclone

When the local disk is full, `_stream_one` (`runtime/foreign_storage_rclone.py`) sends a deposit to a cloud drive as
it comes in.
-/

namespace NexusGrid.Storage

open Lib

/-- What the process does. -/
structure Rclone where
  /-- The write with this number goes through. -/
  takes : Nat → Bool
  /-- It ends in time, with the code 0. -/
  succeeds : Bool

structure Stream where
  pending : Table Int (List UInt8)
  nextIdx : Nat
  written : Nat
  /-- What has been written to the process. -/
  piped : List (List UInt8)

namespace Stream

def write (s : Stream) (blob : List UInt8) : Stream where
  pending := s.pending.delete s.nextIdx
  nextIdx := s.nextIdx + 1
  written := s.written + 1
  piped := s.piped ++ [blob]

theorem length_delete {κ ρ : Type} [DecidableEq κ] {t : Table κ ρ} {k : κ} {r : ρ} (h : t.get k = some r) :
    (t.delete k).rows.length < t.rows.length := by
  have hlength (t : Table κ ρ) : t.rows.length = t.keys.length := by simp [Table.rows, AList.keys, List.keys]
  have hmem : k ∈ t.keys := AList.lookup_isSome.mp (by rw [show t.lookup k = some r from h]; rfl)
  have hpos := List.length_pos_of_mem hmem
  rw [hlength, hlength, Table.delete, AList.keys_erase, List.length_erase_of_mem hmem]
  omega

/-- `while next_idx in pending`; `none` when a write raises. -/
def flush (rclone : Rclone) (s : Stream) : Option Stream :=
  match _h : s.pending.get s.nextIdx with
  | none => some s
  | some blob => if rclone.takes s.written then (s.write blob).flush rclone else none
termination_by s.pending.rows.length
decreasing_by exact length_delete _h

/-- `while written < total_chunks`; `none` when it raises. -/
def receive (rclone : Rclone) (total : Nat) (s : Stream) (arrivals : List (Int × List UInt8)) : Option Stream :=
  if total ≤ s.written then some s
  else match arrivals with
    | [] => none
    | (idx, blob) :: rest =>
      match flush rclone { s with pending := s.pending.put idx blob } with
      | none => none
      | some s => s.receive rclone total rest

/-- `_stream_one`: what it has written when it returns `True`. -/
def streamOne (rclone : Rclone) (total : Nat) (arrivals : List (Int × List UInt8)) : Option (List (List UInt8)) :=
  match receive rclone total ⟨∅, 0, 0, []⟩ arrivals with
  | none => none
  | some s => if rclone.succeeds then some s.piped else none

variable {rclone : Rclone} {total : Nat} {blobs : Nat → List UInt8} {s s' : Stream}

theorem flush_of_none (h : s.pending.get s.nextIdx = none) : s.flush rclone = some s := by
  rw [flush]
  split
  · rfl
  next hsome =>
    rw [h] at hsome
    cases hsome

theorem flush_of_some {blob : List UInt8} (h : s.pending.get s.nextIdx = some blob) (htakes : rclone.takes s.written) :
    s.flush rclone = (s.write blob).flush rclone := by
  rw [flush]
  split
  next hnone =>
    rw [h] at hnone
    cases hnone
  next hsome =>
    rw [if_pos htakes, Option.some.inj (hsome.symm.trans h)]

/-- The first chunks are written, in order, and what waits is what it says. -/
structure Ordered (total : Nat) (blobs : Nat → List UInt8) (s : Stream) : Prop where
  written : s.written = s.nextIdx
  piped : s.piped = (List.range s.nextIdx).map blobs
  pending : ∀ idx blob, s.pending.get idx = some blob → ∃ k < total, idx = k ∧ blob = blobs k
  bound : s.nextIdx ≤ total

theorem Ordered.write (h : s.Ordered total blobs) {blob : List UInt8} (hnext : s.pending.get s.nextIdx = some blob) :
    (s.write blob).Ordered total blobs := by
  obtain ⟨k, hk, hidx, rfl⟩ := h.pending _ _ hnext
  obtain rfl : s.nextIdx = k := Int.ofNat_inj.mp hidx
  refine ⟨congrArg (· + 1) h.written, ?_, fun idx blob hget => ?_, hk⟩
  · show s.piped ++ [blobs s.nextIdx] = (List.range (s.nextIdx + 1)).map blobs
    rw [h.piped, List.range_succ, List.map_append]
    rfl
  rw [Stream.write, Table.get_delete] at hget
  split at hget
  · cases hget
  · exact h.pending idx blob hget

theorem Ordered.flush (h : s.Ordered total blobs) (hflush : s.flush rclone = some s') : s'.Ordered total blobs := by
  fun_induction Stream.flush rclone s with
  | case1 s hnone =>
    cases hflush
    exact h
  | case2 s blob hnext htakes ih => exact ih (h.write hnext) hflush
  | case3 => cases hflush

theorem Ordered.receive {arrivals : List (Int × List UInt8)} (h : s.Ordered total blobs)
    (harrivals : ∀ a ∈ arrivals, ∃ k < total, a = ((k : Int), blobs k))
    (hreceive : s.receive rclone total arrivals = some s') : s'.Ordered total blobs ∧ total ≤ s'.written := by
  induction arrivals generalizing s with
  | nil =>
    rw [Stream.receive] at hreceive
    split at hreceive
    next hdone =>
      cases hreceive
      exact ⟨h, hdone⟩
    · cases hreceive
  | cons a rest ih =>
    rw [Stream.receive] at hreceive
    split at hreceive
    next hdone =>
      cases hreceive
      exact ⟨h, hdone⟩
    · obtain ⟨k, hk, rfl⟩ := harrivals a (.head _)
      have hput : Ordered total blobs { s with pending := s.pending.put k (blobs k) } := by
        refine ⟨h.written, h.piped, fun idx blob hget => ?_, h.bound⟩
        rw [Table.get_put] at hget
        split at hget
        next hidx => exact ⟨k, hk, hidx, (Option.some.inj hget).symm⟩
        · exact h.pending idx blob hget
      split at hreceive
      · cases hreceive
      next s₁ hflush =>
        exact ih (hput.flush hflush) (fun b hb => harrivals b (.tail _ hb)) hreceive

end Stream

theorem Node.queue_handleRetrieveChunk {e : Env} {n : Node} {id : String} {queue : List (Int × List UInt8)}
    (h : n.streamQueues.get id = some queue) (idx : Int) (b64 : String) :
    (n.handleRetrieveChunk e id idx b64).streamQueues.get id =
      some (queue ++ ((e.b64decode b64).map fun blob => (idx, blob)).toList) := by
  unfold handleRetrieveChunk
  cases e.b64decode b64 with
  | none => simp [h]
  | some blob =>
    cases idx with
    | ofNat i => simp [withDownloader, downloader, Downloader.handleRetrieveChunk, h]
    | negSucc i => simp [saveStrayChunk, h]

/-- The queue has every chunk that can be decoded, as it came in. -/
theorem Node.queue_frames (e : Env) {n : Node} {id : String} {queue : List (Int × List UInt8)}
    (h : n.streamQueues.get id = some queue) (frames : List (Int × String)) :
    (run (fun n f => n.handleRetrieveChunk e id f.1 f.2) n frames).streamQueues.get id =
      some (queue ++ frames.flatMap fun f => ((e.b64decode f.2).map fun blob => (f.1, blob)).toList) := by
  induction frames generalizing n queue with
  | nil => simpa using h
  | cons f frames ih =>
    rw [run_cons, ih (queue_handleRetrieveChunk h f.1 f.2), List.flatMap_cons, List.append_assoc]

/-- **The object in the cloud.** -/
theorem streamed_in_order (e : Env) (n : Node) (id : String) (rclone : Rclone) (total : Nat)
    (blobs : Nat → List UInt8) (frames : List (Int × String)) {queue : List (Int × List UInt8)}
    {piped : List (List UInt8)} (hopen : n.streamQueues.get id = some [])
    (hframes : ∀ f ∈ frames, ∃ k < total, f.1 = k ∧ ∀ blob, e.b64decode f.2 = some blob → blob = blobs k)
    (hqueue : (run (fun n f => n.handleRetrieveChunk e id f.1 f.2) n frames).streamQueues.get id = some queue)
    (h : Stream.streamOne rclone total queue = some piped) : piped = (List.range total).map blobs := by
  rw [Node.queue_frames e hopen, List.nil_append, Option.some.injEq] at hqueue
  have harrivals : ∀ a ∈ queue, ∃ k < total, a = ((k : Int), blobs k) := by
    intro a ha
    rw [← hqueue, List.mem_flatMap] at ha
    obtain ⟨f, hf, ha⟩ := ha
    obtain ⟨blob, hblob, rfl⟩ := Option.map_eq_some_iff.mp (Option.mem_toList.mp ha)
    obtain ⟨k, hk, hidx, hsame⟩ := hframes f hf
    exact ⟨k, hk, by rw [hidx, hsame blob hblob]⟩
  unfold Stream.streamOne at h
  split at h
  · cases h
  next s hreceive =>
    split at h
    · have hstart : Stream.Ordered total blobs ⟨∅, 0, 0, []⟩ :=
        ⟨rfl, rfl, fun _ _ hget => by simp at hget, Nat.zero_le _⟩
      obtain ⟨hordered, hdone⟩ := hstart.receive harrivals hreceive
      have hnext : s.nextIdx = total := by
        have hbound := hordered.bound
        rw [hordered.written] at hdone
        omega
      rw [← Option.some.inj h, hordered.piped, hnext]
    · cases h

def exampleChunks : Env := { Env.plain with b64decode := fun s => some (if s = "AA==" then [0] else [1]) }

def exampleStream : Node := { Node.empty with streamQueues := Table.put ∅ "d" [] }

/-- The second chunk comes first. -/
theorem streamed_in_order_late :
    (run (fun (n : Node) f => n.handleRetrieveChunk exampleChunks "d" f.1 f.2) exampleStream
      [(1, "AQ=="), (0, "AA==")]).streamQueues.get "d" = some [(1, [1]), (0, [0])] ∧
    Stream.streamOne ⟨fun _ => true, true⟩ 2 [(1, [1]), (0, [0])] =
      some ((List.range 2).map fun k => [UInt8.ofNat k]) := by
  have hearly : Stream.flush ⟨fun _ => true, true⟩ ⟨Table.put ∅ 1 [1], 0, 0, []⟩ = some _ := Stream.flush_of_none rfl
  have hboth : Stream.flush ⟨fun _ => true, true⟩ ⟨(Table.put ∅ 1 [1]).put 0 [0], 0, 0, []⟩ = some _ :=
    (Stream.flush_of_some rfl rfl).trans ((Stream.flush_of_some rfl rfl).trans (Stream.flush_of_none rfl))
  have hpiped : Stream.streamOne ⟨fun _ => true, true⟩ 2 [(1, [1]), (0, [0])] = some [[0], [1]] := by
    simp [Stream.streamOne, Stream.receive, hearly, hboth, Stream.write]
  refine ⟨rfl, hpiped.trans (congrArg some ?_)⟩
  refine streamed_in_order exampleChunks exampleStream "d" _ 2 _ [(1, "AQ=="), (0, "AA==")] rfl ?_ rfl hpiped
  intro f hf
  simp only [List.mem_cons, List.not_mem_nil, or_false] at hf
  rcases hf with rfl | rfl
  · exact ⟨1, by decide, rfl, fun blob h => (Option.some.inj h).symm⟩
  · exact ⟨0, by decide, rfl, fun blob h => (Option.some.inj h).symm⟩

end NexusGrid.Storage

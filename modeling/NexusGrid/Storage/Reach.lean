import NexusGrid.Storage.Node

/-! # What a storage frame can reach

Most handlers of storage frames write only what the node keeps under the id in the frame (`Quiet`).

The lemmas below say once, for each handler of `Node`, what it can reach. `Hosted` and `Deposited`
derive from them what a third party can do to a deposit.
-/

namespace NexusGrid.Storage

open Lib

namespace Node

variable {e : Env} {n n' : Node} {peer id i : String} {row : DepositRow}

/-! ## Rows and chunk files -/

@[simp] theorem rows_putRow : (n.putRow id row).rows = n.rows.put id row := rfl
variable {c : CloudFields} {role : Role} {r : Node × String}

theorem row?_eq_some (hrow : n.rows.get id = some row) (hrole : row.role = role) : n.row? role id = some row := by
  simp [row?, hrow, hrole]

theorem row?_of_put {m : Node} (h : m.rows = n.rows.put id row) (hrole : row.role = role) : m.row? role id = some row :=
  row?_eq_some (h ▸ Table.get_put_self _ _ _) hrole

theorem row?_eq_none {role' : Role} (hrow : n.rows.get id = some row) (hrole : row.role = role)
    (hne : role ≠ role') : n.row? role' id = none := by
  simp [row?, hrow, hrole, hne]

theorem row?_role (h : n.row? role id = some row) : row.role = role := by
  simpa using (Option.filter_eq_some_iff.mp h).2

theorem mem_chunksIn {dir : String} {k : Nat} : k ∈ n.chunksIn dir ↔ ∃ blob, n.chunkFiles.get (dir, k) = some blob := by
  simp only [chunksIn, List.mem_insertionSort, List.mem_map, List.mem_filter, decide_eq_true_eq, ← Table.mem_rows]
  constructor
  · rintro ⟨⟨⟨_, _⟩, blob⟩, ⟨hmem, rfl⟩, rfl⟩
    exact ⟨blob, hmem⟩
  rintro ⟨blob, hmem⟩
  exact ⟨((dir, k), blob), ⟨hmem, rfl⟩, rfl⟩

/-- It refuses, writes the chunk, or leaves a part of it. -/
theorem receiveChunk_cases (e : Env) (n : Node) (peer id : String) (i : Nat) (b64 : String) :
    (∃ out, n.receiveChunk e peer id i b64 = { n with sent := n.sent ++ out } ∧ (peer, id, .chunkAck i true "") ∉ out) ∨
    ∃ p blob, n.pumps.get id = some p ∧ (p.chunkCount ≠ 0 → (i : Int) < p.chunkCount) ∧ e.b64decode b64 = some blob ∧
      ((e.write = .done ∧ n.receiveChunk e peer id i b64 = { n with
          chunkFiles := n.chunkFiles.put (p.dir, i) blob
          pumps := n.pumps.put id (p.received e.now i)
          sent := n.sent ++ [(peer, id, .chunkAck i true "")] }) ∨
        ∃ left, e.write = .failed (some left) ∧ n.receiveChunk e peer id i b64 = { n with
          chunkFiles := n.chunkFiles.put (p.dir, i) left
          sent := n.sent ++ [(peer, id, .chunkAck i false "io_error")] }) := by
  have hidx : (i : Int) = Int.ofNat i := rfl
  rw [hidx, receiveChunk]
  split
  · exact .inl ⟨[], by rw [List.append_nil], List.not_mem_nil⟩
  cases hland : landing e n id i b64 with
  | error reason => exact .inl ⟨_, rfl, by simp⟩
  | ok r =>
    obtain ⟨p, blob⟩ := r
    obtain ⟨hp, hrange, hdecode⟩ : n.pumps.get id = some p ∧ ¬ (p.chunkCount ≠ 0 ∧ p.chunkCount ≤ i) ∧
        e.b64decode b64 = some blob := by
      unfold landing at hland
      grind
    cases hwrite : e.write with
    | done => exact .inr ⟨p, blob, hp, by omega, hdecode, .inl ⟨rfl, rfl⟩⟩
    | failed left =>
      cases left with
      | none => exact .inl ⟨_, rfl, by simp⟩
      | some left => exact .inr ⟨p, blob, hp, by omega, hdecode, .inr ⟨left, rfl, rfl⟩⟩

/-! ## What a handler leaves alone

`KeptAt` is about one id, `Local` about all other ids, `Quiet` adds the chunk files and the downloads.
-/

structure KeptAt (id : String) (n n' : Node) : Prop where
  rows : n'.rows.get id = n.rows.get id
  pumps : n'.pumps.get id = n.pumps.get id
  keys : n'.keys.get id = n.keys.get id

/-- Every deposit but `i` keeps its row, pump entry and session key. -/
def Local (i : String) (n n' : Node) : Prop := ∀ j ≠ i, KeptAt j n n'

structure SameDownloads (n n' : Node) : Prop where
  files : n'.files = n.files
  rawChunks : n'.rawChunks = n.rawChunks
  strayChunks : n'.strayChunks = n.strayChunks

/-- Nothing is written but what is kept under the id `i`. -/
structure Quiet (i : String) (n n' : Node) : Prop where
  elsewhere : Local i n n'
  chunkFiles : n'.chunkFiles = n.chunkFiles
  downloads : SameDownloads n n'

theorem KeptAt.refl : KeptAt id n n := ⟨rfl, rfl, rfl⟩

theorem Quiet.refl : Quiet i n n := ⟨fun _ _ => KeptAt.refl, rfl, rfl, rfl, rfl⟩

/-- A node that differs in what is kept under one id. -/
theorem Quiet.of_eq {row' : Table String DepositRow} (hrows : n'.rows = row')
    (hrow : ∀ j ≠ i, row'.get j = n.rows.get j) (hpumps : n'.pumps = n.pumps)
    (hkeys : n'.keys = n.keys) (hchunks : n'.chunkFiles = n.chunkFiles) (hfiles : SameDownloads n n') : Quiet i n n' :=
  ⟨fun j hj => ⟨by rw [hrows, hrow j hj], by rw [hpumps], by rw [hkeys]⟩, hchunks, hfiles⟩

theorem Quiet.putRow : Quiet id n (n.putRow id row) :=
  .of_eq rfl (fun _ hj => Table.get_put_ne _ _ hj) rfl rfl rfl ⟨rfl, rfl, rfl⟩

theorem Quiet.trans {n'' : Node} (h : Quiet i n n') (h' : Quiet i n' n'') : Quiet i n n'' where
  elsewhere j hj :=
    ⟨(h'.elsewhere j hj).rows.trans (h.elsewhere j hj).rows, (h'.elsewhere j hj).pumps.trans (h.elsewhere j hj).pumps,
      (h'.elsewhere j hj).keys.trans (h.elsewhere j hj).keys⟩
  chunkFiles := h'.chunkFiles.trans h.chunkFiles
  downloads :=
    ⟨h'.downloads.files.trans h.downloads.files, h'.downloads.rawChunks.trans h.downloads.rawChunks,
      h'.downloads.strayChunks.trans h.downloads.strayChunks⟩

/-- Changes that no deposit is made of. -/
theorem Quiet.of_same (hrows : n'.rows = n.rows) (hpumps : n'.pumps = n.pumps)
    (hkeys : n'.keys = n.keys) (hchunks : n'.chunkFiles = n.chunkFiles) (hfiles : SameDownloads n n') : Quiet i n n' :=
  .of_eq hrows (fun _ _ => rfl) hpumps hkeys hchunks hfiles

theorem Quiet.send (reply : Reply) : Quiet i n (n.send peer id reply) := .of_same rfl rfl rfl rfl ⟨rfl, rfl, rfl⟩

theorem launch_cases (n : Node) (id peer : String) (indices : Option (List Int)) :
    ∃ launches, n.launch id peer indices = { n with launches := launches } := by
  unfold launch
  split
  · split_ifs
    · exact ⟨_, rfl⟩
    · exact ⟨n.launches, rfl⟩
  · exact ⟨n.launches, rfl⟩

theorem Quiet.launch (indices : Option (List Int)) : Quiet i n (n.launch id peer indices) := by
  obtain ⟨launches, h⟩ := launch_cases n id peer indices
  rw [h]
  exact .of_same rfl rfl rfl rfl ⟨rfl, rfl, rfl⟩

@[simp] theorem rows_launch (indices : Option (List Int)) : (n.launch id peer indices).rows = n.rows := by
  obtain ⟨launches, h⟩ := launch_cases n id peer indices
  rw [h]

/-! ## The quiet handlers -/

theorem handleOffer_quiet (o : Offer) : Quiet i n (n.handleOffer e peer i o) := by
  unfold handleOffer
  split_ifs
  · exact .refl
  split
  · exact .send _
  · exact .refl
  split
  · split_ifs
    · exact .putRow
    · exact .refl
  · exact .putRow

theorem recordChunkAck_quiet (idx : Int) (ok : Bool) : Quiet i n (n.recordChunkAck i idx ok) := by
  unfold recordChunkAck
  split
  · exact .refl
  · exact ⟨fun j hj => ⟨rfl, Table.get_put_ne _ _ hj, rfl⟩, rfl, rfl, rfl, rfl⟩

theorem handleComplete_quiet (final : String) : Quiet i n (n.handleComplete e peer i final) := by
  unfold handleComplete
  split
  · exact .refl
  split_ifs
  · exact .send _
  split
  · exact .refl
  · exact .putRow

theorem handleRetrieveOpen_quiet (first last : Int) : Quiet i n (n.handleRetrieveOpen e peer i first last) := by
  unfold handleRetrieveOpen
  split
  · exact .refl
  split
  · exact .refl
  split
  · exact .refl
  · exact .of_same rfl rfl rfl rfl ⟨rfl, rfl, rfl⟩

theorem handleOfferCancelled_quiet : Quiet i n (n.handleOfferCancelled peer i) := by
  unfold handleOfferCancelled
  split_ifs
  · exact .refl
  split
  · exact .refl
  split_ifs
  · exact .refl
  · exact .putRow
  · exact .refl

theorem handleResumeRequest_quiet : Quiet i n (n.handleResumeRequest e peer i) := by
  unfold handleResumeRequest
  split_ifs
  · exact .refl
  split
  · exact .refl
  split_ifs
  · exact .refl
  refine Quiet.trans ?_ (.send _)
  split
  · exact .refl
  · exact ⟨fun j hj => ⟨rfl, Table.get_put_ne _ _ hj, rfl⟩, rfl, rfl, rfl, rfl⟩

theorem storeKey_quiet (key : List UInt8) : Quiet i n (n.storeKey i key) :=
  ⟨fun _ hj => ⟨rfl, rfl, Table.get_put_ne _ _ hj⟩, rfl, rfl, rfl, rfl⟩

theorem get_delete_ne {ρ : Type} (t : Table String ρ) {j : String} (hj : j ≠ i) : (t.delete i).get j = t.get j := by
  rw [Table.get_delete, if_neg hj]

theorem handleViewGrant_quiet (nonce blob sealedManifest : String) :
    Quiet i n (n.handleViewGrant e peer i nonce blob sealedManifest) := by
  unfold handleViewGrant
  split
  · exact .refl
  split
  · exact .send _
  split
  · exact .send _
  split
  · exact .send _
  split
  · exact .refl
  dsimp only
  split
  · exact .send _
  · exact (Quiet.putRow.trans (storeKey_quiet _)).trans (.send _)

theorem handleViewRevoke_quiet : Quiet i n (n.handleViewRevoke peer i) := by
  unfold handleViewRevoke
  split_ifs
  · exact .refl
  split
  · exact .refl
  split_ifs
  · exact .refl
  · exact ⟨fun j hj => ⟨Table.get_put_ne _ _ hj, rfl, get_delete_ne _ hj⟩, rfl, rfl, rfl, rfl⟩

theorem handlePause_quiet (reason : String) : Quiet i n (n.handlePause peer i reason) := by
  unfold handlePause
  split
  · exact .refl
  split
  · exact .refl
  dsimp only
  split
  · exact .refl
  split
  · exact .refl
  · exact .putRow

theorem handleOfferResponse_quiet (accepted : Bool) (sig : String) :
    Quiet i n (n.handleOfferResponse peer i accepted sig) := by
  unfold handleOfferResponse
  split
  · exact .refl
  split
  · exact .refl
  dsimp only
  split
  · split
    · refine Quiet.trans ?_ (.launch _)
      exact .of_eq rfl (fun _ hj => Table.get_put_ne _ _ hj) rfl rfl rfl ⟨rfl, rfl, rfl⟩
    split
    · exact .of_same rfl rfl rfl rfl ⟨rfl, rfl, rfl⟩
    · exact .of_eq rfl (fun _ hj => Table.get_put_ne _ _ hj) rfl rfl rfl ⟨rfl, rfl, rfl⟩
  split
  · exact .send _
  split
  · exact Quiet.putRow.trans (.launch _)
  · exact .putRow

theorem rewriteRow_quiet (f : DepositRow → DepositRow) : Quiet i n (n.rewriteRow i f) := by
  unfold rewriteRow
  split
  · exact .refl
  · exact .putRow

theorem handleResumeReply_quiet (received : List Int) : Quiet i n (n.handleResumeReply peer i received) := by
  unfold handleResumeReply
  split_ifs
  · exact .refl
  split
  · exact .refl
  dsimp only
  split_ifs
  · exact .refl
  · exact .putRow
  · exact Quiet.putRow.trans (.launch _)

theorem handleMissingChunks_quiet (missing : List Int) : Quiet i n (n.handleMissingChunks e peer i missing) := by
  unfold handleMissingChunks
  split
  · exact .refl
  split
  · exact .refl
  split
  · exact .refl
  split
  · exact .refl
  split
  · exact .of_eq rfl (fun _ hj => Table.get_put_ne _ _ hj) rfl rfl rfl ⟨rfl, rfl, rfl⟩
  dsimp only
  split
  · exact ⟨fun j hj => ⟨Table.get_put_ne _ _ hj, rfl, get_delete_ne _ hj⟩, rfl, rfl, rfl, rfl⟩
  refine Quiet.trans ?_ (.launch _)
  exact .of_same rfl rfl rfl rfl ⟨rfl, rfl, rfl⟩

/-! ## Chunks that arrive -/

theorem receiveChunk_local (idx : Int) (b64 : String) : Local i n (n.receiveChunk e peer i idx b64) := by
  intro j hj
  unfold receiveChunk
  split
  · exact .refl
  split
  · exact .refl
  split
  · exact ⟨rfl, rfl, rfl⟩
  split
  · exact ⟨rfl, Table.get_put_ne _ _ hj, rfl⟩
  · exact ⟨rfl, rfl, rfl⟩

theorem receiveChunk_downloads (idx : Int) (b64 : String) : SameDownloads n (n.receiveChunk e peer i idx b64) := by
  unfold receiveChunk
  split
  · exact ⟨rfl, rfl, rfl⟩
  split
  · exact ⟨rfl, rfl, rfl⟩
  split
  · exact ⟨rfl, rfl, rfl⟩
  split <;> exact ⟨rfl, rfl, rfl⟩

/-! ## Evictions to a cloud drive -/

theorem cloudEvictionFail_quiet (reason : String) : Quiet i n (cloudEvictionFail e n peer i reason) := by
  unfold cloudEvictionFail
  split
  · exact .send _
  · exact Quiet.putRow.trans (.send _)

/-- When a cloud eviction gets to its second commit. -/
theorem commitCloudPurge_ok_iff : commitCloudPurge e n peer i c = .ok r ↔
      checkCloudFields e peer c = .ok () ∧ ∃ row, n.row? .host i = some row ∧ uploadChunks e n i c row = .ok r.2 ∧
        r.1 = (n.putRow i (evictingToCloud c row)).putRow i (purgedToCloud e r.2 (evictingToCloud c row)) := by
  obtain ⟨m, objectId⟩ := r
  unfold commitCloudPurge
  cases checkCloudFields e peer c with
  | error reason => simp
  | ok _ =>
    cases n.row? .host i with
    | none => simp
    | some row =>
      have hup : uploadChunks e (n.putRow i (evictingToCloud c row)) i c row = uploadChunks e n i c row := rfl
      simp only [hup, Option.some.injEq, exists_eq_left', true_and]
      cases uploadChunks e n i c row with
      | error reason => simp
      | ok oid =>
        simp only [Except.ok.injEq, Prod.mk.injEq]
        constructor
        · rintro ⟨rfl, rfl⟩
          exact ⟨rfl, rfl⟩
        rintro ⟨rfl, rfl⟩
        exact ⟨rfl, rfl⟩

theorem commitCloudPurge_error (h : commitCloudPurge e n peer i c = .error r) : Quiet i n r.1 := by
  unfold commitCloudPurge at h
  cases hc : checkCloudFields e peer c with
  | error reason =>
    rw [hc] at h
    cases h
    exact .refl
  | ok _ =>
    rw [hc] at h
    cases hrow : n.row? .host i with
    | none =>
      rw [hrow] at h
      cases h
      exact .refl
    | some row =>
      rw [hrow] at h
      dsimp only at h
      cases hup : uploadChunks e (n.putRow i (evictingToCloud c row)) i c row with
      | error reason =>
        rw [hup] at h
        cases h
        exact .putRow
      | ok objectId =>
        rw [hup] at h
        cases h

theorem evictToCloud_of_error
    (h : commitCloudPurge e n peer i c = .error r) : Quiet i n (n.evictToCloud e peer i c) := by
  unfold evictToCloud
  rw [h]
  exact (commitCloudPurge_error h).trans (cloudEvictionFail_quiet _)

theorem evictToCloud_of_ok (h : commitCloudPurge e n peer i c = .ok r) :
    Local i n (n.evictToCloud e peer i c) ∧ SameDownloads n (n.evictToCloud e peer i c) ∧
      (n.evictToCloud e peer i c).chunkFiles = (n.wipe e.unlink (n.pumpDir i)).chunkFiles := by
  obtain ⟨-, row, -, -, hr⟩ := commitCloudPurge_ok_iff.mp h
  have hquiet : Quiet i n r.1 := hr ▸ Quiet.putRow.trans .putRow
  have hdir : r.1.pumpDir i = n.pumpDir i := by rw [hr]; rfl
  have hdone : n.evictToCloud e peer i c =
      (r.1.wipe e.unlink (r.1.pumpDir i)).send peer i (.cloudUploadComplete r.2) := by
    unfold evictToCloud
    rw [h]
  rw [hdone]
  have hsame (j : String) (hj : j ≠ i) := hquiet.elsewhere j hj
  refine ⟨fun j hj => ⟨(hsame j hj).rows, (hsame j hj).pumps, (hsame j hj).keys⟩,
    ⟨hquiet.downloads.files, hquiet.downloads.rawChunks, hquiet.downloads.strayChunks⟩, ?_⟩
  dsimp only [send, wipe]
  rw [hdir, hquiet.chunkFiles]

theorem handleEvictionResponse_reach (action : String) (c : CloudFields) :
    Local i n (n.handleEvictionResponse e peer i action c) ∧
      SameDownloads n (n.handleEvictionResponse e peer i action c) := by
  unfold handleEvictionResponse
  split
  · cases hc : commitCloudPurge e n peer i c with
    | error r => exact ⟨(evictToCloud_of_error hc).elsewhere, (evictToCloud_of_error hc).downloads⟩
    | ok r => exact ⟨(evictToCloud_of_ok hc).1, (evictToCloud_of_ok hc).2.1⟩
  split
  · exact ⟨Quiet.refl.elsewhere, rfl, rfl, rfl⟩
  split
  · exact ⟨Quiet.putRow.elsewhere, rfl, rfl, rfl⟩
  · exact ⟨Quiet.refl.elsewhere, rfl, rfl, rfl⟩

/-! ## Deletions and downloads -/

theorem handleDeleteNow_local : Local i n (n.handleDeleteNow e peer i) := by
  intro j hj
  unfold handleDeleteNow commitDelete
  cases n.row? .host i with
  | none => exact .refl
  | some row =>
    dsimp only
    split_ifs
    · exact .refl
    · exact ⟨Table.get_put_ne _ _ hj, get_delete_ne _ hj, rfl⟩

theorem handleDeleteNow_downloads : SameDownloads n (n.handleDeleteNow e peer i) := by
  unfold handleDeleteNow commitDelete
  cases n.row? .host i with
  | none => exact ⟨rfl, rfl, rfl⟩
  | some row =>
    dsimp only
    split_ifs <;> exact ⟨rfl, rfl, rfl⟩

theorem handleDeleteNow_chunkFiles : (n.handleDeleteNow e peer i).chunkFiles =
      if ∃ row, n.row? .host i = some row ∧ row.depositorUuid = peer then (n.wipe e.unlink (n.pumpDir i)).chunkFiles
      else n.chunkFiles := by
  unfold handleDeleteNow commitDelete
  cases n.row? .host i with
  | none => simp
  | some row =>
    by_cases h : row.depositorUuid = peer
    · simp only [h, ne_eq, not_true_eq_false, if_false, Option.some.injEq, exists_eq_left', if_true]
      rfl
    · simp [h]

theorem withDownloader_local (d : Downloader) : Local i n (n.withDownloader i d) := by
  intro j hj
  unfold withDownloader
  refine ⟨?_, rfl, ?_⟩
  · split
    · exact Table.get_put_ne _ _ hj
    · rfl
  dsimp only
  split
  · exact Table.get_put_ne _ _ hj
  · exact get_delete_ne _ hj
  · rfl

theorem saveStrayChunk_local (k : Nat) (blob : List UInt8) : Local i n (n.saveStrayChunk i k blob) := by
  intro j hj
  unfold saveStrayChunk
  split
  · exact ⟨rfl, rfl, rfl⟩
  · exact .refl
  split
  · exact .refl
  · exact ⟨rfl, rfl, Table.get_put_ne _ _ hj⟩

theorem handleRetrieveChunk_local (idx : Int) (b64 : String) : Local i n (n.handleRetrieveChunk e i idx b64) := by
  unfold handleRetrieveChunk
  split
  · exact fun _ _ => .refl
  split
  · exact withDownloader_local _
  · exact saveStrayChunk_local _ _

theorem handleRetrieveChunk_keeps (idx : Int) (b64 : String) :
    (n.handleRetrieveChunk e i idx b64).chunkFiles = n.chunkFiles ∧
      (n.handleRetrieveChunk e i idx b64).pumps = n.pumps := by
  unfold handleRetrieveChunk
  split
  · exact ⟨rfl, rfl⟩
  split
  · exact ⟨rfl, rfl⟩
  unfold saveStrayChunk
  split
  · exact ⟨rfl, rfl⟩
  · exact ⟨rfl, rfl⟩
  · split <;> exact ⟨rfl, rfl⟩

theorem handleRetrieveOpen_rows (first last : Int) : (n.handleRetrieveOpen e peer i first last).rows = n.rows := by
  unfold handleRetrieveOpen
  split
  · rfl
  split
  · rfl
  split <;> rfl

theorem receiveChunk_rows (idx : Int) (b64 : String) : (n.receiveChunk e peer i idx b64).rows = n.rows := by
  unfold receiveChunk
  split
  · rfl
  split
  · rfl
  split
  · rfl
  split <;> rfl

theorem recordChunkAck_rows (idx : Int) (ok : Bool) : (n.recordChunkAck i idx ok).rows = n.rows := by
  unfold recordChunkAck
  split <;> rfl

/-! ## When an offer or a pause keeps the row of its own id -/

theorem put_spares_folder_iff {t : Table (String × Nat) (List UInt8)} {dir : String} {k : Nat}
    {blob : List UInt8} {watched : String → Prop} :
    (∀ d, watched d → ∀ j, (t.put (dir, k) blob).get (d, j) = t.get (d, j)) ↔
      (watched dir → t.get (dir, k) = some blob) := by
  have h := t.put_spares_iff (dir, k) blob fun key => watched key.1
  exact ⟨fun hd => h.mp fun key hw => hd key.1 hw key.2, fun hk d hw j => h.mpr hk (d, j) hw⟩

/-- `decrypt_chunk`, which raises for a negative index. -/
def decryptAt (e : Env) (key blob : List UInt8) : Int → Option (List UInt8)
  | .ofNat k => e.decryptChunk key blob k
  | .negSucc _ => none

theorem keptAt_putRow {row' : DepositRow} (hrow : n.rows.get id = some row) :
    KeptAt id n (n.putRow id row') ↔ row' = row := by
  constructor
  · intro h
    have hrows := h.rows
    rw [rows_putRow, Table.get_put_self, hrow] at hrows
    exact Option.some.inj hrows
  rintro rfl
  exact ⟨by rw [rows_putRow, Table.get_put_self, hrow], rfl, rfl⟩

theorem reoffered_ne {o : Offer} (h : row.status.reofferable) : reoffered e peer o row ≠ row := by
  intro heq
  have hstatus : row.status = .offered := by rw [← heq]; rfl
  rw [hstatus] at h
  cases h

theorem keptAt_handleOffer_iff (hrow : n.rows.get id = some row) (o : Offer) : KeptAt id n (n.handleOffer e peer id o) ↔
      id = "" ∨ offerRefusal e peer id o ≠ none ∨ ¬ row.status.reofferable := by
  unfold handleOffer
  by_cases hid : id = ""
  · simp only [hid, true_or, iff_true]
    exact .refl
  rw [if_neg hid]
  cases hr : offerRefusal e peer id o with
  | some refusal =>
    cases refusal with
    | some reason => simp [hid]; exact ⟨rfl, rfl, rfl⟩
    | none => simp [hid]; exact .refl
  | none =>
    simp only [hrow, hid, ne_eq, not_true_eq_false, false_or]
    split_ifs with hstatus
    · simp [keptAt_putRow hrow, reoffered_ne hstatus, hstatus]
    simp only [hstatus, Bool.false_eq_true, not_false_eq_true, iff_true]
    exact .refl

theorem keptAt_handlePause_iff (hrow : n.rows.get id = some row) (reason : String) :
    KeptAt id n (n.handlePause peer id reason) ↔
      id ≠ "" → peer = row.depositorUuid ∨ peer = row.hostUuid → row.status.settled ∨
        (row.status = .paused (if reason = "" then "silent" else reason) ∧
          row.pauseReason = if reason = "" then "silent" else reason) := by
  unfold handlePause
  rw [hrow]
  dsimp only
  generalize (if reason = "" then "silent" else reason) = r
  by_cases hid : id = ""
  · simp only [hid, ne_eq, not_true_eq_false, if_true, false_implies, iff_true]
    exact .refl
  rw [if_neg hid]
  split_ifs with hpeer hsettled
  · have hno : ¬ (peer = row.depositorUuid ∨ peer = row.hostUuid) := by tauto
    simp only [hno, false_implies, implies_true, iff_true]
    exact .refl
  · simp only [hsettled, true_or, implies_true, iff_true]
    exact .refl
  have hyes : peer = row.depositorUuid ∨ peer = row.hostUuid := by tauto
  rw [keptAt_putRow hrow]
  simp only [hid, ne_eq, not_false_eq_true, hyes, hsettled, Bool.false_eq_true, false_or, forall_const]
  constructor
  · intro h
    exact ⟨by rw [← h], by rw [← h]⟩
  rintro ⟨hstatus, hreason⟩
  rw [← hstatus, ← hreason]

theorem keptAt_iff_rows (hpumps : n'.pumps = n.pumps) (hkeys : n'.keys = n.keys) :
    KeptAt id n n' ↔ n'.rows.get id = n.rows.get id :=
  ⟨fun h => h.rows, fun h => ⟨h, by rw [hpumps], by rw [hkeys]⟩⟩

theorem handleOffer_pumps_keys (o : Offer) :
    (n.handleOffer e peer id o).pumps = n.pumps ∧ (n.handleOffer e peer id o).keys = n.keys := by
  unfold handleOffer
  split
  · exact ⟨rfl, rfl⟩
  split
  · exact ⟨rfl, rfl⟩
  · exact ⟨rfl, rfl⟩
  split
  · split <;> exact ⟨rfl, rfl⟩
  · exact ⟨rfl, rfl⟩

theorem rows_handleOffer_iff (hrow : n.rows.get id = some row) (o : Offer) :
    (n.handleOffer e peer id o).rows.get id = n.rows.get id ↔
      id = "" ∨ offerRefusal e peer id o ≠ none ∨ ¬ row.status.reofferable := by
  obtain ⟨hpumps, hkeys⟩ : (n.handleOffer e peer id o).pumps = n.pumps ∧
      (n.handleOffer e peer id o).keys = n.keys := handleOffer_pumps_keys o
  rw [← keptAt_handleOffer_iff hrow o, keptAt_iff_rows hpumps hkeys]

theorem handlePause_pumps_keys (reason : String) :
    (n.handlePause peer id reason).pumps = n.pumps ∧ (n.handlePause peer id reason).keys = n.keys := by
  unfold handlePause
  split
  · exact ⟨rfl, rfl⟩
  split
  · exact ⟨rfl, rfl⟩
  dsimp only
  split
  · exact ⟨rfl, rfl⟩
  split <;> exact ⟨rfl, rfl⟩

theorem rows_handlePause_iff (hrow : n.rows.get id = some row) (reason : String) :
    (n.handlePause peer id reason).rows.get id = n.rows.get id ↔
      (id ≠ "" → peer = row.depositorUuid ∨ peer = row.hostUuid → row.status.settled ∨
        (row.status = .paused (if reason = "" then "silent" else reason) ∧
          row.pauseReason = if reason = "" then "silent" else reason)) := by
  obtain ⟨hpumps, hkeys⟩ : (n.handlePause peer id reason).pumps = n.pumps ∧
      (n.handlePause peer id reason).keys = n.keys := handlePause_pumps_keys reason
  rw [← keptAt_handlePause_iff hrow reason, keptAt_iff_rows hpumps hkeys]

end Node

end NexusGrid.Storage

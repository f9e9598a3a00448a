import NexusGrid.Storage.Reach

/-! # A hosted deposit and the frames of other peers

Only the depositor of a hosted deposit should be able to change it.
-/

namespace NexusGrid.Storage

open Lib

namespace Node

variable {e : Env} {n n' : Node} {peer id i : String} {row : DepositRow}

/-! ## A hosted deposit -/

/-- The directory its id and depositor give, and the one in its pump entry. -/
def chunkDirs (e : Env) (n : Node) (id : String) (row : DepositRow) : List String :=
  e.depositDir id row.depositorUuid :: ((n.pumps.get id).filter (·.role = .host)).toList.map PumpEntry.dir

/-- The row, the pump entry, the key and the chunk files are as before. -/
structure HostSpared (dirs : List String) (id : String) (n n' : Node) : Prop where
  kept : KeptAt id n n'
  chunkFiles : ∀ dir ∈ dirs, ∀ k, n'.chunkFiles.get (dir, k) = n.chunkFiles.get (dir, k)

def WipeSafe (e : Env) (n : Node) (dirs : List String) (dir : String) : Prop :=
  dir ∈ dirs → ∀ k, (n.chunkFiles.get (dir, k)).isSome → ¬ e.unlink (dir, k)

/-- A chunk frame for the deposit `i` writes nothing new to the deposit `id`. -/
def ChunkSafe (e : Env) (n : Node) (dirs : List String) (id i : String) (k : Nat) (b64 : String) : Prop :=
  ∀ p blob, landing e n i k b64 = .ok (p, blob) →
    match e.write with
    | .done => (p.dir ∈ dirs → n.chunkFiles.get (p.dir, k) = some blob) ∧ (i = id → p.received e.now k = p)
    | .failed left => ∀ b, left = some b → p.dir ∈ dirs → n.chunkFiles.get (p.dir, k) = some b

def cloudEvicted (e : Env) (n : Node) (peer id : String) (c : CloudFields) (row : DepositRow) : DepositRow :=
  match checkCloudFields e peer c with
  | .error _ => inGrace e row
  | .ok () =>
    match uploadChunks e n id c row with
    | .error _ => inGrace e (evictingToCloud c row)
    | .ok objectId => purgedToCloud e objectId (evictingToCloud c row)

/-- There is no download, or its counters do not move. -/
def EntrySafe (e : Env) (entry : SessionKey) (idx : Int) (blob : List UInt8) : Prop :=
  match entry.rawDir with
  | some _ =>
    if entry.dlTotalChunks = 0 then entry.dlBytes = blob.length
    else blob = [] ∧ idx + 1 < entry.dlTotalChunks
  | none => ∀ key, entry.key = some key → entry.saveTo ≠ "" → ∀ plaintext,
      decryptAt e key blob idx = some plaintext → 0 < entry.dlTotalChunks →
      plaintext = [] ∧ ¬ (entry.dlTotalChunks ≤ idx + 1 ∧ entry.deleteAfterDownload)

/-- The frames of a peer other than the depositor that a hosted deposit is safe from. -/
def HostSafe (e : Env) (n : Node) (peer id : String) (row : DepositRow) (frame : StorageFrame) : Prop :=
  let dirs := chunkDirs e n id row
  let own := frame.depositId = id
  match frame.body with
  | .offer o => own → id = "" ∨ offerRefusal e peer id o ≠ none ∨ ¬ row.status.reofferable
  | .chunk (.ofNat k) b64 => frame.depositId = "" ∨ ChunkSafe e n dirs id frame.depositId k b64
  | .chunkAck idx ok => own → ∀ p, n.pumps.get id = some p → p.recordChunkAck idx ok = p
  | .complete final => own → missingOf e n id row ≠ [] ∨ ∀ row', completed e final row = some row' → row' = row
  | .evictionResponse action c =>
    if action = "cloud" then
      (own → cloudEvicted e n peer id c row = row) ∧
      (∀ r, commitCloudPurge e n peer frame.depositId c = .ok r → WipeSafe e n dirs (n.pumpDir frame.depositId))
    else own → action = "let_go" → inGrace e row = row
  | .retrieveChunk idx b64 => own → ∀ blob entry, e.b64decode b64 = some blob →
      n.streamQueues.get id = none → n.keys.get id = some entry → EntrySafe e entry idx blob
  -- Only its own depositor deletes a deposit; that of another one may share the directory.
  | .deleteNow => ∀ row', n.row? .host frame.depositId = some row' → row'.depositorUuid = peer →
      WipeSafe e n dirs (n.pumpDir frame.depositId)
  -- A pause is also taken from the host's own id, which the row has as `host_uuid`.
  | .pause reason => own → id ≠ "" → peer = row.hostUuid → row.status.settled ∨
      (row.status = .paused (if reason = "" then "silent" else reason) ∧
        row.pauseReason = if reason = "" then "silent" else reason)
  | _ => True

/-! ### Quiet frames -/

theorem Quiet.hostSpared_iff {dirs : List String} (h : Quiet i n n') :
    HostSpared dirs id n n' ↔ (i = id → KeptAt id n n') := by
  constructor
  · exact fun hs _ => hs.kept
  intro hown
  refine ⟨?_, fun dir _ k => by rw [h.chunkFiles]⟩
  by_cases hi : i = id
  · exact hown hi
  · exact h.elsewhere id (Ne.symm hi)

section

variable (hrow : n.rows.get id = some row) (hrole : row.role = .host)
include hrow hrole

theorem rewriteRow_of_host (f : DepositRow → DepositRow) : n.rewriteRow id f = n := by
  have hnone : n.row? .depositor id = none := row?_eq_none hrow hrole nofun
  unfold rewriteRow
  rw [hnone]

/-! ### Offers and completions -/

theorem keptAt_handleComplete_iff (final : String) : KeptAt id n (n.handleComplete e peer id final) ↔
      missingOf e n id row ≠ [] ∨ ∀ row', completed e final row = some row' → row' = row := by
  unfold handleComplete
  rw [row?_eq_some hrow hrole]
  dsimp only
  split_ifs with hmissing
  · simp only [hmissing, not_false_eq_true, ne_eq, true_or, iff_true]
    exact ⟨rfl, rfl, rfl⟩
  simp only [hmissing, false_or]
  cases hc : completed e final row with
  | none => simpa using KeptAt.refl
  | some row' => simp [keptAt_putRow hrow]

omit hrow hrole in
theorem keptAt_recordChunkAck_iff (idx : Int) (ok : Bool) : KeptAt id n (n.recordChunkAck id idx ok) ↔
      ∀ p, n.pumps.get id = some p → p.recordChunkAck idx ok = p := by
  unfold recordChunkAck
  cases hp : n.pumps.get id with
  | none => simpa using KeptAt.refl
  | some p =>
    simp only [Option.some.injEq, forall_eq']
    constructor
    · intro h
      have hpumps := h.pumps
      rw [Table.get_put_self, hp] at hpumps
      exact Option.some.inj hpumps
    intro h
    exact ⟨rfl, by dsimp only; rw [Table.get_put_self, hp, h], rfl⟩

/-! ### Chunk files -/

omit hrow hrole in
theorem get_wipe (unlink : String × Nat → Bool) (dir d : String) (k : Nat) : (n.wipe unlink dir).chunkFiles.get (d, k) =
      if d = dir ∧ unlink (d, k) then none else n.chunkFiles.get (d, k) := by
  dsimp only [wipe]
  rw [Table.get_deleteWhere]
  cases n.chunkFiles.get (d, k) with
  | none => simp
  | some blob =>
    by_cases hd : d = dir
    · subst hd
      cases unlink (d, k) <;> simp
    · simp [hd]

omit hrow hrole in
theorem wipe_spares_iff {dirs : List String} {dir : String} :
    (∀ d ∈ dirs, ∀ k, (n.wipe e.unlink dir).chunkFiles.get (d, k) = n.chunkFiles.get (d, k)) ↔
      WipeSafe e n dirs dir := by
  simp only [get_wipe]
  constructor
  · intro h hdir k hsome hunlink
    have hk := h dir hdir k
    rw [if_pos ⟨rfl, hunlink⟩] at hk
    rw [← hk] at hsome
    cases hsome
  intro h d hd k
  split_ifs with hgone
  · obtain ⟨rfl, hunlink⟩ := hgone
    cases hget : n.chunkFiles.get (d, k) with
    | none => rfl
    | some blob => exact absurd hunlink (h hd k (by rw [hget]; rfl))
  · rfl

omit hrow hrole in
theorem pumps_of_landing {k : Nat} {b64 : String} {p : PumpEntry} {blob : List UInt8}
    (h : landing e n i k b64 = .ok (p, blob)) : n.pumps.get i = some p := by
  unfold landing at h
  cases hp : n.pumps.get i with
  | none =>
    rw [hp] at h
    cases h
  | some q =>
    rw [hp] at h
    dsimp only at h
    split_ifs at h
    cases hb : e.b64decode b64 with
    | none =>
      rw [hb] at h
      cases h
    | some b =>
      rw [hb] at h
      cases h
      rfl

omit hrow hrole in
/-- When `receive_chunk` spares a deposit. -/
theorem receiveChunk_spares_iff {dirs : List String} {k : Nat} {b64 : String} :
    HostSpared dirs id n (n.receiveChunk e peer i (.ofNat k) b64) ↔ i = "" ∨ ChunkSafe e n dirs id i k b64 := by
  by_cases hid : i = ""
  · simp only [receiveChunk, hid, if_true, true_or, iff_true]
    exact ⟨.refl, fun _ _ _ => rfl⟩
  unfold ChunkSafe
  cases hland : landing e n i k b64 with
  | error reason =>
    simp only [receiveChunk, hid, if_false, hland, reduceCtorEq, false_implies, implies_true, or_true, iff_true]
    exact ⟨⟨rfl, rfl, rfl⟩, fun _ _ _ => rfl⟩
  | ok r =>
    obtain ⟨p, blob⟩ := r
    have hp : n.pumps.get i = some p := pumps_of_landing hland
    have hone (P : PumpEntry → List UInt8 → Prop) :
        (∀ p' b, (Except.ok (p, blob) : Except String _) = .ok (p', b) → P p' b) ↔ P p blob :=
      ⟨fun h => h p blob rfl, fun h p' b heq => by cases heq; exact h⟩
    rw [hone]
    simp only [hid, false_or]
    cases hw : e.write with
    | done =>
      simp only [receiveChunk, hid, if_false, hland, hw]
      rw [← put_spares_folder_iff]
      constructor
      · intro h
        refine ⟨h.chunkFiles, ?_⟩
        rintro rfl
        have hpumps := h.kept.pumps
        rw [Table.get_put_self, hp] at hpumps
        exact Option.some.inj hpumps
      rintro ⟨hfiles, hpump⟩
      refine ⟨⟨rfl, ?_, rfl⟩, hfiles⟩
      by_cases hi : i = id
      · subst hi
        rw [Table.get_put_self, hp, hpump rfl]
      · exact Table.get_put_ne _ _ (Ne.symm hi)
    | failed left =>
      simp only [receiveChunk, hid, if_false, hland, hw]
      cases left with
      | none =>
        simp only [Option.map_none, Option.getD_none, reduceCtorEq, false_implies, implies_true, iff_true]
        exact ⟨⟨rfl, rfl, rfl⟩, fun _ _ _ => rfl⟩
      | some b =>
        simp only [Option.map_some, Option.getD_some, Option.some.injEq, forall_eq']
        rw [← put_spares_folder_iff]
        exact ⟨fun h => h.chunkFiles, fun h => ⟨⟨rfl, rfl, rfl⟩, h⟩⟩

/-! ### Evictions and deletions -/

theorem rows_evictToCloud (c : CloudFields) :
    (n.evictToCloud e peer id c).rows.get id = some (cloudEvicted e n peer id c row) := by
  have hhost : n.row? .host id = some row := row?_eq_some hrow hrole
  unfold evictToCloud commitCloudPurge cloudEvicted
  cases checkCloudFields e peer c with
  | error reason =>
    simp only [cloudEvictionFail, hhost]
    exact Table.get_put_self _ _ _
  | ok _ =>
    have hstarted : (n.putRow id (evictingToCloud c row)).row? .host id =
        some (evictingToCloud c row) := row?_eq_some (Table.get_put_self _ _ _) hrole
    have hup : uploadChunks e (n.putRow id (evictingToCloud c row)) id c row = uploadChunks e n id c row := rfl
    simp only [hhost, hup]
    cases uploadChunks e n id c row with
    | error reason =>
      simp only [cloudEvictionFail, hstarted]
      exact Table.get_put_self _ _ _
    | ok objectId => exact Table.get_put_self _ _ _

omit hrow hrole in
theorem evictToCloud_pumps_keys (c : CloudFields) :
    (n.evictToCloud e peer i c).pumps = n.pumps ∧ (n.evictToCloud e peer i c).keys = n.keys := by
  unfold evictToCloud commitCloudPurge
  cases checkCloudFields e peer c with
  | error reason =>
    dsimp only [cloudEvictionFail]
    cases n.row? .host i <;> exact ⟨rfl, rfl⟩
  | ok _ =>
    cases n.row? .host i with
    | none =>
      dsimp only [cloudEvictionFail]
      cases n.row? .host i <;> exact ⟨rfl, rfl⟩
    | some row =>
      dsimp only
      cases uploadChunks e (n.putRow i (evictingToCloud c row)) i c row with
      | error reason =>
        dsimp only [cloudEvictionFail]
        cases (n.putRow i (evictingToCloud c row)).row? .host i <;> exact ⟨rfl, rfl⟩
      | ok objectId => exact ⟨rfl, rfl⟩

theorem keptAt_evictToCloud_iff (c : CloudFields) :
    KeptAt id n (n.evictToCloud e peer id c) ↔ cloudEvicted e n peer id c row = row := by
  have hafter : (n.evictToCloud e peer id c).rows.get id = some (cloudEvicted e n peer id c row) :=
    rows_evictToCloud hrow hrole c
  have hrest : (n.evictToCloud e peer id c).pumps = n.pumps ∧ (n.evictToCloud e peer id c).keys = n.keys :=
    evictToCloud_pumps_keys c
  constructor
  · intro h
    have hrows := h.rows
    rw [hafter, hrow] at hrows
    exact Option.some.inj hrows
  intro h
  exact ⟨by rw [hafter, hrow, h], by rw [hrest.1], by rw [hrest.2]⟩

omit hrow hrole in
theorem handleEvictionResponse_cloud (c : CloudFields) :
    n.handleEvictionResponse e peer id "cloud" c = n.evictToCloud e peer id c := by
  unfold handleEvictionResponse
  rw [if_pos rfl]

/-- When a cloud eviction of `i` spares the deposit `id`. -/
theorem evictToCloud_spares_iff {dirs : List String} (c : CloudFields) :
    HostSpared dirs id n (n.evictToCloud e peer i c) ↔
      (i = id → cloudEvicted e n peer id c row = row) ∧
      (∀ r, commitCloudPurge e n peer i c = .ok r → WipeSafe e n dirs (n.pumpDir i)) := by
  cases hc : commitCloudPurge e n peer i c with
  | error r =>
    rw [(evictToCloud_of_error hc).hostSpared_iff]
    simp only [reduceCtorEq, false_implies, implies_true, and_true]
    refine forall_congr' fun hi => ?_
    subst hi
    exact keptAt_evictToCloud_iff hrow hrole c
  | ok r =>
    obtain ⟨hlocal, -, hfiles⟩ := evictToCloud_of_ok hc
    simp only [Except.ok.injEq, forall_eq']
    rw [← wipe_spares_iff]
    constructor
    · rintro ⟨hkept, hdisk⟩
      refine ⟨?_, fun d hd k => by rw [← hdisk d hd k, hfiles]⟩
      rintro rfl
      exact (keptAt_evictToCloud_iff hrow hrole c).mp hkept
    rintro ⟨hown, hdisk⟩
    refine ⟨?_, fun d hd k => by rw [hfiles, hdisk d hd k]⟩
    by_cases hi : i = id
    · subst hi
      exact (keptAt_evictToCloud_iff hrow hrole c).mpr (hown rfl)
    · exact hlocal id (Ne.symm hi)

omit hrow hrole in
theorem handleEvictionResponse_quiet {action : String} (h : action ≠ "cloud") (c : CloudFields) :
    Quiet i n (n.handleEvictionResponse e peer i action c) := by
  unfold handleEvictionResponse
  rw [if_neg h]
  split
  · exact .refl
  split_ifs
  · exact .putRow
  · exact .refl

theorem keptAt_handleEvictionResponse_iff {action : String} (h : action ≠ "cloud") (c : CloudFields) :
    KeptAt id n (n.handleEvictionResponse e peer id action c) ↔ (action = "let_go" → inGrace e row = row) := by
  have hhost : n.row? .host id = some row := row?_eq_some hrow hrole
  unfold handleEvictionResponse
  rw [if_neg h, hhost]
  split_ifs with hgo
  · simp [keptAt_putRow hrow, hgo]
  simp only [hgo, false_implies, iff_true]
  exact .refl

omit hrow hrole in
/-- A deletion by another peer reaches the deposit only through a shared directory. -/
theorem handleDeleteNow_spares_iff {dirs : List String} (hrow : n.rows.get id = some row)
    (hpeer : peer ≠ row.depositorUuid) : HostSpared dirs id n (n.handleDeleteNow e peer i) ↔
      ∀ row', n.row? .host i = some row' → row'.depositorUuid = peer → WipeSafe e n dirs (n.pumpDir i) := by
  have hfiles : (n.handleDeleteNow e peer i).chunkFiles = _ := handleDeleteNow_chunkFiles
  have hkept : KeptAt id n (n.handleDeleteNow e peer i) := by
    by_cases hi : i = id
    · subst hi
      have hnone : commitDelete e n peer i = none := by
        unfold commitDelete row?
        rw [hrow]
        by_cases hrole : row.role = .host
        · simp [Option.filter, hrole, Ne.symm hpeer]
        · simp [Option.filter, hrole]
      unfold handleDeleteNow
      rw [hnone]
      exact .refl
    · exact handleDeleteNow_local id (Ne.symm hi)
  by_cases hown : ∃ row', n.row? .host i = some row' ∧ row'.depositorUuid = peer
  · rw [if_pos hown] at hfiles
    obtain ⟨row', hrow', hdep⟩ := hown
    constructor
    · intro h _ _ _
      exact wipe_spares_iff.mp fun d hd k => by rw [← hfiles, h.chunkFiles d hd k]
    intro h
    exact ⟨hkept, fun d hd k => by rw [hfiles, wipe_spares_iff.mpr (h row' hrow' hdep) d hd k]⟩
  rw [if_neg hown] at hfiles
  constructor
  · exact fun _ row' hrow' hdep => absurd ⟨row', hrow', hdep⟩ hown
  · exact fun _ => ⟨hkept, fun d _ k => by rw [hfiles]⟩

/-! ### Downloaded chunks -/

omit hrow hrole in
theorem keys_withDownloader {entry : SessionKey} (hentry : n.keys.get id = some entry) (d : Downloader) :
    (n.withDownloader id d).keys.get id = d.cached.map fun c => { entry with toKeyEntry := c } := by
  unfold withDownloader
  simp only [hentry]
  cases d.cached with
  | none => simp [Table.get_delete]
  | some c => simp

omit hrow hrole in
theorem keys_withDownloader_none (hentry : n.keys.get id = none) (d : Downloader) :
    (n.withDownloader id d).keys = n.keys := by
  unfold withDownloader
  simp only [hentry]

omit hrow hrole in
theorem rows_withDownloader_none (hrow : n.row? .depositor id = none) (d : Downloader) :
    (n.withDownloader id d).rows = n.rows := by
  unfold withDownloader
  simp only [hrow]

omit hrow hrole in
/-- The cached entry of a download without a row. -/
theorem handleRetrieveChunk_cached_iff {d : Downloader} {entry : SessionKey} (hrow : d.row = none)
    (hqueue : d.streamQueue = none) (hcached : d.cached = some entry.toKeyEntry) (k : Nat) (blob : List UInt8) :
    (d.handleRetrieveChunk e.decryptChunk ⟨k, blob⟩).cached = some entry.toKeyEntry ↔ EntrySafe e entry k blob := by
  obtain ⟨⟨key, saveTo, rawDir, total, bytes, delete⟩, path⟩ := entry
  unfold Downloader.handleRetrieveChunk EntrySafe
  simp only [hqueue, hcached]
  cases rawDir with
  | some dir =>
    -- Without a row the chunk count stays unknown, and the counter starts over with every chunk.
    simp only [Downloader.saveRawChunk, hrow, Option.map_none, Option.getD_none]
    by_cases h0 : total = 0
    · subst h0
      simp [eq_comm]
    by_cases hfin : total ≤ k + 1
    · have hfin' : ¬ ((k : Int) + 1 < total) := by omega
      simp [h0, hfin, hfin', Nat.pos_of_ne_zero h0]
    have hfin' : (k : Int) + 1 < total := by omega
    simp [h0, hfin, hfin']
  | none =>
    cases key with
    | none => simp [hcached]
    | some key =>
      by_cases hsave : saveTo = ""
      · simp [hsave, hcached]
      cases hdec : e.decryptChunk key blob k with
      | none => simp [hsave, hcached, decryptAt, hdec]
      | some plaintext =>
        simp only [hsave, if_false, Downloader.appendBytes, Downloader.progress, hrow,
          Downloader.finishDownload, decryptAt, hdec]
        by_cases h0 : total = 0
        · subst h0
          simp
        obtain ⟨m, rfl⟩ := Nat.exists_eq_succ_of_ne_zero h0
        by_cases hfin : m ≤ k
        · have hfin' : (m : Int) ≤ k := by omega
          cases delete <;> simp [hfin, hfin', hsave, hdec]
        have hfin' : ¬ (m : Int) ≤ k := by omega
        simp [hfin, hfin', hsave, hdec]

omit hrow hrole in
theorem keptAt_saveStrayChunk_iff (hrow : n.row? .depositor id = none) (k : Nat) (blob : List UInt8) :
    KeptAt id n (n.saveStrayChunk id k blob) ↔ ∀ entry, n.streamQueues.get id = none → n.keys.get id = some entry →
        EntrySafe e entry (.negSucc k) blob := by
  unfold saveStrayChunk EntrySafe
  cases hqueue : n.streamQueues.get id with
  | some queue =>
    simp only [reduceCtorEq, false_implies, implies_true, iff_true]
    exact ⟨rfl, rfl, rfl⟩
  | none =>
    cases hentry : n.keys.get id with
    | none =>
      simp only [reduceCtorEq, false_implies, implies_true, iff_true]
      exact .refl
    | some entry =>
      simp only [forall_const, Option.some.injEq, forall_eq']
      obtain ⟨⟨key, saveTo, rawDir, total, bytes, delete⟩, path⟩ := entry
      cases rawDir with
      | none =>
        simp only [decryptAt, reduceCtorEq, false_implies, implies_true, iff_true]
        exact .refl
      | some dir =>
        simp only [hrow, Option.map_none, Option.getD_none]
        have hneg : Int.negSucc k + 1 < (total : Int) ↔ total ≠ 0 ∨ 0 < k := by omega
        constructor
        · intro h
          have hkeys := h.keys
          rw [Table.get_put_self, hentry] at hkeys
          split_ifs with h0
          · subst h0
            simp at hkeys
            omega
          simp [h0] at hkeys
          exact ⟨hkeys, hneg.mpr (.inl h0)⟩
        · intro h
          refine ⟨rfl, rfl, ?_⟩
          rw [Table.get_put_self, hentry]
          split_ifs at h with h0
          · subst h0
            simp [h]
          · simp [h0, h.1]

omit hrow hrole in
theorem keptAt_handleRetrieveChunk_iff (hrow : n.row? .depositor id = none) (idx : Int) (b64 : String) :
    KeptAt id n (n.handleRetrieveChunk e id idx b64) ↔
      ∀ blob entry, e.b64decode b64 = some blob → n.streamQueues.get id = none →
        n.keys.get id = some entry → EntrySafe e entry idx blob := by
  have hpumps : (n.handleRetrieveChunk e id idx b64).pumps = n.pumps := (handleRetrieveChunk_keeps idx b64).2
  unfold handleRetrieveChunk at hpumps ⊢
  cases hb : e.b64decode b64 with
  | none =>
    simp only [reduceCtorEq, false_implies, implies_true, iff_true]
    exact .refl
  | some blob =>
    simp only [Option.some.injEq]
    cases idx with
    | negSucc k =>
      rw [keptAt_saveStrayChunk_iff hrow]
      exact ⟨fun h b entry hb' => hb' ▸ h entry, fun h entry => h blob entry rfl⟩
    | ofNat k =>
      set d := (n.downloader id).handleRetrieveChunk e.decryptChunk ⟨k, blob⟩ with hd
      have hrows : (n.withDownloader id d).rows = n.rows := rows_withDownloader_none hrow d
      cases hentry : n.keys.get id with
      | none =>
        simp only [reduceCtorEq, false_implies, implies_true, iff_true]
        exact ⟨by rw [hrows], rfl, by rw [keys_withDownloader_none hentry]⟩
      | some entry =>
        have hkeys := keys_withDownloader hentry d
        have hcached : (n.downloader id).cached = some entry.toKeyEntry := by simp [downloader, hentry]
        have hiff : KeptAt id n (n.withDownloader id d) ↔ d.cached = some entry.toKeyEntry := by
          constructor
          · intro h
            have hk := h.keys
            rw [hkeys, hentry] at hk
            obtain ⟨c, hc, hce⟩ := Option.map_eq_some_iff.mp hk
            rw [hc, ← hce]
          · intro h
            exact ⟨by rw [hrows], rfl, by rw [hkeys, h, hentry]; rfl⟩
        rw [hiff, hd]
        cases hqueue : n.streamQueues.get id with
        | some queue =>
          simp only [reduceCtorEq, false_implies, implies_true, iff_true]
          unfold Downloader.handleRetrieveChunk
          simp [downloader, hqueue, hentry]
        | none =>
          rw [handleRetrieveChunk_cached_iff (by simp [downloader, hrow]) (by simp [downloader, hqueue])
            hcached]
          simp

/-! ### The result -/

/-- Handlers that do nothing to a hosted deposit. -/
theorem keptAt_of_checked (hpeer : peer ≠ row.depositorUuid) :
    KeptAt id n (n.handleOfferCancelled peer id) ∧ KeptAt id n (n.handleResumeRequest e peer id) ∧
      KeptAt id n (n.handleViewRevoke peer id) := by
  have hhost : n.row? .host id = some row := row?_eq_some hrow hrole
  simp only [handleOfferCancelled, handleResumeRequest, handleViewRevoke, hhost, ne_eq,
    Ne.symm hpeer, not_false_eq_true, if_true, ite_self]
  exact ⟨.refl, .refl, .refl⟩

theorem keptAt_handleViewGrant (hpeer : peer ≠ row.depositorUuid) (nonce blob sealedManifest : String) :
    KeptAt id n (n.handleViewGrant e peer id nonce blob sealedManifest) := by
  have hhost : n.row? .host id = some row := row?_eq_some hrow hrole
  simp only [handleViewGrant, hhost, ne_eq, Ne.symm hpeer, not_false_eq_true, if_true]
  split_ifs <;> exact ⟨rfl, rfl, rfl⟩

omit hrow hrole in
theorem keptAt_handleRetrieveOpen (first last : Int) : KeptAt id n (n.handleRetrieveOpen e peer id first last) := by
  unfold handleRetrieveOpen
  split
  · exact .refl
  split
  · exact .refl
  split
  · exact .refl
  · exact ⟨rfl, rfl, rfl⟩

theorem keptAt_of_depositorOnly : (∀ accepted sig, KeptAt id n (n.handleOfferResponse peer id accepted sig)) ∧
    (∀ received, KeptAt id n (n.handleResumeReply peer id received)) ∧
    (∀ missing, KeptAt id n (n.handleMissingChunks e peer id missing)) := by
  have hnone : n.row? .depositor id = none := row?_eq_none hrow hrole nofun
  simp only [handleOfferResponse, handleResumeReply, handleMissingChunks, hnone, ite_self]
  exact ⟨fun _ _ => .refl, fun _ => .refl, fun _ => .refl⟩

end

/-- **A frame of a peer other than the depositor leaves a hosted deposit alone exactly when it is
`HostSafe`.** -/
theorem third_party_spares_hosted_iff (e : Env) (n : Node) (peer id : String) (row : DepositRow)
    (frame : StorageFrame) (hrow : n.rows.get id = some row) (hrole : row.role = .host)
    (hpeer : peer ≠ row.depositorUuid) :
    HostSpared (chunkDirs e n id row) id n (n.dispatchStorageFrame e peer frame) ↔ HostSafe e n peer id row frame := by
  obtain ⟨i, body⟩ := frame
  have hkept {m : Node} {P : Prop} (h : Quiet i n m) (hiff : i = id → (KeptAt id n m ↔ P)) :
      HostSpared (chunkDirs e n id row) id n m ↔ (i = id → P) := h.hostSpared_iff.trans (forall_congr' hiff)
  have hquiet {m : Node} (h : Quiet i n m) (hrows : n.rows.get i = some row → KeptAt i n m) :
      HostSpared (chunkDirs e n id row) id n m ↔ True := by
    refine iff_of_true (h.hostSpared_iff.mpr ?_) trivial
    rintro rfl
    exact hrows hrow
  have hrewrite (f : DepositRow → DepositRow) : HostSpared (chunkDirs e n id row) id n (n.rewriteRow i f) ↔ True := by
    refine hquiet (rewriteRow_quiet f) fun hrow => ?_
    rw [rewriteRow_of_host hrow hrole]
    exact .refl
  have hsame : HostSpared (chunkDirs e n id row) id n n ↔ True := iff_of_true ⟨.refl, fun _ _ _ => rfl⟩ trivial
  have hguarded (f : DepositRow → DepositRow) :
      HostSpared (chunkDirs e n id row) id n (if i = "" then n else n.rewriteRow i f) ↔ True := by
    split_ifs
    · exact hsame
    · exact hrewrite f
  cases body with
  -- The handlers that do not look at the sender, or not only for the depositor.
  | offer o => exact hkept (handleOffer_quiet o) fun hi => by subst hi; exact keptAt_handleOffer_iff hrow o
  | chunk idx b64 =>
    cases idx with
    | ofNat k => exact receiveChunk_spares_iff
    | negSucc k =>
      dsimp only [dispatchStorageFrame, HostSafe, receiveChunk]
      simpa using hsame
  | chunkAck idx ok =>
    exact hkept (recordChunkAck_quiet idx ok) fun hi => by subst hi; exact keptAt_recordChunkAck_iff idx ok
  | complete final =>
    exact hkept (handleComplete_quiet final) fun hi => by subst hi; exact keptAt_handleComplete_iff hrow hrole final
  | evictionResponse action c =>
    dsimp only [dispatchStorageFrame, HostSafe]
    by_cases hcloud : action = "cloud"
    · subst hcloud
      rw [if_pos rfl, handleEvictionResponse_cloud]
      exact evictToCloud_spares_iff hrow hrole c
    rw [if_neg hcloud]
    exact hkept (handleEvictionResponse_quiet hcloud c) fun hi => by
      subst hi; exact keptAt_handleEvictionResponse_iff hrow hrole hcloud c
  | retrieveChunk idx b64 =>
    dsimp only [dispatchStorageFrame, HostSafe]
    have hnone : n.row? .depositor id = none := row?_eq_none hrow hrole nofun
    constructor
    · rintro h rfl
      exact (keptAt_handleRetrieveChunk_iff hnone idx b64).mp h.kept
    intro h
    refine ⟨?_, fun dir _ k => by rw [(handleRetrieveChunk_keeps _ _).1]⟩
    by_cases hi : i = id
    · subst hi
      exact (keptAt_handleRetrieveChunk_iff hnone idx b64).mpr (h rfl)
    · exact handleRetrieveChunk_local idx b64 id (Ne.symm hi)
  | deleteNow => exact handleDeleteNow_spares_iff hrow hpeer
  | pause reason =>
    refine hkept (handlePause_quiet reason) fun hi => ?_
    subst hi
    refine (keptAt_handlePause_iff hrow reason).trans ?_
    simp only [hpeer, false_or]
  -- The handlers that look for a depositor's row, and find none.
  | offerResponse accepted sig =>
    exact hquiet (handleOfferResponse_quiet accepted sig) fun hrow =>
      (keptAt_of_depositorOnly (e := e) hrow hrole).1 accepted sig
  | resumeReply received =>
    exact hquiet (handleResumeReply_quiet received) fun hrow =>
      (keptAt_of_depositorOnly (e := e) hrow hrole).2.1 received
  | missingChunks missing =>
    exact hquiet (handleMissingChunks_quiet missing) fun hrow => (keptAt_of_depositorOnly hrow hrole).2.2 missing
  -- The handlers that compare the sender with the row.
  | offerCancelled reason =>
    exact hquiet handleOfferCancelled_quiet fun hrow => (keptAt_of_checked (e := e) hrow hrole hpeer).1
  | resumeRequest =>
    exact hquiet handleResumeRequest_quiet fun hrow => (keptAt_of_checked hrow hrole hpeer).2.1
  | viewRevoke =>
    exact hquiet handleViewRevoke_quiet fun hrow => (keptAt_of_checked (e := e) hrow hrole hpeer).2.2
  | viewGrant nonce blob sealedManifest =>
    exact hquiet (handleViewGrant_quiet nonce blob sealedManifest) fun hrow =>
      keptAt_handleViewGrant hrow hrole hpeer nonce blob sealedManifest
  | retrieveOpen first last =>
    exact hquiet (handleRetrieveOpen_quiet first last) fun _ => keptAt_handleRetrieveOpen first last
  -- The handlers that rewrite a depositor's row.
  | offerRejected reason => exact hguarded _
  | evictionCancelled => exact hguarded _
  | viewGrantAccepted => exact hguarded _
  | viewGrantRejected reason => exact hguarded _
  | evictionRequest totalDays => exact hrewrite _
  | cloudUploadComplete objectId => exact hrewrite _
  | cloudUploadProgress bytesSent totalBytes => exact hsame
  | cloudUploadFailed reason => exact hsame
  | tripwireFired changed => exact hsame
  | other type => exact hsame

/-- A stranger cannot delete a stored deposit. -/
theorem third_party_spares_hosted_iff_delete :
    HostSpared (chunkDirs .plain (hosting .stored) "d" (.plain .host .stored)) "d" (hosting .stored)
      ((hosting .stored).dispatchStorageFrame .plain "stranger" ⟨"d", .deleteNow⟩) := by
  refine (third_party_spares_hosted_iff .plain (hosting .stored) "stranger" "d" (.plain .host .stored)
    ⟨"d", .deleteNow⟩ rfl rfl (by decide)).mpr ?_
  intro row' hrow' hdep
  cases hrow'
  exact absurd hdep (by decide)

theorem stranger_overwrites_and_lets_go : (hosting .stored).rows.get "d" = some (.plain .host .stored) ∧
    "stranger" ≠ (DepositRow.plain .host .stored).depositorUuid ∧
    ¬ HostSpared (chunkDirs .plain (hosting .stored) "d" (.plain .host .stored)) "d" (hosting .stored)
      ((hosting .stored).dispatchStorageFrame .plain "stranger" ⟨"d", .chunk 0 "AA=="⟩) ∧
    ¬ HostSpared (chunkDirs .plain (hosting .stored) "d" (.plain .host .stored)) "d" (hosting .stored)
      ((hosting .stored).dispatchStorageFrame .plain "stranger"
        ⟨"d", .evictionResponse "let_go" ⟨"", "", "", ""⟩⟩) := by
  refine ⟨rfl, by decide, fun h => ?_, fun h => ?_⟩
  · have hfile := h.chunkFiles "depositor/d" (by decide) 0
    revert hfile
    decide +kernel
  have hrow := h.kept.rows
  revert hrow
  decide +kernel

end Node

end NexusGrid.Storage

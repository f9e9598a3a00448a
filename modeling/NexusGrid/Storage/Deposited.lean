import NexusGrid.Storage.Reach

/-! # A deposit and the frames of peers other than its host

The depositor's row should only follow what the host it is assigned to reports.
-/

namespace NexusGrid.Storage

open Lib

namespace Downloader

variable {decryptChunk : List UInt8 → List UInt8 → Nat → Option (List UInt8)} {d : Downloader}
  {entry : KeyEntry} {k : Nat} {blob : List UInt8}

/-- The chunk count that a download goes by: the one it has learnt, or that of the row. -/
def total (d : Downloader) (entry : KeyEntry) : Nat :=
  if entry.dlTotalChunks = 0 then (d.row.map DownloadRow.chunkCount).getD 0 else entry.dlTotalChunks

def rowIf (d : Downloader) (c : Prop) [Decidable c] (status : DepositStatus) : Option DownloadRow :=
  d.row.map fun row => if c then { row with status := status } else row

theorem handleRetrieveChunk_raw {dir : String} (hqueue : d.streamQueue = none)
    (hcached : d.cached = some entry) (hraw : entry.rawDir = some dir) :
    let d' := d.handleRetrieveChunk decryptChunk ⟨k, blob⟩
    d'.files = d.files ∧ d'.rawChunks = d.rawChunks.put (dir, k) blob ∧
      d'.row = d.rowIf (0 < d.total entry ∧ d.total entry ≤ k + 1) .rescuedEncrypted := by
  have heq : d.handleRetrieveChunk decryptChunk ⟨k, blob⟩ = d.saveRawChunk ⟨k, blob⟩ dir entry := by
    unfold handleRetrieveChunk
    rw [hqueue, hcached]
    dsimp only
    rw [hraw]
  rw [heq]
  refine ⟨rfl, rfl, ?_⟩
  unfold saveRawChunk rowIf total
  by_cases h0 : entry.dlTotalChunks = 0
  · simp only [h0, if_true]
    split_ifs <;> simp
  simp only [h0, if_false]
  split_ifs <;> simp

/-- A chunk of a download that decrypts. -/
theorem handleRetrieveChunk_plain {key plaintext : List UInt8} (hqueue : d.streamQueue = none)
    (hcached : d.cached = some entry) (hraw : entry.rawDir = none) (hkey : entry.key = some key)
    (hsave : entry.saveTo ≠ "") (hdec : decryptChunk key blob k = some plaintext) :
    let d' := d.handleRetrieveChunk decryptChunk ⟨k, blob⟩
    d'.files = d.files.put entry.saveTo (written (d.files.get entry.saveTo) k plaintext) ∧ d'.rawChunks = d.rawChunks ∧
      d'.row = d.rowIf (0 < d.total entry ∧ d.total entry ≤ k + 1 ∧ entry.deleteAfterDownload)
        .withdrawn := by
  have heq : d.handleRetrieveChunk decryptChunk ⟨k, blob⟩ = (d.appendBytes entry.saveTo k plaintext).finishDownload
        (progress d.row entry plaintext.length) k := by
    unfold handleRetrieveChunk
    rw [hqueue, hcached]
    dsimp only
    rw [hraw, hkey]
    dsimp only
    rw [if_neg hsave, hdec]
    rfl
  have htotal : (progress d.row entry plaintext.length).dlTotalChunks = d.total entry := by
    unfold progress total
    by_cases h0 : entry.dlTotalChunks = 0
    · cases hrow : d.row with
      | none => simp [h0]
      | some row => simp only [h0, if_true, Option.map_some, Option.getD_some]; split_ifs <;> rfl
    obtain ⟨m, hm⟩ := Nat.exists_eq_succ_of_ne_zero h0
    simp only [hm]
    split_ifs <;> simp_all
  have hdelete : (progress d.row entry plaintext.length).deleteAfterDownload = entry.deleteAfterDownload := by
    unfold progress
    by_cases h0 : entry.dlTotalChunks = 0
    · cases d.row with
      | none => simp [h0]
      | some row => simp only [h0]; split_ifs <;> rfl
    obtain ⟨m, hm⟩ := Nat.exists_eq_succ_of_ne_zero h0
    simp only [hm]
    split_ifs <;> rfl
  rw [heq]
  unfold finishDownload rowIf
  rw [htotal, hdelete]
  split_ifs with hfin
  · exact ⟨rfl, rfl, by simp [appendBytes]⟩
  · exact ⟨rfl, rfl, by simp [appendBytes]⟩

theorem handleRetrieveChunk_idle
    (h : d.streamQueue ≠ none ∨ d.cached = none ∨ ∃ entry, d.cached = some entry ∧ entry.rawDir = none ∧
      (entry.key = none ∨ entry.saveTo = "" ∨ ∃ key, entry.key = some key ∧ decryptChunk key blob k = none)) :
    let d' := d.handleRetrieveChunk decryptChunk ⟨k, blob⟩
    d'.files = d.files ∧ d'.rawChunks = d.rawChunks ∧ d'.row = d.row := by
  unfold handleRetrieveChunk
  cases hqueue : d.streamQueue with
  | some queue => exact ⟨rfl, rfl, rfl⟩
  | none =>
    cases hcached : d.cached with
    | none => exact ⟨rfl, rfl, rfl⟩
    | some entry =>
      simp only [hqueue, hcached, ne_eq, not_true_eq_false, reduceCtorEq, Option.some.injEq,
        exists_eq_left', false_or] at h
      obtain ⟨hraw, hidle⟩ := h
      dsimp only
      rw [hraw]
      rcases hidle with hkey | hsave | ⟨key, hkey, hdec⟩
      · rw [hkey]
        exact ⟨rfl, rfl, rfl⟩
      · cases hkey : entry.key with
        | none => exact ⟨rfl, rfl, rfl⟩
        | some key =>
          dsimp only
          rw [if_pos hsave]
          exact ⟨rfl, rfl, rfl⟩
      rw [hkey]
      dsimp only
      rw [hdec]
      split_ifs <;> exact ⟨rfl, rfl, rfl⟩

end Downloader

namespace Node

variable {e : Env} {n n' : Node} {peer id i : String} {row : DepositRow}

/-! ## What the depositor has of a deposit -/

def saveTarget (n : Node) (id : String) : Option String :=
  (n.keys.get id).bind fun entry => if entry.saveTo = "" then none else some entry.saveTo

def rawFolder (n : Node) (id : String) : Option String := (n.keys.get id).bind (·.rawDir)

structure DepositorSpared (id : String) (n n' : Node) : Prop where
  row : n'.rows.get id = n.rows.get id
  saved : ∀ target, n.saveTarget id = some target → n'.files.get target = n.files.get target
  raw : ∀ dir, n.rawFolder id = some dir → ∀ k, n'.rawChunks.get (dir, k) = n.rawChunks.get (dir, k) ∧
    n'.strayChunks.get (dir, k) = n.strayChunks.get (dir, k)

/-- The chunk with the index `idx` is the last one of the download of `i`. -/
def EndsDownload (n : Node) (i : String) (entry : SessionKey) (idx : Int) : Prop :=
  let total := (n.downloader i).total entry.toKeyEntry
  0 < total ∧ (total : Int) ≤ idx + 1

/-- A chunk for the download of `i` writes nothing new for `id`. -/
def DownloadSafe (e : Env) (n : Node) (id i : String) (row : DepositRow) (entry : SessionKey) (idx : Int)
    (blob : List UInt8) : Prop :=
  match entry.rawDir with
  | some dir =>
    (n.rawFolder id = some dir → (∀ k : Nat, idx = k → n.rawChunks.get (dir, k) = some blob) ∧
      (∀ k : Nat, idx = .negSucc k → n.strayChunks.get (dir, k) = some blob)) ∧
    (i = id → EndsDownload n i entry idx → row.status = .rescuedEncrypted)
  | none => ∀ key, entry.key = some key → entry.saveTo ≠ "" → ∀ plaintext, decryptAt e key blob idx = some plaintext →
      (n.saveTarget id = some entry.saveTo → n.files.get entry.saveTo =
        some (Downloader.written (n.files.get entry.saveTo) idx.toNat plaintext)) ∧
      (i = id → EndsDownload n i entry idx → entry.deleteAfterDownload → row.status = .withdrawn)

/-- The frames that the depositor's row and download are safe from. -/
def DepositorSafe (e : Env) (n : Node) (peer id : String) (row : DepositRow) (frame : StorageFrame) : Prop :=
  let own := frame.depositId = id
  match frame.body with
  | .offer o => own → id = "" ∨ offerRefusal e peer id o ≠ none ∨ ¬ row.status.reofferable
  | .offerResponse accepted _ => own → id = "" ∨
      if row.status = .offeringMulti then ¬ accepted ∧ (n.candidates.get id).getD [] ≠ []
      else if accepted then row.status = .transferring ∨ row.status = .stored
      else row.status = .declined ∧ row.hostSignature = ""
  | .offerRejected _ => own → id = "" ∨ row.status = .rejected
  | .evictionRequest totalDays => own → row.status = .evictionRequested ∧
      row.evictionRequestedAt = some (e.now : Int) ∧ (0 < totalDays → row.evictionTotalDays = totalDays)
  | .evictionCancelled => own → id = "" ∨ (row.status ≠ .evictionRequested ∧ row.status ≠ .inDbGrace)
  | .cloudUploadComplete objectId => own → purgedToCloud e objectId row = row
  | .viewGrantAccepted => own → id = "" ∨ row.hostViewGrantedAt = e.now / 1000
  | .viewGrantRejected _ => own → id = "" ∨ row.hostViewGrantedAt = 0
  -- A pause is also taken from the depositor's own id, which the row has as `depositor_uuid`.
  | .pause reason => own → id ≠ "" → peer = row.depositorUuid → row.status.settled ∨
      (row.status = .paused (if reason = "" then "silent" else reason) ∧
        row.pauseReason = if reason = "" then "silent" else reason)
  | .retrieveChunk idx b64 => ∀ blob entry, e.b64decode b64 = some blob →
      n.streamQueues.get frame.depositId = none → n.keys.get frame.depositId = some entry →
      DownloadSafe e n id frame.depositId row entry idx blob
  | _ => True

/-! ## Frames that touch no download -/

theorem SameDownloads.depositorSpared_iff (h : SameDownloads n n') (hlocal : Local i n n') :
    DepositorSpared id n n' ↔ (i = id → n'.rows.get id = n.rows.get id) := by
  constructor
  · exact fun hs _ => hs.row
  intro hown
  refine ⟨?_, fun target _ => by rw [h.files], fun dir _ k => by rw [h.rawChunks, h.strayChunks]; simp⟩
  by_cases hi : i = id
  · exact hown hi
  · exact (hlocal id (Ne.symm hi)).rows

theorem Quiet.depositorSpared_iff (h : Quiet i n n') :
    DepositorSpared id n n' ↔ (i = id → n'.rows.get id = n.rows.get id) :=
  h.downloads.depositorSpared_iff h.elsewhere

theorem rows_putRow_iff {row' : DepositRow} (hrow : n.rows.get id = some row) :
    (n.putRow id row').rows.get id = n.rows.get id ↔ row' = row := by
  rw [rows_putRow, Table.get_put_self, hrow, Option.some.injEq]

section

variable (hrow : n.rows.get id = some row) (hrole : row.role = .depositor)
include hrow hrole

theorem rows_rewriteRow_iff (f : DepositRow → DepositRow) :
    (n.rewriteRow id f).rows.get id = n.rows.get id ↔ f row = row := by
  unfold rewriteRow
  rw [row?_eq_some hrow hrole]
  exact rows_putRow_iff hrow

theorem rows_guarded_iff (f : DepositRow → DepositRow) :
    (if id = "" then n else n.rewriteRow id f).rows.get id = n.rows.get id ↔ id = "" ∨ f row = row := by
  split_ifs with hid
  · simp [hid]
  rw [rows_rewriteRow_iff hrow hrole]
  simp [hid]

omit hrow hrole in
theorem guarded_quiet (f : DepositRow → DepositRow) :
    Quiet i n (if i = "" then n else n.rewriteRow i f) := by
  split_ifs
  · exact .refl
  · exact rewriteRow_quiet f

/-- When an answer to an offer changes the row. -/
theorem rows_handleOfferResponse_iff (hcand : row.status = .offeringMulti → peer ∉ (n.candidates.get id).getD [])
    (accepted : Bool)
    (sig : String) :
    (n.handleOfferResponse peer id accepted sig).rows.get id = n.rows.get id ↔ id = "" ∨
        if row.status = .offeringMulti then ¬ accepted ∧ (n.candidates.get id).getD [] ≠ []
        else if accepted then row.status = .transferring ∨ row.status = .stored
        else row.status = .declined ∧ row.hostSignature = "" := by
  have hdep : n.row? .depositor id = some row := row?_eq_some hrow hrole
  have hput {r : DepositRow} (hstatus : r.status ≠ row.status) : ¬ (n.rows.put id r).get id = n.rows.get id := by
    rw [Table.get_put_self, hrow]
    exact fun h => hstatus (by rw [Option.some.inj h])
  unfold handleOfferResponse
  by_cases hid : id = ""
  · simp [hid]
  simp only [hid, if_false, hdep, false_or]
  by_cases hmulti : row.status = .offeringMulti
  -- The sender is no candidate, so that taking it off the list leaves the list as it is.
  · have hothers : ((n.candidates.get id).getD []).filter (· ≠ peer) = (n.candidates.get id).getD [] := by
      refine List.filter_eq_self.mpr fun c hc => ?_
      have hne : c ≠ peer := fun h => hcand hmulti (h ▸ hc)
      simpa using hne
    simp only [hmulti, if_true, hothers]
    cases accepted with
    | true =>
      simp only [if_true, rows_launch, not_true_eq_false, false_and, iff_false]
      exact hput (by simp [hmulti])
    | false =>
      by_cases hnone : (n.candidates.get id).getD [] = []
      · simp only [hnone, ne_eq, not_true_eq_false, if_false, and_false, iff_false, Bool.false_eq_true]
        exact hput (by simp [hmulti])
      · simp [hnone]
  · simp only [hmulti, if_false]
    cases accepted with
    | true =>
      by_cases hlate : row.status = .transferring ∨ row.status = .stored
      · simp [hlate, send]
      simp only [hlate, and_false, if_false, if_true, rows_launch, iff_false]
      exact hput fun h => hlate (.inl h.symm)
    | false =>
      simp only [Bool.false_eq_true, false_and, if_false]
      rw [rows_putRow_iff hrow]
      constructor
      · intro h
        exact ⟨by rw [← h], by rw [← h]⟩
      rintro ⟨hstatus, hsig⟩
      rw [← hstatus, ← hsig]

/-! ## Chunks of a download -/

theorem rows_withDownloader {d : Downloader} {r : DownloadRow} (hd : d.row = some r) :
    (n.withDownloader id d).rows.get id = some { row with status := r.status } := by
  have hdep : n.row? .depositor id = some row := row?_eq_some hrow hrole
  unfold withDownloader
  simp only [hdep, hd, Table.get_put_self]

theorem withDownloader_spares_iff {c : Prop} [Decidable c] {status : DepositStatus} {d : Downloader}
    (hd : d.row = (n.downloader i).rowIf c status) :
    DepositorSpared id n (n.withDownloader i d) ↔ (i = id → c → row.status = status) ∧
      (∀ target, n.saveTarget id = some target → d.files.get target = n.files.get target) ∧
      (∀ dir, n.rawFolder id = some dir → ∀ k, d.rawChunks.get (dir, k) = n.rawChunks.get (dir, k)) := by
  have hown (hi : i = id) : (n.withDownloader i d).rows.get id = n.rows.get id ↔ (c → row.status = status) := by
    subst hi
    have hdep : n.row? .depositor i = some row := row?_eq_some hrow hrole
    have hdrow : d.row = some (if c then ⟨status, row.hostUuid, row.chunkCount.toNat⟩
        else ⟨row.status, row.hostUuid, row.chunkCount.toNat⟩) := by
      rw [hd]
      simp [Downloader.rowIf, downloader, hdep]
    rw [rows_withDownloader hrow hrole hdrow, hrow, Option.some.injEq]
    split_ifs with hc
    · simp only [hc, forall_const]
      constructor
      · intro h
        rw [← h]
      intro h
      rw [← h]
    · simp [hc]
  constructor
  · rintro ⟨hr, hs, hraw⟩
    exact ⟨fun hi => (hown hi).mp hr, hs, fun dir hdir k => (hraw dir hdir k).1⟩
  rintro ⟨hr, hs, hraw⟩
  refine ⟨?_, hs, fun dir hdir k => ⟨hraw dir hdir k, rfl⟩⟩
  by_cases hi : i = id
  · exact (hown hi).mpr (hr hi)
  · exact (withDownloader_local d id (Ne.symm hi)).rows

theorem withDownloader_spares_of_idle {d : Downloader}
    (h : d.files = n.files ∧ d.rawChunks = n.rawChunks ∧ d.row = (n.downloader i).row) :
    DepositorSpared id n (n.withDownloader i d) := by
  have hrow' : d.row = (n.downloader i).rowIf False .stored := by
    rw [h.2.2]
    simp [Downloader.rowIf]
  refine (withDownloader_spares_iff hrow hrole hrow').mpr ⟨fun _ hc => hc.elim, ?_, ?_⟩
  · exact fun target _ => by rw [h.1]
  · exact fun dir _ k => by rw [h.2.1]

omit hrow hrole in
theorem endsDownload_iff {entry : SessionKey} (k : Nat) :
    0 < (n.downloader i).total entry.toKeyEntry ∧ (n.downloader i).total entry.toKeyEntry ≤ k + 1 ↔
      EndsDownload n i entry k := by
  unfold EndsDownload
  omega

theorem retrieveChunk_spares_iff (k : Nat) (blob : List UInt8) : DepositorSpared id n
        (n.withDownloader i ((n.downloader i).handleRetrieveChunk e.decryptChunk ⟨k, blob⟩)) ↔
      ∀ entry, n.streamQueues.get i = none → n.keys.get i = some entry → DownloadSafe e n id i row entry k blob := by
  set d := (n.downloader i).handleRetrieveChunk e.decryptChunk ⟨k, blob⟩ with hd
  have hidle (h : d.files = n.files ∧ d.rawChunks = n.rawChunks ∧ d.row = (n.downloader i).row) :
      DepositorSpared id n (n.withDownloader i d) := withDownloader_spares_of_idle hrow hrole h
  cases hqueue : n.streamQueues.get i with
  | some queue =>
    simp only [reduceCtorEq, false_implies, implies_true, iff_true]
    exact hidle (Downloader.handleRetrieveChunk_idle (.inl (by simp [downloader, hqueue])))
  | none =>
    have hq : (n.downloader i).streamQueue = none := by simp [downloader, hqueue]
    cases hentry : n.keys.get i with
    | none =>
      simp only [reduceCtorEq, false_implies, implies_true, iff_true]
      exact hidle (Downloader.handleRetrieveChunk_idle (.inr (.inl (by simp [downloader, hentry]))))
    | some entry =>
      have hcached : (n.downloader i).cached = some entry.toKeyEntry := by simp [downloader, hentry]
      simp only [forall_const, Option.some.injEq, forall_eq']
      unfold DownloadSafe
      cases hraw : entry.rawDir with
      | some dir =>
        obtain ⟨hfiles, hchunks, hdrow⟩ : d.files = n.files ∧ d.rawChunks = n.rawChunks.put (dir, k) blob ∧ _ :=
          Downloader.handleRetrieveChunk_raw hq hcached hraw
        rw [withDownloader_spares_iff hrow hrole hdrow, hfiles, hchunks, put_spares_folder_iff]
        simp only [endsDownload_iff, implies_true, true_and, Int.natCast_inj, forall_eq', reduceCtorEq, false_implies,
          and_true]
        exact and_comm
      | none =>
        by_cases hsave : entry.saveTo = ""
        · simp only [hsave, ne_eq, not_true_eq_false, false_implies, implies_true, iff_true]
          exact hidle (Downloader.handleRetrieveChunk_idle
            (.inr (.inr ⟨_, hcached, hraw, .inr (.inl hsave)⟩)))
        cases hkey : entry.key with
        | none =>
          simp only [reduceCtorEq, false_implies, implies_true, iff_true]
          exact hidle (Downloader.handleRetrieveChunk_idle (.inr (.inr ⟨_, hcached, hraw, .inl hkey⟩)))
        | some key =>
          simp only [Option.some.injEq, forall_eq', hsave, ne_eq, not_false_eq_true, forall_const]
          have hopen : decryptAt e key blob k = e.decryptChunk key blob k := rfl
          rw [hopen]
          cases hdec : e.decryptChunk key blob k with
          | none =>
            simp only [reduceCtorEq, false_implies, implies_true, iff_true]
            exact hidle (Downloader.handleRetrieveChunk_idle
              (.inr (.inr ⟨_, hcached, hraw, .inr (.inr ⟨key, hkey, hdec⟩)⟩)))
          | some plaintext =>
            obtain ⟨hfiles, hchunks, hdrow⟩ : d.files = n.files.put entry.saveTo
                  (Downloader.written (n.files.get entry.saveTo) k plaintext) ∧
                d.rawChunks = n.rawChunks ∧ _ :=
              Downloader.handleRetrieveChunk_plain hq hcached hraw hkey hsave hdec
            rw [withDownloader_spares_iff hrow hrole hdrow, hfiles, hchunks]
            rw [n.files.put_spares_iff entry.saveTo _ fun target => n.saveTarget id = some target]
            have hend : (0 < (n.downloader i).total entry.toKeyEntry ∧
                (n.downloader i).total entry.toKeyEntry ≤ k + 1 ∧ entry.deleteAfterDownload = true) ↔
                EndsDownload n i entry k ∧ entry.deleteAfterDownload = true := by
              rw [← and_assoc, endsDownload_iff]
            simp only [hend, implies_true, and_true, Option.some.injEq, forall_eq', Int.toNat_natCast, and_imp]
            exact and_comm

omit hrow hrole in
theorem saveStrayChunk_spares_iff (k : Nat) (blob : List UInt8) : DepositorSpared id n (n.saveStrayChunk i k blob) ↔
      ∀ entry, n.streamQueues.get i = none → n.keys.get i = some entry →
        DownloadSafe e n id i row entry (.negSucc k) blob := by
  have hsame {m : Node} (hrows : m.rows = n.rows) (h : SameDownloads n m) : DepositorSpared id n m :=
    ⟨by rw [hrows], fun target _ => by rw [h.files], fun dir _ k => ⟨by rw [h.rawChunks], by rw [h.strayChunks]⟩⟩
  unfold saveStrayChunk DownloadSafe
  cases hqueue : n.streamQueues.get i with
  | some queue =>
    simp only [reduceCtorEq, false_implies, implies_true, iff_true]
    exact hsame rfl ⟨rfl, rfl, rfl⟩
  | none =>
    cases hentry : n.keys.get i with
    | none =>
      simp only [reduceCtorEq, false_implies, implies_true, iff_true]
      exact hsame rfl ⟨rfl, rfl, rfl⟩
    | some entry =>
      simp only [forall_const, Option.some.injEq, forall_eq']
      cases hraw : entry.rawDir with
      | none =>
        simp only [decryptAt, reduceCtorEq, false_implies, implies_true, iff_true]
        exact hsame rfl ⟨rfl, rfl, rfl⟩
      | some dir =>
        -- The index is below every chunk count, so that nothing ends here.
        have hend : ¬ EndsDownload n i entry (.negSucc k) := by
          unfold EndsDownload
          omega
        simp only [hend, false_implies, implies_true, and_true, Int.negSucc.injEq, forall_eq']
        have hnat : ∀ j : Nat, Int.negSucc k = j → n.rawChunks.get (dir, j) = some blob := by
          intro j hj
          cases hj
        have hput : (∀ d, n.rawFolder id = some d → ∀ j,
            (n.strayChunks.put (dir, k) blob).get (d, j) = n.strayChunks.get (d, j)) ↔
            (n.rawFolder id = some dir → n.strayChunks.get (dir, k) = some blob) :=
          put_spares_folder_iff
        constructor
        · intro h hdir
          exact ⟨hnat, hput.mp (fun d hd j => (h.raw d hd j).2) hdir⟩
        intro h
        have hstray := hput.mpr fun hdir => (h hdir).2
        exact ⟨rfl, fun _ _ => rfl, fun d hd j => ⟨rfl, hstray d hd j⟩⟩

theorem handleRetrieveChunk_spares_iff (idx : Int) (b64 : String) :
    DepositorSpared id n (n.handleRetrieveChunk e i idx b64) ↔
      ∀ blob entry, e.b64decode b64 = some blob → n.streamQueues.get i = none → n.keys.get i = some entry →
        DownloadSafe e n id i row entry idx blob := by
  unfold handleRetrieveChunk
  cases hb : e.b64decode b64 with
  | none =>
    have hsame : DepositorSpared id n n := (Quiet.refl (i := i)).depositorSpared_iff.mpr fun _ => rfl
    exact iff_of_true hsame (fun _ _ h => nomatch h)
  | some blob =>
    simp only [Option.some.injEq]
    have hone (P : List UInt8 → SessionKey → Prop) : (∀ b entry, blob = b → P b entry) ↔ ∀ entry, P blob entry :=
      ⟨fun h entry => h blob entry rfl, fun h b entry hbl => hbl ▸ h entry⟩
    rw [hone]
    cases idx with
    | ofNat k => exact retrieveChunk_spares_iff hrow hrole k blob
    | negSucc k => exact saveStrayChunk_spares_iff k blob

/-! ## Rows that are rewritten to themselves -/

omit hrow hrole in
theorem evictionRequested_eq_self_iff (now totalDays : Int) :
    ({ row with
        status := .evictionRequested
        evictionRequestedAt := some now
        evictionTotalDays := if 0 < totalDays then totalDays else row.evictionTotalDays } : DepositRow) = row ↔
      row.status = .evictionRequested ∧ row.evictionRequestedAt = some now ∧
        (0 < totalDays → row.evictionTotalDays = totalDays) := by
  constructor
  · intro h
    refine ⟨by rw [← h], by rw [← h], fun hdays => ?_⟩
    have htotal := congrArg DepositRow.evictionTotalDays h
    rw [if_pos hdays] at htotal
    exact htotal.symm
  rintro ⟨hstatus, hat, hdays⟩
  split_ifs with hpos
  · rw [← hstatus, ← hat, ← hdays hpos]
  · rw [← hstatus, ← hat]

omit hrow hrole in
theorem evictionCancelled_eq_self_iff :
    (if row.status = .evictionRequested ∨ row.status = .inDbGrace then
      { row with
        status := .stored
        evictionRequestedAt := none
        dbGraceAt := none
        evictionTotalDays := 0 }
      else row) = row ↔ row.status ≠ .evictionRequested ∧ row.status ≠ .inDbGrace := by
  rw [← not_or]
  split_ifs with hev
  · refine iff_of_false (fun h => ?_) (not_not.mpr hev)
    have hstored : row.status = .stored := by rw [← h]
    rw [hstored] at hev
    simp at hev
  · exact iff_of_true rfl hev

/-! ## The result -/

theorem rows_of_hostOnly :
    (n.handleOfferCancelled peer id).rows = n.rows ∧ (n.handleResumeRequest e peer id).rows = n.rows ∧
    (n.handleViewRevoke peer id).rows = n.rows ∧
    (∀ final, (n.handleComplete e peer id final).rows = n.rows) ∧
    (∀ nonce blob sealedManifest, (n.handleViewGrant e peer id nonce blob sealedManifest).rows = n.rows) := by
  have hnone : n.row? .host id = none := row?_eq_none hrow hrole nofun
  simp only [handleOfferCancelled, handleResumeRequest, handleViewRevoke, handleComplete, handleViewGrant,
    hnone, ite_self, implies_true, true_and]
  intro nonce blob sealedManifest
  split_ifs <;> rfl

theorem handleDeleteNow_rows_of_depositor : (n.handleDeleteNow e peer id).rows = n.rows := by
  have hnone : n.row? .host id = none := row?_eq_none hrow hrole nofun
  unfold handleDeleteNow commitDelete
  rw [hnone]

theorem handleEvictionResponse_rows_of_depositor (action : String) (c : CloudFields) :
    (n.handleEvictionResponse e peer id action c).rows = n.rows := by
  have hnone : n.row? .host id = none := row?_eq_none hrow hrole nofun
  unfold handleEvictionResponse evictToCloud commitCloudPurge
  rw [hnone]
  split
  · cases checkCloudFields e peer c <;> simp only [cloudEvictionFail, hnone] <;> rfl
  · rfl

theorem rows_of_otherHost (hpeer : peer ≠ row.hostUuid) :
    (∀ received, (n.handleResumeReply peer id received).rows = n.rows) ∧
    (∀ missing, (n.handleMissingChunks e peer id missing).rows = n.rows) := by
  have hdep : n.row? .depositor id = some row := row?_eq_some hrow hrole
  simp only [handleResumeReply, handleMissingChunks, hdep, ne_eq, Ne.symm hpeer, not_false_eq_true,
    if_true, ite_self, implies_true, and_self]

end

/-- **A frame of a peer other than the host, and not a candidate while an automatic offer is open, leaves
the depositor's row and download alone exactly when it is `DepositorSafe`.** -/
theorem third_party_spares_deposited_iff (e : Env) (n : Node) (peer id : String) (row : DepositRow)
    (frame : StorageFrame) (hrow : n.rows.get id = some row) (hrole : row.role = .depositor)
    (hpeer : peer ≠ row.hostUuid)
    (hcand : row.status = .offeringMulti → peer ∉ (n.candidates.get id).getD []) :
    DepositorSpared id n (n.dispatchStorageFrame e peer frame) ↔ DepositorSafe e n peer id row frame := by
  obtain ⟨i, body⟩ := frame
  have hrows {m : Node} {P : Prop} (h : Quiet i n m) (hiff : i = id → (m.rows.get id = n.rows.get id ↔ P)) :
      DepositorSpared id n m ↔ (i = id → P) := h.depositorSpared_iff.trans (forall_congr' hiff)
  have hquiet {m : Node} (h : Quiet i n m) (hrows : n.rows.get i = some row → m.rows = n.rows) :
      DepositorSpared id n m ↔ True :=
    iff_of_true (h.depositorSpared_iff.mpr fun hi => by rw [hrows (hi ▸ hrow)]) trivial
  have hsame : DepositorSpared id n n ↔ True := hquiet .refl fun _ => rfl
  have hrewrite (f : DepositRow → DepositRow) : DepositorSpared id n (n.rewriteRow i f) ↔ (i = id → f row = row) :=
    hrows (rewriteRow_quiet f) fun hi => by subst hi; exact rows_rewriteRow_iff hrow hrole f
  have hguarded {f : DepositRow → DepositRow} {P : Prop} (h : f row = row ↔ P) :
      DepositorSpared id n (if i = "" then n else n.rewriteRow i f) ↔ (i = id → id = "" ∨ P) :=
    hrows (guarded_quiet f) fun hi => by subst hi; exact (rows_guarded_iff hrow hrole f).trans (or_congr_right h)
  cases body with
  | offer o => exact hrows (handleOffer_quiet o) fun hi => by subst hi; exact rows_handleOffer_iff hrow o
  | offerResponse accepted sig =>
    exact hrows (handleOfferResponse_quiet accepted sig) fun hi => by
      subst hi; exact rows_handleOfferResponse_iff hrow hrole hcand accepted sig
  | offerRejected reason => exact hguarded ⟨fun h => by rw [← h], fun h => by rw [← h]⟩
  | evictionRequest totalDays =>
    exact (hrewrite _).trans (forall_congr' fun _ => evictionRequested_eq_self_iff _ totalDays)
  | evictionCancelled => exact hguarded evictionCancelled_eq_self_iff
  | cloudUploadComplete objectId => exact hrewrite _
  | viewGrantAccepted => exact hguarded ⟨fun h => by rw [← h], fun h => by rw [← h]⟩
  | viewGrantRejected reason => exact hguarded ⟨fun h => by rw [← h], fun h => by rw [← h]⟩
  | pause reason =>
    refine hrows (handlePause_quiet reason) fun hi => ?_
    subst hi
    refine (rows_handlePause_iff hrow reason).trans ?_
    simp only [hpeer, or_false]
  | retrieveChunk idx b64 => exact handleRetrieveChunk_spares_iff hrow hrole idx b64
  -- The handlers of the host: the row is not one of theirs.
  | chunk idx b64 =>
    refine iff_of_true ?_ trivial
    exact ((receiveChunk_downloads idx b64).depositorSpared_iff (receiveChunk_local idx b64)).mpr
      fun _ => by dsimp only [dispatchStorageFrame]; rw [receiveChunk_rows]
  | chunkAck idx ok =>
    exact hquiet (recordChunkAck_quiet idx ok) fun _ => recordChunkAck_rows idx ok
  | complete final =>
    exact hquiet (handleComplete_quiet final) fun hrow => (rows_of_hostOnly hrow hrole).2.2.2.1 final
  | evictionResponse action c =>
    have hreach : Local i n (n.handleEvictionResponse e peer i action c) ∧
        SameDownloads n (n.handleEvictionResponse e peer i action c) :=
      handleEvictionResponse_reach action c
    refine iff_of_true ((hreach.2.depositorSpared_iff hreach.1).mpr ?_) trivial
    rintro rfl
    rw [handleEvictionResponse_rows_of_depositor hrow hrole]
  | deleteNow =>
    refine iff_of_true ((handleDeleteNow_downloads.depositorSpared_iff handleDeleteNow_local).mpr ?_) trivial
    rintro rfl
    rw [handleDeleteNow_rows_of_depositor hrow hrole]
  | retrieveOpen first last =>
    exact hquiet (handleRetrieveOpen_quiet first last) fun _ => handleRetrieveOpen_rows first last
  | offerCancelled reason =>
    exact hquiet handleOfferCancelled_quiet fun hrow => (rows_of_hostOnly (e := e) hrow hrole).1
  | resumeRequest =>
    exact hquiet handleResumeRequest_quiet fun hrow => (rows_of_hostOnly hrow hrole).2.1
  | viewRevoke =>
    exact hquiet handleViewRevoke_quiet fun hrow => (rows_of_hostOnly (e := e) hrow hrole).2.2.1
  | viewGrant nonce blob sealedManifest =>
    exact hquiet (handleViewGrant_quiet nonce blob sealedManifest) fun hrow =>
      (rows_of_hostOnly hrow hrole).2.2.2.2 nonce blob sealedManifest
  -- The handlers that compare the sender with `host_uuid`.
  | resumeReply received =>
    exact hquiet (handleResumeReply_quiet received) fun hrow => (rows_of_otherHost (e := e) hrow hrole hpeer).1 received
  | missingChunks missing =>
    exact hquiet (handleMissingChunks_quiet missing) fun hrow => (rows_of_otherHost hrow hrole hpeer).2 missing
  | cloudUploadProgress bytesSent totalBytes => exact hsame
  | cloudUploadFailed reason => exact hsame
  | tripwireFired changed => exact hsame
  | other type => exact hsame

/-- A resume reply of a stranger changes nothing. -/
theorem third_party_spares_deposited_iff_resume : DepositorSpared "d" (rescuing .stored)
      ((rescuing .stored).dispatchStorageFrame .plain "stranger" ⟨"d", .resumeReply [0]⟩) :=
  (third_party_spares_deposited_iff .plain (rescuing .stored) "stranger" "d" (.plain .depositor .stored)
    ⟨"d", .resumeReply [0]⟩ rfl rfl (by decide) (fun h => nomatch h)).mpr trivial

/-- A stored deposit is rejected, and a rescued chunk overwritten. -/
theorem stranger_rejects_and_overwrites : (rescuing .stored).rows.get "d" = some (.plain .depositor .stored) ∧
    "stranger" ≠ (DepositRow.plain .depositor .stored).hostUuid ∧
    (DepositRow.plain .depositor .stored).status ≠ .offeringMulti ∧
    ¬ DepositorSpared "d" (rescuing .stored)
      ((rescuing .stored).dispatchStorageFrame .plain "stranger" ⟨"d", .offerRejected "full"⟩) ∧
    ¬ DepositorSpared "d" (rescuing .stored)
      ((rescuing .stored).dispatchStorageFrame .plain "stranger" ⟨"d", .retrieveChunk 0 "AA=="⟩) := by
  refine ⟨rfl, by decide, by decide, fun h => ?_, fun h => ?_⟩
  · have hrow := h.row
    revert hrow
    decide +kernel
  have hfile := (h.raw "rescued/d" rfl 0).1
  revert hfile
  decide +kernel

end Node

end NexusGrid.Storage

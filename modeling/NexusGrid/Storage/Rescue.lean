import NexusGrid.Lib.Blocks
import NexusGrid.Storage.Retrieve

/-! # Rescuing a deposit that is locked

The auto-rescue pass fetches the chunks as they are (`_save_raw_chunk`) when the key is not at hand.
-/

namespace NexusGrid.Storage

open Lib

inductive UnlockError
  | passwordRequired
  | depositNotFound
  | notAwaitingDecrypt (status : DepositStatus)
  | noSalt
  | noSealedManifest
  | wrongPassword
  | rescuedChunksNotFound
  | decryptFailed
deriving DecidableEq

structure Lock where
  salt : List UInt8
  encryptedManifest : List UInt8
deriving DecidableEq

/-- The primitives of `deposit_crypto`. -/
structure DepositCrypto where
  deriveKey : String → List UInt8 → List UInt8
  unsealManifest : List UInt8 → List UInt8 → Bool
  decryptChunk : List UInt8 → List UInt8 → Nat → Option (List UInt8)

/-- The loop of `_decrypt`. -/
def decryptFolder (decryptChunk : List UInt8 → Nat → Option (List UInt8))
    (rawChunks : Table (String × Nat) (List UInt8)) (rawDir : String) (chunkCount : Nat) : Option (List UInt8) :=
  reassemble (fun idx => (rawChunks.get (rawDir, idx)).bind (decryptChunk · idx)) chunkCount

/-- `foreign_storage_decrypt_rescued`: the output file, and the node afterwards. -/
def Downloader.decryptRescued (crypto : DepositCrypto) (d : Downloader) (lock : Lock)
    (rawDir password : String) : Except UnlockError (List UInt8 × Downloader) :=
  if password = "" then .error .passwordRequired
  else match d.row with
    | none => .error .depositNotFound
    | some row =>
      if row.status ≠ .rescuedEncrypted then .error (.notAwaitingDecrypt row.status)
      else if lock.salt = [] then .error .noSalt
      else if lock.encryptedManifest = [] then .error .noSealedManifest
      else
        let key := crypto.deriveKey password lock.salt
        if !crypto.unsealManifest key lock.encryptedManifest then .error .wrongPassword
        else if d.rawChunks.rows.all (·.1.1 ≠ rawDir) then .error .rescuedChunksNotFound
        else match decryptFolder (crypto.decryptChunk key) d.rawChunks rawDir row.chunkCount with
          | none => .error .decryptFailed
          | some plaintext =>
            .ok (plaintext, { d with
              rawChunks := d.rawChunks.deleteWhere fun at' _ => at'.1 = rawDir
              row := some { row with status := .completed } })

/-- The password is the deposit's, and all it is checked with is there. -/
structure Opens (crypto : DepositCrypto) (lock : Lock) (password : String) : Prop where
  given : password ≠ ""
  salt : lock.salt ≠ []
  manifest : lock.encryptedManifest ≠ []
  unseals : crypto.unsealManifest (crypto.deriveKey password lock.salt) lock.encryptedManifest = true

namespace Downloader

/-- The node rescues a deposit of `n` chunks to the folder `rawDir`. -/
structure Rescuing (n : Nat) (rawDir : String) (d : Downloader) : Prop where
  row : ∃ row, d.row = some row ∧ row.chunkCount = n ∧ row.status ≠ .rescuedEncrypted
  streamQueue : d.streamQueue = none
  cached : ∃ entry, d.cached = some entry ∧ entry.rawDir = some rawDir ∧
    (entry.dlTotalChunks = 0 ∨ entry.dlTotalChunks = n)

def Rescued (d : Downloader) : Prop := ∃ row, d.row = some row ∧ row.status = .rescuedEncrypted

def Holds (d : Downloader) (rawDir : String) (idx : Nat) : Prop := (d.rawChunks.get (rawDir, idx)).isSome

def Genuine (decryptChunk : List UInt8 → Nat → Option (List UInt8)) (chunks : List (List UInt8))
    (rawDir : String) (d : Downloader) : Prop :=
  ∀ idx blob chunk, d.rawChunks.get (rawDir, idx) = some blob → chunks[idx]? = some chunk →
    decryptChunk blob idx = some chunk

end Downloader

def endsRescue (n idx : Nat) : Bool := 0 < n ∧ n ≤ idx + 1

def untilLast (n : Nat) : List Nat → Option (List Nat)
  | [] => none
  | idx :: rest => if endsRescue n idx then some [idx] else (untilLast n rest).map (idx :: ·)

theorem pos_of_untilLast {n : Nat} {arrivals idxs : List Nat} (h : untilLast n arrivals = some idxs) : 0 < n := by
  induction arrivals generalizing idxs with
  | nil => cases h
  | cons idx rest ih =>
    rw [untilLast] at h
    split at h
    case isTrue hlast => exact (of_decide_eq_true hlast).1
    case isFalse =>
      obtain ⟨idxs', hrest, -⟩ := Option.map_eq_some_iff.mp h
      exact ih hrest

section Step

variable (decryptChunk : List UInt8 → List UInt8 → Nat → Option (List UInt8)) {n : Nat}
  {rawDir : String} {d : Downloader}

section

variable (h : d.Rescuing n rawDir)
include h

theorem handleRetrieveChunk_of_rescuing (frame : RetrieveFrame) :
    ∃ entry : KeyEntry, entry.rawDir = some rawDir ∧ entry.dlTotalChunks = n ∧
      d.handleRetrieveChunk decryptChunk frame = { d with
          rawChunks := d.rawChunks.put (rawDir, frame.chunkIdx) frame.blob
          cached := if endsRescue n frame.chunkIdx then none else some entry
          row := if endsRescue n frame.chunkIdx
            then d.row.map (fun row => { row with status := .rescuedEncrypted }) else d.row } := by
  obtain ⟨⟨row, hrow, hcount, -⟩, hqueue, entry, hentry, hdir, htotal⟩ := h
  -- the count is looked up in the row, unless the entry has it from an earlier chunk
  let counted : KeyEntry := if entry.dlTotalChunks = 0
    then { entry with dlTotalChunks := (d.row.map DownloadRow.chunkCount).getD 0, dlBytes := 0 } else entry
  have hcounted : counted.dlTotalChunks = n ∧ counted.rawDir = some rawDir := by
    simp only [counted]
    split
    case isTrue => exact ⟨by rw [hrow]; exact hcount, hdir⟩
    case isFalse hne => exact ⟨htotal.resolve_left hne, hdir⟩
  refine ⟨{ counted with dlBytes := counted.dlBytes + frame.blob.length }, hcounted.2, hcounted.1, ?_⟩
  have hstep : d.handleRetrieveChunk decryptChunk frame = d.saveRawChunk frame rawDir entry := by
    simp only [Downloader.handleRetrieveChunk, hqueue, hentry, hdir]
  have hfinished : (0 < counted.dlTotalChunks ∧ counted.dlTotalChunks ≤ frame.chunkIdx + 1) ↔
      endsRescue n frame.chunkIdx = true := by
    rw [hcounted.1, endsRescue, decide_eq_true_iff]
  rw [hstep]
  simp only [Downloader.saveRawChunk, ← hfinished]
  rfl

theorem Downloader.Rescuing.step {frame : RetrieveFrame}
    (hlast : endsRescue n frame.chunkIdx = false) : (d.handleRetrieveChunk decryptChunk frame).Rescuing n rawDir := by
  obtain ⟨entry, hdir, htotal, hstep⟩ := handleRetrieveChunk_of_rescuing decryptChunk h frame
  rw [hstep, hlast]
  exact ⟨h.row, h.streamQueue, entry, rfl, hdir, .inr htotal⟩

theorem rawChunks_of_rescuing (frame : RetrieveFrame) :
    (d.handleRetrieveChunk decryptChunk frame).rawChunks = d.rawChunks.put (rawDir, frame.chunkIdx) frame.blob := by
  obtain ⟨entry, -, -, hstep⟩ := handleRetrieveChunk_of_rescuing decryptChunk h frame
  rw [hstep]

theorem holds_step (frame : RetrieveFrame) (idx : Nat) :
    (d.handleRetrieveChunk decryptChunk frame).Holds rawDir idx ↔ idx = frame.chunkIdx ∨ d.Holds rawDir idx := by
  unfold Downloader.Holds
  rw [rawChunks_of_rescuing decryptChunk h, Table.get_put]
  split
  case isTrue heq =>
    have hidx : idx = frame.chunkIdx := congrArg Prod.snd heq
    exact iff_of_true rfl (.inl hidx)
  case isFalse hne =>
    have hidx : idx ≠ frame.chunkIdx := fun heq => hne (by rw [heq])
    simp [hidx]

theorem genuine_step {opens : List UInt8 → Nat → Option (List UInt8)} {chunks : List (List UInt8)}
    {frame : RetrieveFrame} (hd : d.Genuine opens chunks rawDir)
    (hframe : ∀ chunk, chunks[frame.chunkIdx]? = some chunk → opens frame.blob frame.chunkIdx = some chunk) :
    (d.handleRetrieveChunk decryptChunk frame).Genuine opens chunks rawDir := by
  intro idx blob chunk hblob hchunk
  rw [rawChunks_of_rescuing decryptChunk h, Table.get_put] at hblob
  split at hblob
  case isTrue heq =>
    have hidx : idx = frame.chunkIdx := congrArg Prod.snd heq
    rw [hidx] at hchunk ⊢
    rw [← Option.some.inj hblob]
    exact hframe chunk hchunk
  case isFalse => exact hd idx blob chunk hblob hchunk

end

theorem run_of_uncached (hqueue : d.streamQueue = none) (hcached : d.cached = none) (frames : List RetrieveFrame) :
    run (Downloader.handleRetrieveChunk decryptChunk) d frames = d := by
  induction frames with
  | nil => rfl
  | cons frame frames ih =>
    have hstep : d.handleRetrieveChunk decryptChunk frame = d := by
      simp only [Downloader.handleRetrieveChunk, hqueue, hcached]
    rw [run_cons, hstep, ih]

end Step

section Unlock

variable {crypto : DepositCrypto} {lock : Lock} {password rawDir : String} {d : Downloader}

theorem decryptFolder_eq_some_iff {opens : List UInt8 → Nat → Option (List UInt8)}
    {chunks : List (List UInt8)} (hd : d.Genuine opens chunks rawDir) :
    decryptFolder opens d.rawChunks rawDir chunks.length = some chunks.flatten ↔
      ∀ idx < chunks.length, d.Holds rawDir idx := by
  have hread (idx : Nat) (hidx : idx < chunks.length) (hholds : d.Holds rawDir idx) :
      (d.rawChunks.get (rawDir, idx)).bind (opens · idx) = some chunks[idx] := by
    obtain ⟨blob, hblob⟩ := Option.isSome_iff_exists.mp hholds
    rw [hblob, Option.bind_some]
    exact hd idx blob chunks[idx] hblob (List.getElem?_eq_getElem hidx)
  constructor
  · intro hsome
    have hisSome : (decryptFolder opens d.rawChunks rawDir chunks.length).isSome := by rw [hsome]; rfl
    intro idx hidx
    have hone := isSome_reassemble.mp hisSome idx hidx
    unfold Downloader.Holds
    cases hget : d.rawChunks.get (rawDir, idx) with
    | none =>
      rw [hget] at hone
      cases hone
    | some blob => rfl
  · intro hall
    have hblocks (idx : Nat) (hidx : idx < chunks.length) :
        (d.rawChunks.get (rawDir, idx)).bind (opens · idx) = some (chunks[idx]?.getD []) := by
      rw [hread idx hidx (hall idx hidx), List.getElem?_eq_getElem hidx, Option.getD_some]
    rw [decryptFolder, reassemble_eq_some hblocks, flatMap_range_eq_flatten]

theorem decryptRescued_eq_ok_iff (hopens : Opens crypto lock password) {row : DownloadRow}
    (hrow : d.row = some row) (hstatus : row.status = .rescuedEncrypted) {idx : Nat}
    (hfolder : d.Holds rawDir idx) (content : List UInt8) :
    (∃ d', d.decryptRescued crypto lock rawDir password = .ok (content, d')) ↔
      decryptFolder (crypto.decryptChunk (crypto.deriveKey password lock.salt)) d.rawChunks rawDir
        row.chunkCount = some content := by
  have hthere : d.rawChunks.rows.all (·.1.1 ≠ rawDir) = false := by
    obtain ⟨blob, hblob⟩ := Option.isSome_iff_exists.mp hfolder
    rw [List.all_eq_false]
    exact ⟨((rawDir, idx), blob), (Table.mem_rows _ _ _).mpr hblob, by simp⟩
  unfold Downloader.decryptRescued
  rw [if_neg hopens.given, hrow]
  dsimp only
  rw [if_neg (not_not.mpr hstatus), if_neg hopens.salt, if_neg hopens.manifest, hopens.unseals, hthere]
  cases decryptFolder (crypto.decryptChunk (crypto.deriveKey password lock.salt)) d.rawChunks rawDir
      row.chunkCount with
  | none => simp
  | some plaintext => simp

end Unlock

section Rescue

variable {decryptChunk : List UInt8 → List UInt8 → Nat → Option (List UInt8)} {n : Nat}
  {rawDir : String} {d : Downloader}

structure Outcome (n : Nat) (rawDir : String) (d : Downloader) (frames : List RetrieveFrame)
    (after : Downloader) : Prop where
  /-- The row is set if the last index has come. -/
  rescued : after.Rescued ↔ (untilLast n (frames.map (·.chunkIdx))).isSome
  count : ∃ row, after.row = some row ∧ row.chunkCount = n
  /-- With the last index the folder is closed. -/
  holds : ∀ idxs ∈ untilLast n (frames.map (·.chunkIdx)),
    ∀ idx, after.Holds rawDir idx ↔ idx ∈ idxs ∨ d.Holds rawDir idx

theorem outcome_of_endsRescue (h : d.Rescuing n rawDir) {frame : RetrieveFrame}
    (frames : List RetrieveFrame) (hlast : endsRescue n frame.chunkIdx = true) : Outcome n rawDir d (frame :: frames)
      (run (Downloader.handleRetrieveChunk decryptChunk) d (frame :: frames)) := by
  obtain ⟨row, hrow, hcount, -⟩ := h.row
  obtain ⟨entry, -, -, hstep⟩ := handleRetrieveChunk_of_rescuing decryptChunk h frame
  have hholds := holds_step decryptChunk h frame
  rw [hlast, if_pos rfl, if_pos rfl, hrow] at hstep
  have hrun : run (Downloader.handleRetrieveChunk decryptChunk) d (frame :: frames) =
      d.handleRetrieveChunk decryptChunk frame := by
    rw [run_cons]
    exact run_of_uncached decryptChunk (by rw [hstep]; exact h.streamQueue) (by rw [hstep]) frames
  have huntil : untilLast n ((frame :: frames).map (·.chunkIdx)) = some [frame.chunkIdx] := by
    rw [List.map_cons, untilLast, if_pos hlast]
  rw [hrun]
  refine ⟨iff_of_true ?_ (by rw [huntil]; rfl), ?_, fun idxs hidxs idx => ?_⟩
  · rw [hstep]
    exact ⟨_, rfl, rfl⟩
  · rw [hstep]
    exact ⟨_, rfl, hcount⟩
  rw [huntil, Option.mem_some_iff] at hidxs
  rw [← hidxs, List.mem_singleton]
  exact hholds idx

theorem rescue_outcome (h : d.Rescuing n rawDir) (frames : List RetrieveFrame) :
    Outcome n rawDir d frames (run (Downloader.handleRetrieveChunk decryptChunk) d frames) := by
  induction frames generalizing d with
  | nil =>
    obtain ⟨row, hrow, hcount, hstatus⟩ := h.row
    refine ⟨iff_of_false ?_ (by simp [untilLast]), ⟨row, hrow, hcount⟩, fun _ h => nomatch h⟩
    rintro ⟨row', hrow', hstatus'⟩
    rw [run_nil, hrow, Option.some.injEq] at hrow'
    exact hstatus (hrow' ▸ hstatus')
  | cons frame frames ih =>
    cases hlast : endsRescue n frame.chunkIdx with
    | true => exact outcome_of_endsRescue h frames hlast
    | false =>
      obtain ⟨hrescued, hcount, hholds⟩ := ih (h.step decryptChunk hlast)
      have huntil : untilLast n ((frame :: frames).map (·.chunkIdx)) =
          (untilLast n (frames.map (·.chunkIdx))).map (frame.chunkIdx :: ·) := by
        rw [List.map_cons, untilLast, hlast]
        rfl
      rw [run_cons]
      refine ⟨?_, hcount, fun idxs hidxs idx => ?_⟩
      · rw [huntil, Option.isSome_map]
        exact hrescued
      rw [huntil, Option.mem_def, Option.map_eq_some_iff] at hidxs
      obtain ⟨idxs, hidxs, rfl⟩ := hidxs
      rw [hholds idxs hidxs idx, holds_step decryptChunk h, List.mem_cons]
      tauto

theorem genuine_run {opens : List UInt8 → Nat → Option (List UInt8)} {chunks : List (List UInt8)}
    (h : d.Rescuing n rawDir) (hd : d.Genuine opens chunks rawDir) {frames : List RetrieveFrame}
    (hframes : ∀ frame ∈ frames, ∀ chunk, chunks[frame.chunkIdx]? = some chunk →
      opens frame.blob frame.chunkIdx = some chunk) :
    (run (Downloader.handleRetrieveChunk decryptChunk) d frames).Genuine opens chunks rawDir := by
  induction frames generalizing d with
  | nil => exact hd
  | cons frame frames ih =>
    rw [List.forall_mem_cons] at hframes
    have hnext := genuine_step decryptChunk h hd hframes.1
    cases hlast : endsRescue n frame.chunkIdx with
    | false => exact ih (h.step decryptChunk hlast) hnext hframes.2
    | true =>
      obtain ⟨entry, -, -, hstep⟩ := handleRetrieveChunk_of_rescuing decryptChunk h frame
      rw [hlast, if_pos rfl, if_pos rfl] at hstep
      rw [run_cons, run_of_uncached decryptChunk (by rw [hstep]; exact h.streamQueue) (by rw [hstep]) frames]
      exact hnext

end Rescue

/-- **A rescued deposit can be unlocked.** -/
theorem rescued_unlocks_iff (crypto : DepositCrypto) (lock : Lock) (password rawDir : String)
    (hopens : Opens crypto lock password) (chunks : List (List UInt8)) (d : Downloader)
    (hd : d.Rescuing chunks.length rawDir)
    (hfolder : d.Genuine (crypto.decryptChunk (crypto.deriveKey password lock.salt)) chunks rawDir)
    (frames : List RetrieveFrame) (hframes : ∀ frame ∈ frames, ∀ chunk, chunks[frame.chunkIdx]? = some chunk →
      crypto.decryptChunk (crypto.deriveKey password lock.salt) frame.blob frame.chunkIdx = some chunk) :
    let after := run (Downloader.handleRetrieveChunk crypto.decryptChunk) d frames
    (after.Rescued → (∀ idx < chunks.length, after.Holds rawDir idx) ∧
        ∃ d', after.decryptRescued crypto lock rawDir password = .ok (chunks.flatten, d')) ↔
      ∀ idxs ∈ untilLast chunks.length (frames.map (·.chunkIdx)),
        ∀ idx < chunks.length, idx ∈ idxs ∨ d.Holds rawDir idx := by
  intro after
  have houtcome : Outcome chunks.length rawDir d frames after := rescue_outcome hd frames
  have hgenuine : after.Genuine _ chunks rawDir := genuine_run hd hfolder hframes
  constructor
  · intro h idxs hidxs idx hidx
    have hrescued : after.Rescued := houtcome.rescued.mpr (Option.isSome_of_mem hidxs)
    exact (houtcome.holds idxs hidxs idx).mp ((h hrescued).1 idx hidx)
  intro h hrescued
  obtain ⟨idxs, hidxs⟩ := Option.isSome_iff_exists.mp (houtcome.rescued.mp hrescued)
  have hall : ∀ idx < chunks.length, after.Holds rawDir idx := fun idx hidx =>
    (houtcome.holds idxs hidxs idx).mpr (h idxs hidxs idx hidx)
  obtain ⟨row, hrow, hstatus⟩ := hrescued
  obtain ⟨row', hrow', hcount⟩ := houtcome.count
  rw [hrow, Option.some.injEq] at hrow'
  refine ⟨hall, (decryptRescued_eq_ok_iff hopens hrow hstatus (hall 0 (pos_of_untilLast hidxs)) _).mpr ?_⟩
  rw [hrow', hcount]
  exact (decryptFolder_eq_some_iff hgenuine).mpr hall

def plainCrypto : DepositCrypto := ⟨fun _ salt => salt, fun _ _ => true, fun _ blob _ => some blob⟩

def exampleRescue : Downloader where
  row := some ⟨.evictionRequested, "h", 2⟩
  streamQueue := none
  cached := some ⟨none, "", some "rescued", 0, 0, false⟩
  files := ∅
  rawChunks := ∅
  deletesSent := []

theorem exampleRescue_rescuing : exampleRescue.Rescuing 2 "rescued" :=
  ⟨⟨_, rfl, rfl, by decide⟩, rfl, _, rfl, rfl, .inl rfl⟩

theorem rescued_unlocks_iff_in_order :
    let frames : List RetrieveFrame := [⟨0, [1]⟩, ⟨0, [1]⟩, ⟨1, [2]⟩]
    let after := run (Downloader.handleRetrieveChunk plainCrypto.decryptChunk) exampleRescue frames
    after.Rescued ∧ (∀ idx < 2, after.Holds "rescued" idx) ∧
      ∃ d', after.decryptRescued plainCrypto ⟨[0], [0]⟩ "rescued" "pw" = .ok ([1, 2], d') := by
  intro frames after
  have hrescued : after.Rescued := ⟨_, rfl, rfl⟩
  have hopens : Opens plainCrypto ⟨[0], [0]⟩ "pw" := ⟨by decide, by decide, by decide, rfl⟩
  have hfolder : exampleRescue.Genuine (plainCrypto.decryptChunk [0]) [[1], [2]] "rescued" := by
    intro idx blob chunk hblob
    cases hblob
  have hframes : ∀ frame ∈ frames, ∀ chunk, [[1], [2]][frame.chunkIdx]? = some chunk →
      plainCrypto.decryptChunk [0] frame.blob frame.chunkIdx = some chunk := by
    simp [frames, plainCrypto]
  have hiff := rescued_unlocks_iff plainCrypto ⟨[0], [0]⟩ "pw" "rescued" hopens [[1], [2]] exampleRescue
    exampleRescue_rescuing hfolder frames hframes
  have hcomplete : ∀ idxs ∈ untilLast 2 (frames.map (·.chunkIdx)), ∀ idx < 2, idx ∈ idxs := by decide
  exact ⟨hrescued, hiff.mpr (fun idxs hidxs idx hidx => .inl (hcomplete idxs hidxs idx hidx)) hrescued⟩

/-- **The last chunk comes first.** -/
theorem rescued_with_last_chunk_only :
    let frames : List RetrieveFrame := [⟨1, [2]⟩, ⟨0, [1]⟩]
    let after := run (Downloader.handleRetrieveChunk plainCrypto.decryptChunk) exampleRescue frames
    after.row.map (·.status) = some .rescuedEncrypted ∧ after.rawChunks.get ("rescued", 0) = none ∧
      (after.decryptRescued plainCrypto ⟨[0], [0]⟩ "rescued" "pw").toOption.isNone := by
  decide +kernel

end NexusGrid.Storage

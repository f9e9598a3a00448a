import NexusGrid.Lib.AppendLog
import NexusGrid.Lib.Run
import NexusGrid.Lib.Table
import NexusGrid.Storage.Deposit

/-! # Downloading a deposit

`_handle_retrieve_open` on the host, and `_handle_retrieve_chunk` on the depositor.
-/

namespace NexusGrid.Storage

open Lib

/-- A `storage_retrieve_chunk` frame, with its payload decoded. -/
structure RetrieveFrame where
  chunkIdx : Nat
  blob : List UInt8
deriving DecidableEq

/-- The part of a `foreign_storage_keys` entry that a download reads. -/
structure KeyEntry where
  key : Option (List UInt8)
  saveTo : String
  /-- In encrypted-rescue mode. -/
  rawDir : Option String
  dlTotalChunks : Nat
  dlBytes : Nat
  deleteAfterDownload : Bool
deriving DecidableEq

structure DownloadRow where
  status : DepositStatus
  hostUuid : String
  chunkCount : Nat
deriving DecidableEq

/-- The state of the depositor node that `_handle_retrieve_chunk` works on. -/
structure Downloader where
  row : Option DownloadRow
  /-- While chunks are piped to the cloud. -/
  streamQueue : Option (List RetrieveFrame)
  cached : Option KeyEntry
  files : Table String (List UInt8)
  rawChunks : Table (String × Nat) (List UInt8)
  deletesSent : List String

namespace Downloader

/-- `_append_bytes`: mode `wb` for index `0`, else `ab`. -/
def appendBytes (d : Downloader) (target : String) (chunkIdx : Nat) (plaintext : List UInt8) : Downloader :=
  let content := if chunkIdx = 0 then plaintext else (d.files.get target).getD [] ++ plaintext
  { d with files := d.files.put target content }

/-- The first chunk of a download looks the chunk count up in the row. -/
def progress (row : Option DownloadRow) (entry : KeyEntry) (bytes : Nat) : KeyEntry :=
  let entry :=
    match entry.dlTotalChunks, row with
    | 0, some row => { entry with dlTotalChunks := row.chunkCount, dlBytes := 0 }
    | _, _ => entry
  if 0 < entry.dlTotalChunks then { entry with dlBytes := entry.dlBytes + bytes } else entry

def saveRawChunk (d : Downloader) (frame : RetrieveFrame) (rawDir : String) (entry : KeyEntry) : Downloader :=
  let entry :=
    if entry.dlTotalChunks = 0 then
      { entry with dlTotalChunks := (d.row.map DownloadRow.chunkCount).getD 0, dlBytes := 0 }
    else entry
  let entry := { entry with dlBytes := entry.dlBytes + frame.blob.length }
  let finished := 0 < entry.dlTotalChunks ∧ entry.dlTotalChunks ≤ frame.chunkIdx + 1
  { d with
    rawChunks := d.rawChunks.put (rawDir, frame.chunkIdx) frame.blob
    cached := if finished then none else some entry
    row := if finished then d.row.map (fun row => { row with status := .rescuedEncrypted })
      else d.row }

/-- The last index of an armed download withdraws the row and tells the host. -/
def finishDownload (d : Downloader) (entry : KeyEntry) (chunkIdx : Nat) : Downloader :=
  if 0 < entry.dlTotalChunks ∧ entry.dlTotalChunks ≤ chunkIdx + 1 ∧ entry.deleteAfterDownload then
    { d with
      row := d.row.map (fun row => { row with status := .withdrawn })
      deletesSent := d.deletesSent ++ (d.row.map DownloadRow.hostUuid).toList
      cached := some { entry with deleteAfterDownload := false } }
  else { d with cached := some entry }

def handleRetrieveChunk (decryptChunk : List UInt8 → List UInt8 → Nat → Option (List UInt8))
    (d : Downloader) (frame : RetrieveFrame) : Downloader :=
  match d.streamQueue, d.cached with
  | some queue, _ => { d with streamQueue := some (queue ++ [frame]) }
  | none, none => d
  | none, some entry =>
    match entry.rawDir, entry.key with
    | some rawDir, _ => d.saveRawChunk frame rawDir entry
    | none, none => d
    | none, some key =>
      if entry.saveTo = "" then d
      else match decryptChunk key frame.blob frame.chunkIdx with
        | none => d
        | some plaintext =>
          let d := d.appendBytes entry.saveTo frame.chunkIdx plaintext
          d.finishDownload (progress d.row entry plaintext.length) frame.chunkIdx

/-- A download of `n` chunks to `target`; `armed` means delete afterwards. -/
structure Downloading (n : Nat) (key : List UInt8) (target : String) (armed : Bool)
    (d : Downloader) : Prop where
  row : ∃ row, d.row = some row ∧ row.chunkCount = n
  streamQueue : d.streamQueue = none
  target_ne : target ≠ ""
  cached : ∃ entry, d.cached = some entry ∧ entry.key = some key ∧ entry.saveTo = target ∧
    entry.rawDir = none ∧ (entry.dlTotalChunks = 0 ∨ entry.dlTotalChunks = n) ∧
    entry.deleteAfterDownload = armed

variable {decryptChunk : List UInt8 → List UInt8 → Nat → Option (List UInt8)} {n : Nat}
  {key : List UInt8} {target : String} {armed : Bool} {d : Downloader} {frame : RetrieveFrame}

theorem handleRetrieveChunk_of_none (h : d.Downloading n key target armed)
    (hdec : decryptChunk key frame.blob frame.chunkIdx = none) : d.handleRetrieveChunk decryptChunk frame = d := by
  obtain ⟨entry, hcached, hkey, -, hraw, -⟩ := h.cached
  simp only [handleRetrieveChunk, h.streamQueue, hcached, hraw, hkey, hdec, ite_self]

theorem progress_eq {row : DownloadRow} {entry : KeyEntry} (size : Nat) (hn : 0 < n)
    (hcount : row.chunkCount = n) (htotal : entry.dlTotalChunks = 0 ∨ entry.dlTotalChunks = n) :
    ∃ bytes, progress (some row) entry size = { entry with dlTotalChunks := n, dlBytes := bytes } := by
  unfold progress
  rcases htotal with h0 | hlearnt
  · exact ⟨0 + size, by simp [h0, hcount, hn]⟩
  obtain ⟨m, rfl⟩ : ∃ m, n = m + 1 := ⟨n - 1, by omega⟩
  exact ⟨entry.dlBytes + size, by simp [hlearnt]⟩

def written (file : Option (List UInt8)) (chunkIdx : Nat) (plaintext : List UInt8) : List UInt8 :=
  if chunkIdx = 0 then plaintext else file.getD [] ++ plaintext

/-- A chunk that decrypts, and the last one of an armed download. -/
theorem handleRetrieveChunk_of_some (h : d.Downloading n key target armed) (hn : 0 < n)
    {plaintext : List UInt8} (hdec : decryptChunk key frame.blob frame.chunkIdx = some plaintext) :
    (d.handleRetrieveChunk decryptChunk frame).Downloading n key target (armed && !decide (n ≤ frame.chunkIdx + 1)) ∧
      (d.handleRetrieveChunk decryptChunk frame).files.get target
        = some (written (d.files.get target) frame.chunkIdx plaintext) ∧
      ((d.handleRetrieveChunk decryptChunk frame).deletesSent ≠ d.deletesSent ↔
        armed = true ∧ n ≤ frame.chunkIdx + 1) := by
  obtain ⟨row, hrow, hcount⟩ := h.row
  obtain ⟨entry, hcached, hkey, hsave, hraw, htotal, harmed⟩ := h.cached
  have hstep : d.handleRetrieveChunk decryptChunk frame
      = (d.appendBytes target frame.chunkIdx plaintext).finishDownload
          (progress (some row) entry plaintext.length) frame.chunkIdx := by
    simp only [handleRetrieveChunk, h.streamQueue, hcached, hraw, hkey, hdec, hsave,
      if_neg h.target_ne, appendBytes, hrow]
  obtain ⟨bytes, hprogress⟩ := progress_eq plaintext.length hn hcount htotal
  rw [hstep, hprogress]
  set d' := d.appendBytes target frame.chunkIdx plaintext
  have hfile : d'.files.get target = some (written (d.files.get target) frame.chunkIdx plaintext) :=
    Table.get_put_self ..
  have hrow' : d'.row = some row := hrow
  have hqueue : d'.streamQueue = none := h.streamQueue
  have hsent : d'.deletesSent = d.deletesSent := rfl
  clear_value d'
  by_cases hlast : armed = true ∧ n ≤ frame.chunkIdx + 1
  · have hcond : 0 < n ∧ n ≤ frame.chunkIdx + 1 ∧ entry.deleteAfterDownload = true :=
      ⟨hn, hlast.2, harmed.trans hlast.1⟩
    simp only [finishDownload, hcond, and_self, if_true]
    refine ⟨⟨⟨{ row with status := .withdrawn }, by simp [hrow'], hcount⟩, hqueue, h.target_ne,
      _, rfl, hkey, hsave, hraw, .inr rfl, ?_⟩, hfile, ?_⟩
    · simp [hlast]
    · simp [hrow', hsent, hlast]
  have hcond : ¬(0 < n ∧ n ≤ frame.chunkIdx + 1 ∧ entry.deleteAfterDownload = true) :=
    fun hc => hlast ⟨harmed ▸ hc.2.2, hc.2.1⟩
  simp only [finishDownload, if_neg hcond]
  refine ⟨⟨⟨row, hrow', hcount⟩, hqueue, h.target_ne, _, rfl, hkey, hsave, hraw, .inr rfl, ?_⟩, hfile, ?_⟩
  · rw [harmed]
    cases armed <;> simp_all
  · simp [hsent, hlast]

end Downloader

/-- The index of a frame, and whether it decrypts. -/
structure Arrival where
  chunkIdx : Nat
  opens : Bool
deriving DecidableEq

def opened (arrivals : List Arrival) : List Nat := (arrivals.filter Arrival.opens).map Arrival.chunkIdx

/-- `frames` arrive as `arrivals` says, for a deposit with these chunks. -/
def Answers (decryptChunk : List UInt8 → List UInt8 → Nat → Option (List UInt8))
    (key : List UInt8) (chunks : List (List UInt8)) : List Arrival → List RetrieveFrame → Prop :=
  List.Forall₂ fun a frame => frame.chunkIdx = a.chunkIdx ∧
    decryptChunk key frame.blob frame.chunkIdx = if a.opens then chunks[a.chunkIdx]? else none

/-- The file has the content whenever `storage_delete_now` is sent. -/
def DeletesOnlyComplete (decryptChunk : List UInt8 → List UInt8 → Nat → Option (List UInt8))
    (target : String) (content : List UInt8) (d : Downloader) (frames : List RetrieveFrame) : Prop :=
  ∀ pre frame, pre ++ [frame] <+: frames →
    let before := run (Downloader.handleRetrieveChunk decryptChunk) d pre
    let after := before.handleRetrieveChunk decryptChunk frame
    after.deletesSent ≠ before.deletesSent → after.files.get target = some content

/-- From the last `0` to the first `n-1` exactly `0, 1, …, n-1` arrive. -/
def InOrder (n : Nat) (arrivals : List Arrival) : Prop :=
  n - 1 ∈ opened arrivals → fromLast (· == 0) (upTo (n - 1) (opened arrivals)) = List.range n

instance (n : Nat) (arrivals : List Arrival) : Decidable (InOrder n arrivals) := inferInstanceAs (Decidable (_ → _))

section Download

variable {decryptChunk : List UInt8 → List UInt8 → Nat → Option (List UInt8)} {n : Nat}
  {key : List UInt8} {target : String} {content : List UInt8} {d : Downloader}
  {chunks : List (List UInt8)} {arrivals : List Arrival} {frames : List RetrieveFrame}

theorem deletesOnlyComplete_nil : DeletesOnlyComplete decryptChunk target content d [] := by
  intro pre frame hpre
  simp at hpre

theorem deletesOnlyComplete_cons (frame : RetrieveFrame) :
    DeletesOnlyComplete decryptChunk target content d (frame :: frames) ↔
      ((d.handleRetrieveChunk decryptChunk frame).deletesSent ≠ d.deletesSent →
        (d.handleRetrieveChunk decryptChunk frame).files.get target = some content) ∧
      DeletesOnlyComplete decryptChunk target content (d.handleRetrieveChunk decryptChunk frame) frames := by
  constructor
  · intro h
    refine ⟨h [] frame (by simp), fun pre f hpre => ?_⟩
    exact h (frame :: pre) f (by simpa using hpre)
  rintro ⟨hhead, htail⟩ pre f hpre
  cases pre with
  | nil =>
    obtain rfl : f = frame := by simpa using hpre
    exact hhead
  | cons g pre =>
    have hg : g = frame ∧ pre ++ [f] <+: frames := by simpa [List.cons_prefix_cons] using hpre
    obtain ⟨rfl, hpre'⟩ := hg
    exact htail pre f hpre'

theorem deletesOnlyComplete_of_disarmed (hn : 0 < n) (h : d.Downloading n key target false) :
    DeletesOnlyComplete decryptChunk target content d frames := by
  induction frames generalizing d with
  | nil => exact deletesOnlyComplete_nil
  | cons frame frames ih =>
    rw [deletesOnlyComplete_cons]
    cases hdec : decryptChunk key frame.blob frame.chunkIdx with
    | none =>
      rw [Downloader.handleRetrieveChunk_of_none h hdec]
      exact ⟨fun hne => absurd rfl hne, ih h⟩
    | some plaintext =>
      obtain ⟨hnext, -, hsent⟩ := Downloader.handleRetrieveChunk_of_some h hn hdec
      exact ⟨fun hne => absurd (hsent.mp hne).1 Bool.false_ne_true, ih hnext⟩

/-- **What is in the file when the host is told to delete.** -/
theorem deletesOnlyComplete_iff_replay (hn : 0 < n) (hlen : chunks.length = n) (h : d.Downloading n key target true)
    (hopens : ∀ a ∈ arrivals, a.opens = true → a.chunkIdx < n)
    (hans : Answers decryptChunk key chunks arrivals frames) :
    DeletesOnlyComplete decryptChunk target content d frames ↔ (n - 1 ∈ opened arrivals →
        replay (· == 0) (fun i => chunks[i]?.getD []) (d.files.get target)
          (upTo (n - 1) (opened arrivals)) = some content) := by
  induction hans generalizing d with
  | nil => simp [opened, deletesOnlyComplete_nil]
  | @cons a frame arrivals frames ha _ ih =>
    obtain ⟨hidx, hdec⟩ := ha
    have hopens' : ∀ b ∈ arrivals, b.opens = true → b.chunkIdx < n := fun b hb => hopens b (.tail _ hb)
    rw [deletesOnlyComplete_cons]
    cases hopen : a.opens with
    | false =>
      have hnone : decryptChunk key frame.blob frame.chunkIdx = none := by rw [hdec, hopen, if_neg Bool.false_ne_true]
      have hopened : opened (a :: arrivals) = opened arrivals := by simp [opened, hopen]
      rw [Downloader.handleRetrieveChunk_of_none h hnone, hopened, ← ih h hopens']
      simp
    | true =>
      have hlt : a.chunkIdx < n := hopens a (.head _) hopen
      have hsome : decryptChunk key frame.blob frame.chunkIdx
          = some (chunks[a.chunkIdx]?.getD []) := by
        rw [hdec, hopen, if_pos rfl, List.getElem?_eq_getElem (by omega), Option.getD_some]
      have hopened : opened (a :: arrivals) = a.chunkIdx :: opened arrivals := by simp [opened, hopen]
      obtain ⟨hnext, hfile, hsent⟩ := Downloader.handleRetrieveChunk_of_some h hn hsome
      rw [hidx] at hnext hfile hsent
      set d' := d.handleRetrieveChunk decryptChunk frame
      have hwritten : Downloader.written (d.files.get target) a.chunkIdx
            (chunks[a.chunkIdx]?.getD [])
          = if (a.chunkIdx == 0) = true then chunks[a.chunkIdx]?.getD []
            else (d.files.get target).getD [] ++ chunks[a.chunkIdx]?.getD [] := by
        simp [Downloader.written]
      by_cases hlast : a.chunkIdx = n - 1
      · -- the delete goes out now, and nothing after it can
        have hle : n ≤ a.chunkIdx + 1 := by omega
        have hdisarmed : d'.Downloading n key target false := by simpa [hle] using hnext
        rw [hopened, hlast, upTo_cons_self, replay_cons, ← hlast, ← hwritten, ← hfile]
        have hsent' := hsent.mpr ⟨rfl, hle⟩
        have hrest : DeletesOnlyComplete decryptChunk target content d' frames :=
          deletesOnlyComplete_of_disarmed hn hdisarmed
        simp [hsent', hrest, replay]
      · -- nothing is sent, the chunk is one more step of the replay
        have hle : ¬n ≤ a.chunkIdx + 1 := by omega
        have harmed : d'.Downloading n key target true := by simpa [hle] using hnext
        have hsame : d'.deletesSent = d.deletesSent := by
          by_contra hne
          exact hle (hsent.mp hne).2
        rw [hopened, upTo_cons_ne hlast, replay_cons, ← hwritten, ← hfile, ih harmed hopens']
        simp [hsame, Ne.symm hlast]

end Download

theorem flatMap_range_eq_flatten (chunks : List (List UInt8)) :
    (List.range chunks.length).flatMap (fun i => chunks[i]?.getD []) = chunks.flatten := by
  rw [List.flatMap_def]
  congr 1
  apply List.ext_getElem
  · simp
  intro i h₁ h₂
  simp [List.getElem?_eq_getElem h₂]

theorem replay_of_inOrder {n : Nat} {chunks : List (List UInt8)} {arrivals : List Arrival}
    (hn : 0 < n) (hlen : chunks.length = n) (hin : InOrder n arrivals)
    (hlast : n - 1 ∈ opened arrivals) (file : Option (List UInt8)) :
    replay (· == 0) (fun i => chunks[i]?.getD []) file (upTo (n - 1) (opened arrivals)) = some chunks.flatten := by
  have hrange := hin hlast
  have hzero : (0 : Nat) ∈ upTo (n - 1) (opened arrivals) := by
    apply (fromLast_sublist (· == 0) _).subset
    rw [hrange]
    exact List.mem_range.mpr hn
  rw [replay_of_any _ _ _ _ (List.any_eq_true.mpr ⟨0, hzero, rfl⟩), hrange, ← hlen, flatMap_range_eq_flatten]

theorem inOrder_of_replay_unary {n : Nat} {arrivals : List Arrival} (hn : 0 < n) (h : n - 1 ∈ opened arrivals →
      replay (· == 0) unary none (upTo (n - 1) (opened arrivals))
        = some ((List.range n).flatMap unary)) : InOrder n arrivals := by
  intro hlast
  have hfile := h hlast
  cases hany : (upTo (n - 1) (opened arrivals)).any (· == 0) with
  | true =>
    rw [replay_of_any _ _ _ _ hany] at hfile
    exact flatMap_unary_injective (Option.some.inj hfile)
  | false =>
    -- without chunk 0 the file cannot be complete
    rw [replay_none _ _ _ (by simp [upTo]) hany] at hfile
    have hrange := flatMap_unary_injective (Option.some.inj hfile)
    rw [hrange, List.any_eq_false] at hany
    exact absurd rfl (hany 0 (List.mem_range.mpr hn))

/-- What `foreign_storage_retrieve` leaves for a new target. -/
def Downloader.fresh (n : Nat) : Downloader where
  row := some ⟨.stored, "host", n⟩
  streamQueue := none
  cached := some ⟨some [1], "out.bin", none, 0, 0, true⟩
  files := ∅
  rawChunks := ∅
  deletesSent := []

theorem Downloader.fresh_downloading (n : Nat) : (Downloader.fresh n).Downloading n [1] "out.bin" true where
  row := ⟨_, rfl, rfl⟩
  streamQueue := rfl
  target_ne := by decide
  cached := ⟨_, rfl, rfl, rfl, rfl, .inl rfl, rfl⟩

/-- Any blob but the empty one is the chunk of its index. -/
def indexCipher (chunks : List (List UInt8)) (_key blob : List UInt8) (chunkIdx : Nat) : Option (List UInt8) :=
  if blob = [] then none else chunks[chunkIdx]?

/-- The frames of `arrivals` under `indexCipher`. -/
def indexFrames (arrivals : List Arrival) : List RetrieveFrame :=
  arrivals.map fun a => ⟨a.chunkIdx, if a.opens then [0] else []⟩

theorem indexFrames_answers (chunks : List (List UInt8)) (arrivals : List Arrival) :
    Answers (indexCipher chunks) [1] chunks arrivals (indexFrames arrivals) := by
  induction arrivals with
  | nil => exact .nil
  | cons a arrivals ih =>
    refine .cons ⟨rfl, ?_⟩ ih
    cases hopen : a.opens <;> simp [indexCipher, hopen]

/-- **Delete after download is safe exactly for an answer in order.** -/
theorem deletes_only_complete_iff_inOrder (n : Nat) (hn : 0 < n) (arrivals : List Arrival)
    (hopens : ∀ a ∈ arrivals, a.opens = true → a.chunkIdx < n) :
    (∀ (decryptChunk : List UInt8 → List UInt8 → Nat → Option (List UInt8)) (key : List UInt8)
        (target : String) (chunks : List (List UInt8)) (d : Downloader) (frames : List RetrieveFrame),
        chunks.length = n → d.Downloading n key target true → Answers decryptChunk key chunks arrivals frames →
        DeletesOnlyComplete decryptChunk target chunks.flatten d frames) ↔ InOrder n arrivals := by
  constructor
  · intro h
    have hlen : ((List.range n).map unary).length = n := by simp
    have hdel := h (indexCipher ((List.range n).map unary)) [1] "out.bin" _ (.fresh n) _ hlen
      (Downloader.fresh_downloading n) (indexFrames_answers _ arrivals)
    rw [deletesOnlyComplete_iff_replay hn hlen (Downloader.fresh_downloading n) hopens
      (indexFrames_answers _ arrivals)] at hdel
    refine inOrder_of_replay_unary hn fun hlast => ?_
    have hlt : ∀ i ∈ upTo (n - 1) (opened arrivals), i < n := by
      intro i hi
      obtain ⟨a, ha, rfl⟩ := List.mem_map.mp (mem_upTo hi hlast)
      exact hopens a (List.mem_filter.mp ha).1 (List.mem_filter.mp ha).2
    rw [List.flatMap_def, ← hdel hlast]
    refine (replay_congr _ _ (fun i hi => ?_) none).symm
    simp [hlt i hi]
  · intro hin decryptChunk key target chunks d frames hlen hd hans
    rw [deletesOnlyComplete_iff_replay hn hlen hd hopens hans]
    intro hlast
    exact replay_of_inOrder hn hlen hin hlast _

theorem deletes_only_complete_resent : DeletesOnlyComplete (indexCipher [[10], [11]]) "out.bin" [10, 11] (.fresh 2)
      (indexFrames [⟨0, true⟩, ⟨1, false⟩, ⟨1, true⟩]) :=
  (deletes_only_complete_iff_inOrder 2 (by decide) _ (by decide)).mpr (by decide) _ _ _
    [[10], [11]] _ _ rfl (Downloader.fresh_downloading 2) (indexFrames_answers _ _)

/-- **A lost chunk.** -/
theorem deletes_without_middle_chunk :
    let chunks : List (List UInt8) := [[10], [11], [12]]
    let frames := indexFrames [⟨0, true⟩, ⟨2, true⟩]
    let d := run (Downloader.handleRetrieveChunk (indexCipher chunks)) (.fresh 3) frames
    d.deletesSent = ["host"] ∧ d.files.get "out.bin" = some [10, 12] ∧
      ¬DeletesOnlyComplete (indexCipher chunks) "out.bin" chunks.flatten (.fresh 3) frames := by
  refine ⟨by decide, by decide, fun h => ?_⟩
  have hcontent := h [⟨0, [0]⟩] ⟨2, [0]⟩ (by decide) (by decide)
  revert hcontent
  decide

end NexusGrid.Storage

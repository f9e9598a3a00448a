import NexusGrid.Lib.Blocks
import NexusGrid.Lib.PyStr
import NexusGrid.Storage.Deposit

/-! # Previews of deposits

`foreign_storage_preview` (`api/local.py`) streams the plaintext of an unlocked deposit, chunk by chunk, and serves
the part that a `Range` header asks for.
-/

namespace NexusGrid.Storage

open Lib

/-- `s.split(sep, 1)`, if the separator is there. -/
def splitOnce (sep : Char) (s : String) : Option (String × String) :=
  match s.toList.dropWhile fun c => c ≠ sep with
  | [] => none
  | _ :: rest => some (PyStr.before sep s, String.ofList rest)

def rangeBounds (int : String → Option Int) (lo hi : String) (total : Int) : Option (Int × Int) :=
  if lo = "" then
    -- suffix range: the last bytes
    (int hi).bind fun n => if n ≤ 0 ∨ total = 0 then none else some (max 0 (total - n), total - 1)
  else (int lo).bind fun start => if hi = "" then some (start, total - 1) else (int hi).map fun stop => (start, stop)

def parseRangeHeader (int : String → Option Int) (header : String) (total : Int) : Option (Int × Int) :=
  if header = "" ∨ PyStr.startsWith (PyStr.lower header) "bytes=" = false then none
  else
    let spec := PyStr.strip (((splitOnce '=' header).map Prod.snd).getD "")
    let spec := ((splitOnce ',' spec).map fun s => PyStr.strip s.1).getD spec
    (splitOnce '-' spec).bind fun s =>
    (rangeBounds int (PyStr.strip s.1) (PyStr.strip s.2) total).bind fun (start, stop) =>
      if start < 0 ∨ stop < start ∨ total ≤ start then none else some (start, min stop (total - 1))

/-- What is cut out of the plaintext of the chunk `idx`, for chunks of `size` bytes. -/
def piece (size start stop idx : Nat) (plaintext : List UInt8) : List UInt8 :=
  let lo := if idx = start / size then start - idx * size else 0
  let hi := if idx = stop / size then stop - idx * size + 1 else plaintext.length
  slice plaintext lo hi

/-- `_stream`: the pieces, and whether it raises after them. -/
def streamPieces (fetch : Nat → Option (List UInt8)) (chunkCount size start stop : Nat) :
    List Nat → List (List UInt8) × Bool
  | [] => ([], false)
  | idx :: rest =>
    if chunkCount ≤ idx then ([], false)
    else match fetch idx with
      | none => ([], true)
      | some plaintext =>
        let r := streamPieces fetch chunkCount size start stop rest
        (piece size start stop idx plaintext :: r.1, r.2)

/-- The chunks from the one with the byte `start` to the one with the byte `stop`. -/
def chunkRange (size start stop : Nat) : List Nat := List.range' (start / size) (stop / size + 1 - start / size)

structure PreviewResponse where
  status : Nat
  contentRange : Option String
  contentLength : Option Int
  pieces : List (List UInt8)
  raised : Bool

def servePreview (fetch : Nat → Option (List UInt8)) (rng : Option (Int × Int)) (total : Int) (chunkCount : Nat) :
    PreviewResponse :=
  let (start, stop) := rng.getD (0, max 0 (total - 1))
  let r := streamPieces fetch chunkCount chunkPlaintextBytes start.toNat stop.toNat
    (chunkRange chunkPlaintextBytes start.toNat stop.toNat)
  match rng with
  | some _ =>
    ⟨206, some ("bytes " ++ toString start ++ "-" ++ toString stop ++ "/" ++ toString total),
      some (if 0 < total then stop - start + 1 else 0), r.1, r.2⟩
  | none => ⟨200, none, if 0 < total then some total else none, r.1, r.2⟩

/-- For an unlocked deposit; `header` is the `Range` header or empty. -/
def foreignStoragePreview (int : String → Option Int) (fetch : Nat → Option (List UInt8)) (header : String)
    (total : Int) (chunkCount : Nat) : PreviewResponse :=
  if header = "" then servePreview fetch none total chunkCount
  else match parseRangeHeader int header total with
    | none => ⟨416, some ("bytes */" ++ toString total), none, [], false⟩
    | some rng => servePreview fetch (some rng) total chunkCount

theorem parseRangeHeader_bounds {int : String → Option Int} {header : String} {total start stop : Int}
    (h : parseRangeHeader int header total = some (start, stop)) :
    header ≠ "" ∧ 0 ≤ start ∧ start ≤ stop ∧ stop < total := by
  unfold parseRangeHeader at h
  split at h
  · cases h
  next hheader =>
    obtain ⟨s, -, h⟩ := Option.bind_eq_some_iff.mp h
    obtain ⟨⟨lo, hi⟩, -, h⟩ := Option.bind_eq_some_iff.mp h
    dsimp only at h
    split at h
    · cases h
    next hchecked =>
      rw [Option.some.injEq, Prod.mk.injEq] at h
      refine ⟨fun hempty => hheader (.inl hempty), ?_⟩
      omega

section Pieces

variable {fetch : Nat → Option (List UInt8)} {file : List UInt8} {n size start stop : Nat}

/-- Where the part of the file that belongs to the chunks below `i` ends. -/
def cutAt (size start stop i : Nat) : Nat := max start (min (stop + 1) (i * size))

theorem cutAt_le_succ (size start stop i : Nat) : cutAt size start stop i ≤ cutAt size start stop (i + 1) := by
  have hmul : i * size ≤ (i + 1) * size := Nat.mul_le_mul_right size (Nat.le_succ i)
  unfold cutAt
  omega

theorem mem_chunkRange {i : Nat} (hi : i ∈ chunkRange size start stop) : start / size ≤ i ∧ i ≤ stop / size := by
  rw [chunkRange, List.mem_range'_1] at hi
  omega

theorem piece_block (hsize : 0 < size) (hle : start ≤ stop) {i : Nat} (hi : i ∈ chunkRange size start stop) :
    piece size start stop i (slice file (i * size) ((i + 1) * size)) =
      slice file (cutAt size start stop i) (cutAt size start stop (i + 1)) := by
  obtain ⟨hfirst, hlast⟩ := mem_chunkRange hi
  have hbelow : i * size ≤ stop := (Nat.le_div_iff_mul_le hsize).mp hlast
  have hafter : start < (i + 1) * size := (Nat.div_lt_iff_lt_mul hsize).mp (Nat.lt_succ_of_le hfirst)
  have hlo : i * size + (if i = start / size then start - i * size else 0) = cutAt size start stop i := by
    unfold cutAt
    split_ifs with hstart
    · omega
    have hout : start < i * size := (Nat.div_lt_iff_lt_mul hsize).mp (by omega)
    omega
  unfold piece
  by_cases hend : i = stop / size
  · have hhi : min (i * size + (stop - i * size + 1)) ((i + 1) * size) = cutAt size start stop (i + 1) := by
      unfold cutAt
      omega
    rw [if_pos hend, slice_slice, hlo, hhi]
  have hout : (i + 1) * size ≤ stop := (Nat.le_div_iff_mul_le hsize).mp (by omega)
  have hhi : (i + 1) * size = cutAt size start stop (i + 1) := by
    unfold cutAt
    omega
  rw [if_neg hend, slice_to_length, hlo, hhi]

theorem streamPieces_of_fetched {block : Nat → List UInt8} (hfetch : ∀ i < n, fetch i = some (block i))
    {l : List Nat} (hl : ∀ i ∈ l, i < n) :
    streamPieces fetch n size start stop l = (l.map fun i => piece size start stop i (block i), false) := by
  induction l with
  | nil => rfl
  | cons i l ih =>
    rw [List.forall_mem_cons] at hl
    rw [streamPieces, if_neg (Nat.not_le.mpr hl.1), hfetch i hl.1, ih hl.2]
    rfl

theorem streamPieces_slice (hsize : 0 < size)
    (hfetch : ∀ i < n, fetch i = some (slice file (i * size) ((i + 1) * size)))
    (hcount : ∀ i, i * size ≤ stop → i < n) (hle : start ≤ stop) :
    (streamPieces fetch n size start stop (chunkRange size start stop)).1.flatten = slice file start (stop + 1) ∧
      (streamPieces fetch n size start stop (chunkRange size start stop)).2 = false := by
  have hdiv : start / size ≤ stop / size := Nat.div_le_div_right hle
  have hmem : ∀ i ∈ chunkRange size start stop, i < n := fun i hi =>
    hcount i ((Nat.le_div_iff_mul_le hsize).mp (mem_chunkRange hi).2)
  have hfirst : start / size * size ≤ start := Nat.div_mul_le_self start size
  have hlast : stop < (stop / size + 1) * size := (Nat.div_lt_iff_lt_mul hsize).mp (Nat.lt_succ_self _)
  rw [streamPieces_of_fetched hfetch hmem]
  refine ⟨?_, rfl⟩
  calc
    _ = (chunkRange size start stop).flatMap
        (fun i => slice file (cutAt size start stop i) (cutAt size start stop (i + 1))) := by
      exact congrArg List.flatten (List.map_congr_left fun i hi => piece_block hsize hle hi)
    _ = slice file (cutAt size start stop (start / size)) (cutAt size start stop (stop / size + 1)) := by
      rw [chunkRange, flatMap_slice file (cutAt_le_succ size start stop), Nat.add_sub_of_le (Nat.le_succ_of_le hdiv)]
    _ = slice file start (stop + 1) := by
      unfold cutAt
      congr 1 <;> omega

end Pieces

theorem servePreview_slice {fetch : Nat → Option (List UInt8)} {file : List UInt8} {rng : Option (Int × Int)}
    {start stop : Int} (hfetch : ∀ i < chunkCount file.length, fetch i =
      some (slice file (i * chunkPlaintextBytes) ((i + 1) * chunkPlaintextBytes)))
    (hrng : rng.getD (0, max 0 ((file.length : Int) - 1)) = (start, stop)) (hstart : 0 ≤ start) (hle : start ≤ stop)
    (hstop : stop < file.length) : (servePreview fetch rng file.length (chunkCount file.length)).raised = false ∧
    (servePreview fetch rng file.length (chunkCount file.length)).pieces.flatten =
      slice file start.toNat (stop.toNat + 1) := by
  have hcount : ∀ i, i * chunkPlaintextBytes ≤ stop.toNat → i < chunkCount file.length := fun i hi =>
    (lt_chunkCount_iff file.length i).mpr (by omega)
  obtain ⟨hpieces, hraised⟩ := streamPieces_slice (by decide) hfetch hcount (Int.toNat_le_toNat hle)
  unfold servePreview
  rw [hrng]
  cases rng with
  | none => exact ⟨hraised, hpieces⟩
  | some r => exact ⟨hraised, hpieces⟩

/-- **Previews.** -/
theorem preview_serves_range (int : String → Option Int) (file : List UInt8) (hfile : 0 < file.length)
    (fetch : Nat → Option (List UInt8)) (hfetch : ∀ i < chunkCount file.length, fetch i =
      some (slice file (i * chunkPlaintextBytes) ((i + 1) * chunkPlaintextBytes))) :
    (∀ header start stop, parseRangeHeader int header file.length = some (start, stop) →
      0 ≤ start ∧ start ≤ stop ∧ stop < file.length ∧
      (foreignStoragePreview int fetch header file.length (chunkCount file.length)).raised = false ∧
      (foreignStoragePreview int fetch header file.length (chunkCount file.length)).pieces.flatten =
        slice file start.toNat (stop.toNat + 1)) ∧
    (foreignStoragePreview int fetch "" file.length (chunkCount file.length)).raised = false ∧
    (foreignStoragePreview int fetch "" file.length (chunkCount file.length)).pieces.flatten = file := by
  constructor
  · intro header start stop h
    obtain ⟨hheader, hstart, hle, hstop⟩ := parseRangeHeader_bounds h
    rw [foreignStoragePreview, if_neg hheader, h]
    exact ⟨hstart, hle, hstop, servePreview_slice hfetch rfl hstart hle hstop⟩
  have hlast : (max 0 ((file.length : Int) - 1)).toNat + 1 = file.length := by omega
  obtain ⟨hraised, hpieces⟩ := servePreview_slice hfetch (Option.getD_none) le_rfl (le_max_left _ _) (by omega)
  refine ⟨hraised, hpieces.trans ?_⟩
  rw [slice, hlast, List.take_length, Int.toNat_zero, List.drop_zero]

theorem preview_serves_range_middle :
    (foreignStoragePreview (fun _ => some 1) (fun _ => some [7, 8, 9]) "bytes=1-1" ([7, 8, 9] : List UInt8).length
      (chunkCount ([7, 8, 9] : List UInt8).length)).pieces.flatten = slice [7, 8, 9]
        (1 : Int).toNat ((1 : Int).toNat + 1) := by
  have hfetch : ∀ i < chunkCount ([7, 8, 9] : List UInt8).length, (some [7, 8, 9] : Option (List UInt8)) =
      some (slice [7, 8, 9] (i * chunkPlaintextBytes) ((i + 1) * chunkPlaintextBytes)) := by
    intro i hi
    obtain rfl : i = 0 := by
      rw [lt_chunkCount_iff] at hi
      unfold chunkPlaintextBytes at hi
      simp only [List.length_cons, List.length_nil] at hi
      omega
    rfl
  have hpreview := preview_serves_range (fun _ => some 1) [7, 8, 9] (by decide) (fun _ => some [7, 8, 9]) hfetch
  exact (hpreview.1 "bytes=1-1" 1 1 (by decide)).2.2.2.2

end NexusGrid.Storage

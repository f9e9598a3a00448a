import NexusGrid.Lib.Paths
import NexusGrid.Lib.Table

/-! # Capturing a snapshot

The worker that runs a replicated service captures the service's `snapshot_paths` at every tick
(`runtime/service_replication.py`).
-/

namespace NexusGrid.Services

open Lib

inductive MemberKind
  | regular
  | directory
  /-- A further name of a file that is in the archive already. -/
  | hardLink
  | other
deriving DecidableEq

structure TarMember where
  name : String
  kind : MemberKind
  bytes : List UInt8
deriving DecidableEq

inductive Ending
  | complete
  /-- With a `TarError`. -/
  | tarError
  /-- With another exception. -/
  | raises
deriving DecidableEq

inductive Reading
  /-- `get_archive` raises. -/
  | refused
  /-- The stream raises while it is read. -/
  | broken
  /-- The members that the loop comes to, and how it ends. -/
  | archive (members : List TarMember) (ending : Ending)
deriving DecidableEq

/-- A container, as `get_archive` shows it. -/
abbrev Container := String → Reading

abbrev ZipMember := String × List UInt8

/-- `n` in `width` bytes, the lowest first. -/
def littleEndian (n : Nat) : Nat → List UInt8
  | 0 => []
  | width + 1 => UInt8.ofNat n :: littleEndian (n / 256) width

/-- The record at the end of a zip. -/
def endRecord (count size offset : Nat) : List UInt8 :=
  [0x50, 0x4b, 0x05, 0x06] ++ littleEndian 0 4 ++ littleEndian (min count 0xffff) 2 ++
    littleEndian (min count 0xffff) 2 ++ littleEndian (min size 0xffffffff) 4 ++
    littleEndian (min offset 0xffffffff) 4 ++ littleEndian 0 2

/-- How the zip module writes and reads. -/
structure ZipFormat where
  body : List ZipMember → List UInt8
  directory : List ZipMember → List UInt8
  unpack : List UInt8 → Option (List ZipMember)

def ZipFormat.pack (z : ZipFormat) (members : List ZipMember) : List UInt8 := z.body members ++ z.directory members ++
    endRecord members.length (z.directory members).length (z.body members).length

theorem ZipFormat.pack_ne_nil (z : ZipFormat) (members : List ZipMember) : z.pack members ≠ [] := by
  simp [pack, endRecord]

/-- `f"{path.lstrip('/')}/{member.name}"`. -/
def arcname (path name : String) : String := Paths.lstrip path ++ "/" ++ name

def repack (path : String) (members : List TarMember) : List ZipMember :=
  (members.filter (·.kind = .regular)).map fun m => (arcname path m.name, m.bytes)

/-- The members that `_capture_paths_to_zip` writes, `none` when it raises. -/
def capturePaths (c : Container) : List String → Option (List ZipMember)
  | [] => some []
  | path :: paths =>
    match c path with
    | .refused => capturePaths c paths
    | .broken => none
    | .archive _ .raises => none
    | .archive members _ => (capturePaths c paths).map (repack path members ++ ·)

def capturePathsToZip (z : ZipFormat) (c : Container) (paths : List String) : Option (List UInt8) :=
  (capturePaths c paths).map z.pack

/-- `capture_snapshot`, over `STATE.running_task_containers`. -/
def captureSnapshot (z : ZipFormat) (running : Table String Container) (taskId : String)
    (paths : List String) : Option (List UInt8) :=
  match running.get taskId with
  | none => none
  | some c =>
    match capturePathsToZip z c paths with
    | none => none
    | some zipBytes => if zipBytes = [] then none else some zipBytes

/-- One round of `snapshot_ticker` and what is staged on a standby after it. -/
def snapshotTick (z : ZipFormat) (running : Table String Container) (taskId : String)
    (paths : List String) (delivered : Bool) (staged : Option (List UInt8)) : Option (List UInt8) :=
  match captureSnapshot z running taskId paths with
  | none => staged
  | some zipBytes => if delivered then some zipBytes else staged

/-- The exception leaves `_capture_paths_to_zip`. -/
def Reading.Escapes : Reading → Prop
  | .refused => False
  | .broken => True
  | .archive _ ending => ending = .raises

instance : DecidablePred Reading.Escapes
  | .refused => .isFalse id
  | .broken => .isTrue trivial
  | .archive _ ending => inferInstanceAs (Decidable (ending = .raises))

def Reading.Failed : Reading → Prop
  | .refused => True
  | .broken => True
  | .archive members ending => (∀ m ∈ members, m.kind ≠ .regular) ∧ ending ≠ .complete

instance : DecidablePred Reading.Failed
  | .refused => .isTrue trivial
  | .broken => .isTrue trivial
  | .archive _ _ => inferInstanceAs (Decidable (_ ∧ _))

def Reading.captured (path : String) : Reading → List ZipMember
  | .archive members _ => repack path members
  | _ => []

theorem capturePaths_of_no_escape {c : Container} {paths : List String} (h : ∀ path ∈ paths, ¬ (c path).Escapes) :
    capturePaths c paths = some (paths.flatMap fun path => (c path).captured path) := by
  induction paths with
  | nil => rfl
  | cons path paths ih =>
    have hpath := h path (.head _)
    have hrest := ih fun p hp => h p (List.mem_cons_of_mem path hp)
    rw [capturePaths, List.flatMap_cons]
    cases hread : c path with
    | refused => simpa only [Reading.captured, List.nil_append] using hrest
    | broken => simp [hread, Reading.Escapes] at hpath
    | archive members ending =>
      rw [hread] at hpath
      cases ending with
      | raises => exact absurd rfl hpath
      | complete => simp only [hrest, Option.map_some, Reading.captured]
      | tarError => simp only [hrest, Option.map_some, Reading.captured]

theorem capturePaths_eq_none_iff {c : Container} {paths : List String} :
    capturePaths c paths = none ↔ ∃ path ∈ paths, (c path).Escapes := by
  constructor
  · intro h
    by_contra hno
    have hnone : ∀ path ∈ paths, ¬ (c path).Escapes := fun path hpath hesc => hno ⟨path, hpath, hesc⟩
    rw [capturePaths_of_no_escape hnone] at h
    cases h
  intro h
  induction paths with
  | nil => simp at h
  | cons path paths ih =>
    rw [capturePaths]
    rcases (List.exists_mem_cons_iff _ path paths).mp h with hesc | hrest
    · cases hread : c path with
      | refused => simp [hread, Reading.Escapes] at hesc
      | broken => rfl
      | archive members ending =>
        rw [hread] at hesc
        simp only [show ending = .raises from hesc]
    rw [ih hrest]
    cases c path with
    | refused => rfl
    | broken => rfl
    | archive members ending => cases ending <;> rfl

theorem captureSnapshot_eq (z : ZipFormat) {running : Table String Container} {taskId : String}
    {c : Container} (hc : running.get taskId = some c) (paths : List String) :
    captureSnapshot z running taskId paths = (capturePaths c paths).map z.pack := by
  unfold captureSnapshot capturePathsToZip
  simp only [hc]
  cases capturePaths c paths with
  | none => rfl
  | some members => simp only [Option.map_some, z.pack_ne_nil members, if_false]

theorem Reading.captured_of_failed {path : String} {r : Reading} (h : r.Failed) : r.captured path = [] := by
  cases r with
  | refused => rfl
  | broken => rfl
  | archive members ending =>
    rw [Reading.captured, repack, List.map_eq_nil_iff, List.filter_eq_nil_iff]
    intro m hm
    simpa using h.1 m hm

/-- When `capture_snapshot` returns `None`. -/
theorem failed_capture_kept_iff (z : ZipFormat) {running : Table String Container} {taskId : String}
    {c : Container} (hc : running.get taskId = some c) (paths : List String) :
    (captureSnapshot z running taskId paths = none ↔ ∃ path ∈ paths, (c path).Escapes) ∧
      ((∀ path ∈ paths, (c path).Failed) → ∀ staged, snapshotTick z running taskId paths true staged =
        if ∃ path ∈ paths, (c path).Escapes then staged else some (z.pack [])) := by
  have hnone : captureSnapshot z running taskId paths = none ↔ ∃ path ∈ paths, (c path).Escapes := by
    rw [captureSnapshot_eq z hc, Option.map_eq_none_iff, capturePaths_eq_none_iff]
  refine ⟨hnone, fun hfailed staged => ?_⟩
  unfold snapshotTick
  by_cases hesc : ∃ path ∈ paths, (c path).Escapes
  · rw [if_pos hesc, hnone.mpr hesc]
  have hstay : ∀ path ∈ paths, ¬ (c path).Escapes := fun path hp h => hesc ⟨path, hp, h⟩
  have hempty : (paths.flatMap fun path => (c path).captured path) = [] := by
    rw [List.flatMap_eq_nil_iff]
    exact fun path hp => Reading.captured_of_failed (hfailed path hp)
  rw [if_neg hesc, captureSnapshot_eq z hc, capturePaths_of_no_escape hstay, hempty]
  rfl

def bareZip : ZipFormat := ⟨fun _ => [], fun _ => [], fun _ => none⟩

def torn : Container := fun _ => .broken

def unreadable : Container := fun _ => .refused

theorem failed_capture_kept_iff_broken : captureSnapshot bareZip (Table.put ∅ "t" torn) "t" ["/data", "/wal"] = none :=
  (failed_capture_kept_iff bareZip (Table.get_put_self ∅ "t" torn) _).1.mpr
    ⟨"/data", .head _, trivial⟩

/-- `get_archive` refuses the only path. -/
theorem empty_capture_replaces_snapshot :
    let running := Table.put ∅ "t" unreadable
    (∀ path ∈ ["/data"], (unreadable path).Failed) ∧
      (captureSnapshot bareZip running "t" ["/data"]).map List.length = some 22 ∧
      snapshotTick bareZip running "t" ["/data"] true (some (bareZip.pack [("data/data/a", [1])])) =
        some (bareZip.pack []) := by
  refine ⟨by decide, by decide, by decide⟩

end NexusGrid.Services

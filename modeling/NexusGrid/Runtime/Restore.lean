import NexusGrid.Lib.Files
import NexusGrid.Lib.Json
import NexusGrid.Lib.Paths
import NexusGrid.Lib.Run

/-! # Applying a staged restore

An uploaded backup waits in the node's directory as `restore_pending.zip`.
-/

namespace NexusGrid.Runtime

open Lib

/-! ## Names -/

def dbFile (port : Nat) (ext : String) : String := "nexus_mod_" ++ toString port ++ ".db" ++ ext

def pendingName : String := "restore_pending.zip"

def keepExt : String := ".pre_restore"

/-! ## The zip -/

structure Zip where
  names : List String
  read : String → Except String (List UInt8)

/-- The node's directory, the zip and JSON modules, and its schema version. -/
structure BackupEnv where
  base : List String
  unzip : List UInt8 → Except String Zip
  /-- Reads from a zip whose file was overwritten while it was open. -/
  garbled : String → Except String (List UInt8)
  loads : List UInt8 → Except String Json
  /-- `int(v)`, `none` when it raises. -/
  toInt : Json → Option Int
  schemaVersion : Int

namespace BackupEnv

variable (env : BackupEnv)

/-- The fields of `manifest.json`. -/
def manifest (zip : Zip) : Except String (List (String × Json)) := do
  match ← env.loads (← zip.read "manifest.json") with
  | .obj fields => return fields
  | _ => throw "AttributeError"

/-- `validate_backup_zip`: the reason to refuse the zip. -/
def validateBackupZip (bytes : List UInt8) : Option String :=
  let checked : Except String (Option String) := do
    let zip ← env.unzip bytes
    if "manifest.json" ∉ zip.names then return some "no_manifest"
    let fields ← env.manifest zip
    if (Json.get fields "kind").isText "nexus-node-backup" then return none
    return some "wrong_kind"
  match checked with
  | .ok reason => reason
  | .error exc => some ("bad_zip:" ++ exc)

def backupSchemaVersion (bytes : List UInt8) : Option Int :=
  match env.unzip bytes >>= env.manifest with
  | .ok fields => env.toInt ((fields.lookup "schema_version").getD (.int 0))
  | .error _ => none

def restoreTooNew (bytes : List UInt8) : Option Int := (env.backupSchemaVersion bytes).filter (· > env.schemaVersion)

end BackupEnv

/-! ## What a start does -/

/-- The calls up to the first read that raises, and the summary. -/
structure Plan where
  ops : List Files.Op := []
  members : List String := []
  dataFiles : Nat := 0
  complete : Bool := true

def Plan.andThen (p q : Plan) : Plan :=
  if p.complete then
    ⟨p.ops ++ q.ops, p.members ++ q.members, p.dataFiles + q.dataFiles, q.complete⟩
  else p

/-- `p.unlink()` if `p.exists()`. -/
def unlinkIfThere (f : Files) (name : String) : List Files.Op :=
  if (f.look [name]).isSome then [.unlink [name]] else []

def keepOps (f : Files) (port : Nat) : List Files.Op :=
  if (f.fileAt [dbFile port ""]).isSome then
    unlinkIfThere f (dbFile port keepExt) ++ [.rename [dbFile port ""] [dbFile port keepExt]]
  else []

def writeDbPlan (f : Files) (port : Nat) (zip : Zip) : Plan :=
  let ops := unlinkIfThere f (dbFile port "-wal") ++ unlinkIfThere f (dbFile port "-shm")
  match zip.read "nexus.db" with
  | .ok bytes => { ops := ops ++ [.write [dbFile port ""] bytes], members := [dbFile port ""] }
  | .error _ => { ops := ops, complete := false }

/-- `name.startswith(".nexus_") and "/" not in name and "\\" not in name`. -/
def isIdentityName (name : String) : Bool :=
  PyStr.startsWith name ".nexus_" && !name.toList.contains '/' && !name.toList.contains '\\'

/-- Where a data file goes; `none` when that is elsewhere. -/
def memberTarget (base : List String) (name : String) : Option (List String) :=
  if base <+: Paths.join base name then some ((Paths.join base name).drop base.length) else none

def memberPlan (base : List String) (read : String → Except String (List UInt8)) (name : String) : Plan :=
  if name = "manifest.json" ∨ name = "nexus.db" ∨ name.toList.getLast? = some '/' then {}
  else if isIdentityName name then
    match read name with
    | .ok bytes => { ops := [.write [name] bytes], members := [name] }
    | .error _ => { complete := false }
  else
    match memberTarget base name with
    | none => {}
    | some rel =>
      match read name with
      | .ok bytes => { ops := [.mkdirs rel.dropLast, .write rel bytes], dataFiles := 1 }
      | .error _ => { ops := [.mkdirs rel.dropLast], complete := false }

/-- The loop over the names. -/
def membersPlan (env : BackupEnv) (zip : Zip) : Bool → List String → Plan
  | _, [] => {}
  | overwritten, name :: names =>
    let plan := memberPlan env.base (if overwritten then env.garbled else zip.read) name
    plan.andThen
      (membersPlan env zip (overwritten || plan.ops.any fun op => [pendingName] ∈ op.touches) names)

/-- The order of the names, and the call and byte at which the start is stopped. -/
structure Start where
  order : List String → List String
  perm : ∀ names, (order names).Perm names.dedup
  stopped : Option (Nat × Option Nat)

def Start.exec (s : Start) (f : Files) (ops : List Files.Op) : Files × Bool :=
  match s.stopped with
  | none => f.exec ops
  | some (n, m) => ((f.exec (Files.cut ops n m)).1, false)

/-- What `apply_pending_restore` returns, `failed` when it does not return. -/
inductive Outcome
  | nothing
  | refused (reason : String) (backupSchema : Option Int)
  | applied (members : List String) (dataFiles : Nat)
  | failed
deriving DecidableEq

def restorePlan (env : BackupEnv) (port : Nat) (f : Files) (order : List String → List String) (zip : Zip) : Plan :=
  let db : Plan := if "nexus.db" ∈ zip.names then
    Plan.andThen { ops := keepOps f port } (writeDbPlan f port zip) else {}
  db.andThen ((membersPlan env zip false (order zip.names)).andThen { ops := [.unlink [pendingName]] })

def applyPendingRestore (env : BackupEnv) (port : Nat) (f : Files) (s : Start) : Files × Outcome :=
  let refuse (reason : String) (backupSchema : Option Int) : Files × Outcome :=
    let done := s.exec f [.rename [pendingName] [pendingName ++ ".invalid"]]
    (done.1, if done.2 then .refused reason backupSchema else .failed)
  match f.fileAt [pendingName] with
  | none => (f, .nothing)
  | some bytes =>
    match env.validateBackupZip bytes with
    | some reason => refuse reason none
    | none =>
      match env.restoreTooNew bytes with
      | some version => refuse "newer_version" (some version)
      | none =>
        match env.unzip bytes with
        | .error _ => (f, .failed)
        | .ok zip =>
          let plan := restorePlan env port f s.order zip
          let done := s.exec f plan.ops
          (done.1, if done.2 && plan.complete then .applied plan.members plan.dataFiles else .failed)

def startNode (env : BackupEnv) (port : Nat) (f : Files) (s : Start) : Files := (applyPendingRestore env port f s).1

/-! ## Which files a start can touch -/

theorem dbFile_toList (port : Nat) (ext : String) : (dbFile port ext).toList =
      "nexus_mod_".toList ++ (toString port).toList ++ ".db".toList ++ ext.toList := by
  simp only [dbFile, String.toList_append]

theorem dbFile_inj {port : Nat} {a b : String} : dbFile port a = dbFile port b ↔ a = b := by
  constructor
  · intro h
    have hlist := congrArg String.toList h
    rw [dbFile_toList, dbFile_toList] at hlist
    exact String.ext (List.append_cancel_left hlist)
  · exact congrArg (dbFile port)

theorem dbFile_head (port : Nat) (ext : String) : (dbFile port ext).toList.head? = some 'n' := by
  rw [dbFile_toList]
  rfl

theorem dbFile_ne_pending (port : Nat) (ext : String) : dbFile port ext ≠ pendingName := by
  intro h
  have hhead := dbFile_head port ext
  rw [h] at hhead
  cases hhead

/-- The files that a start must leave alone. -/
def ownNames (port : Nat) : List String :=
  [dbFile port "", dbFile port "-wal", dbFile port keepExt, dbFile port (keepExt ++ "-wal"), pendingName]

variable {f : Files} {name : String} {op : Files.Op}

theorem head_of_isIdentityName (h : isIdentityName name = true) : name.toList.head? = some '.' := by
  simp only [isIdentityName, Bool.and_eq_true, PyStr.startsWith, List.isPrefixOf_iff_prefix] at h
  obtain ⟨⟨⟨rest, hrest⟩, -⟩, -⟩ := h
  rw [← hrest]
  rfl

theorem not_isIdentityName {port : Nat} (h : name ∈ ownNames port) : isIdentityName name = false := by
  have hhead : name.toList.head? ≠ some '.' := by
    simp only [ownNames, List.mem_cons, List.not_mem_nil, or_false] at h
    rcases h with rfl | rfl | rfl | rfl | rfl
    · simp [dbFile_head]
    · simp [dbFile_head]
    · simp [dbFile_head]
    · simp [dbFile_head]
    · decide
  exact Bool.eq_false_iff.mpr fun hid => hhead (head_of_isIdentityName hid)

def SparesOwn (env : BackupEnv) (port : Nat) (zip : Zip) : Prop :=
  ∀ name ∈ zip.names, ∀ own ∈ ownNames port, memberTarget env.base name ≠ some [own]

theorem mem_andThen {p q : Plan} (h : op ∈ (p.andThen q).ops) : op ∈ p.ops ∨ op ∈ q.ops := by
  unfold Plan.andThen at h
  split at h
  · exact List.mem_append.mp h
  · exact .inl h

theorem touches_memberPlan {base : List String} {read : String → Except String (List UInt8)}
      (hop : op ∈ (memberPlan base read name).ops) {p : List String} (hp : p ∈ op.touches) :
    isIdentityName name = true ∧ p = [name] ∨ memberTarget base name = some p := by
  unfold memberPlan at hop
  split at hop
  · cases hop
  split at hop
  · rename_i hid
    split at hop
    · rw [List.mem_singleton.mp hop] at hp
      exact .inl ⟨hid, List.mem_singleton.mp hp⟩
    · cases hop
  split at hop
  · cases hop
  rename_i rel htarget
  split at hop
  · rcases List.mem_cons.mp hop with rfl | hwrite
    · cases hp
    rw [List.mem_singleton.mp hwrite] at hp
    exact .inr (List.mem_singleton.mp hp ▸ htarget)
  rw [List.mem_singleton.mp hop] at hp
  cases hp

theorem membersPlan_spares {env : BackupEnv} {port : Nat} {zip : Zip} (hzip : SparesOwn env port zip)
    {own : String} (hown : own ∈ ownNames port) {names : List String}
    (hnames : ∀ name ∈ names, name ∈ zip.names) (overwritten : Bool) :
    ∀ op ∈ (membersPlan env zip overwritten names).ops, [own] ∉ op.touches := by
  induction names generalizing overwritten with
  | nil => exact fun op hop => absurd hop (by simp [membersPlan])
  | cons name names ih =>
    intro op hop htouch
    rcases mem_andThen hop with hfirst | hrest
    · rcases touches_memberPlan hfirst htouch with ⟨hid, heq⟩ | htarget
      · rw [List.singleton_inj.mp heq] at hown
        rw [not_isIdentityName hown] at hid
        cases hid
      · exact hzip name (hnames name (.head _)) own hown htarget
    · exact ih (fun n hn => hnames n (List.mem_cons_of_mem name hn)) _ op hrest htouch

theorem mem_unlinkIfThere (h : op ∈ unlinkIfThere f name) : op = .unlink [name] := by
  unfold unlinkIfThere at h
  split at h
  · exact List.mem_singleton.mp h
  · cases h

theorem mem_keepOps {port : Nat} (h : op ∈ keepOps f port) :
    op = .unlink [dbFile port keepExt] ∨ op = .rename [dbFile port ""] [dbFile port keepExt] := by
  unfold keepOps at h
  split at h
  · rcases List.mem_append.mp h with hunlink | hrename
    · exact .inl (mem_unlinkIfThere hunlink)
    · exact .inr (List.mem_singleton.mp hrename)
  · simp at h

theorem touches_writeDbPlan {port : Nat} {zip : Zip}
    (hop : op ∈ (writeDbPlan f port zip).ops) {p : List String} (hp : p ∈ op.touches) :
    p = [dbFile port "-wal"] ∨ p = [dbFile port "-shm"] ∨ p = [dbFile port ""] := by
  have hunlink : op ∈ unlinkIfThere f (dbFile port "-wal") ++ unlinkIfThere f (dbFile port "-shm") →
      p = [dbFile port "-wal"] ∨ p = [dbFile port "-shm"] := by
    intro hmem
    rcases List.mem_append.mp hmem with hwal | hshm
    · rw [mem_unlinkIfThere hwal] at hp
      exact .inl (List.mem_singleton.mp hp)
    rw [mem_unlinkIfThere hshm] at hp
    exact .inr (List.mem_singleton.mp hp)
  unfold writeDbPlan at hop
  split at hop
  · rcases List.mem_append.mp hop with hmem | hwrite
    · rcases hunlink hmem with h | h
      · exact .inl h
      · exact .inr (.inl h)
    rw [List.mem_singleton.mp hwrite] at hp
    exact .inr (.inr (List.mem_singleton.mp hp))
  rcases hunlink hop with h | h
  · exact .inl h
  · exact .inr (.inl h)

/-! ## Keeping the original database -/

section Keeping

variable (env : BackupEnv) (port : Nat) {γ : Type}
  (content : List UInt8 → Option (List UInt8) → γ) (original : List UInt8) (c₀ : γ)

/-- The database is in its place. -/
def AtDb (f : Files) : Prop :=
  f.fileAt [dbFile port ""] = some original ∧ content original (f.fileAt [dbFile port "-wal"]) = c₀

def AtKeep (f : Files) : Prop := f.fileAt [dbFile port keepExt] = some original

structure Safe (f : Files) : Prop where
  keepWal : f.fileAt [dbFile port (keepExt ++ "-wal")] = none
  staged : ∀ bytes zip, f.fileAt [pendingName] = some bytes → env.unzip bytes = .ok zip → SparesOwn env port zip
  kept : AtDb port content original c₀ f ∨ AtKeep port original f

structure SparesKeep (ops : List Files.Op) : Prop where
  keep : ∀ op ∈ ops, [dbFile port keepExt] ∉ op.touches
  keepWal : ∀ op ∈ ops, [dbFile port (keepExt ++ "-wal")] ∉ op.touches
  pending : ∀ op ∈ ops, [pendingName] ∉ op.makes

variable {env port content original c₀}

variable {f f' : Files} {zip : Zip}

section

variable (hf : Safe env port content original c₀ f)
include hf

theorem Safe.staged_of (h : f'.fileAt [pendingName] = f.fileAt [pendingName] ∨ f'.fileAt [pendingName] = none) :
    ∀ bytes zip, f'.fileAt [pendingName] = some bytes → env.unzip bytes = .ok zip → SparesOwn env port zip := by
  intro bytes zip hbytes hunzip
  rcases h with hsame | hnone
  · exact hf.staged bytes zip (hsame ▸ hbytes) hunzip
  rw [hnone] at hbytes
  cases hbytes

theorem Safe.exec_cut {ops : List Files.Op} (hops : SparesKeep port ops) (hdb : AtKeep port original f ∨
      ∀ op ∈ ops, [dbFile port ""] ∉ op.touches ∧ [dbFile port "-wal"] ∉ op.touches) (n : Nat) (m : Option Nat) :
    Safe env port content original c₀ (f.exec (Files.cut ops n m)).1 where
  keepWal := by rw [Files.fileAt_exec_cut hops.keepWal, hf.keepWal]
  staged := hf.staged_of (Files.fileAt_exec_cut_or_none hops.pending f n m)
  kept := by
    have hkeep := Files.fileAt_exec_cut hops.keep f n m
    rcases hdb with haside | hspares
    · exact .inr (hkeep.trans haside)
    rcases hf.kept with ⟨hfile, hwal⟩ | haside
    · refine .inl ⟨?_, ?_⟩
      · rw [Files.fileAt_exec_cut fun op hop => (hspares op hop).1, hfile]
      · rw [Files.fileAt_exec_cut fun op hop => (hspares op hop).2, hwal]
    · exact .inr (hkeep.trans haside)

/-! Moving the database aside -/

section

variable (hdb : AtDb port content original c₀ f)
include hdb

theorem safe_unlink_keep (h : f.unlink [dbFile port keepExt] = some f') :
    Safe env port content original c₀ f' ∧ AtDb port content original c₀ f' := by
  have hother : ∀ name, name ≠ dbFile port keepExt → f'.fileAt [name] = f.fileAt [name] := by
    intro name hne
    rw [Files.fileAt_unlink h, if_neg (by simpa using hne)]
  have hdb' : AtDb port content original c₀ f' := by
    refine ⟨?_, ?_⟩
    · rw [hother _ (by simp [dbFile_inj, keepExt]), hdb.1]
    · rw [hother _ (by simp [dbFile_inj, keepExt]), hdb.2]
  refine ⟨⟨?_, hf.staged_of (.inl ?_), .inl hdb'⟩, hdb'⟩
  · rw [hother _ (by simp [dbFile_inj]), hf.keepWal]
  · exact hother _ (dbFile_ne_pending port keepExt).symm

theorem safe_rename_db (h : f.rename [dbFile port ""] [dbFile port keepExt] = some f') :
    Safe env port content original c₀ f' ∧ AtKeep port original f' := by
  obtain ⟨bytes, hbytes, hfiles⟩ := Files.fileAt_rename h
  rw [hdb.1] at hbytes
  obtain ⟨rfl⟩ := hbytes
  have hother : ∀ name, name ≠ dbFile port keepExt → name ≠ dbFile port "" → f'.fileAt [name] = f.fileAt [name] := by
    intro name hkeep hname
    rw [hfiles, if_neg (by simpa using hkeep), if_neg (by simpa using hname)]
  have hkeep : AtKeep port original f' := by rw [AtKeep, hfiles, if_pos rfl]
  refine ⟨⟨?_, hf.staged_of (.inl ?_), .inr hkeep⟩, hkeep⟩
  · rw [hother _ (by simp [dbFile_inj]) (by simp [dbFile_inj, keepExt]), hf.keepWal]
  · exact hother _ (dbFile_ne_pending port keepExt).symm (dbFile_ne_pending port "").symm

theorem safe_exec_unlink {done : List Files.Op} (hdone : done <+: unlinkIfThere f (dbFile port keepExt)) :
    Safe env port content original c₀ (f.exec done).1 ∧ AtDb port content original c₀ (f.exec done).1 := by
  cases done with
  | nil => exact ⟨hf, hdb⟩
  | cons op rest =>
    have hop := mem_unlinkIfThere (hdone.subset (.head _))
    have hrest : rest = [] := by
      have hlen := hdone.length_le
      unfold unlinkIfThere at hlen
      split at hlen
      · exact List.eq_nil_of_length_eq_zero (by simpa using hlen)
      · simp at hlen
    subst hop hrest
    rw [Files.exec]
    split
    · exact ⟨hf, hdb⟩
    rename_i f' hunlink
    exact safe_unlink_keep hf hdb hunlink

/-- The database is in its place or in the other. -/
theorem safe_exec_keepOps {done : List Files.Op} (hdone : done <+: keepOps f port) :
    Safe env port content original c₀ (f.exec done).1 ∧
      (done = keepOps f port → (f.exec done).2 = true → AtKeep port original (f.exec done).1) := by
  have hops : keepOps f port = unlinkIfThere f (dbFile port keepExt) ++
      [.rename [dbFile port ""] [dbFile port keepExt]] := by
    rw [keepOps, hdb.1, Option.isSome_some, if_pos rfl]
  rw [hops] at hdone ⊢
  rcases List.prefix_concat_iff.mp hdone with rfl | hfirst
  · obtain ⟨hsafe, hdb'⟩ := safe_exec_unlink hf hdb (List.prefix_refl _)
    rw [Files.exec_append]
    split_ifs with hok
    · rw [Files.exec]
      split
      · exact ⟨hsafe, fun _ hfalse => absurd hfalse (by simp)⟩
      rename_i f' hrename
      obtain ⟨hsafe', hkeep⟩ := safe_rename_db hsafe hdb' hrename
      exact ⟨hsafe', fun _ _ => hkeep⟩
    · exact ⟨hsafe, fun _ htrue => absurd htrue hok⟩
  · refine ⟨(safe_exec_unlink hf hdb hfirst).1, fun heq => ?_⟩
    have hlen := hfirst.length_le
    rw [heq, List.length_append, List.length_singleton] at hlen
    omega

end

/-! The calls of a plan -/

omit hf in
theorem sparesKeep_writeDb (f : Files) (zip : Zip) : SparesKeep port (writeDbPlan f port zip).ops where
  keep := by
    intro op hop htouch
    rcases touches_writeDbPlan hop htouch with h | h | h <;> simp [dbFile_inj, keepExt] at h
  keepWal := by
    intro op hop htouch
    rcases touches_writeDbPlan hop htouch with h | h | h <;> simp [dbFile_inj, keepExt] at h
  pending := by
    intro op hop hmake
    rcases touches_writeDbPlan hop (op.makes_subset_touches hmake) with h | h | h
    · exact dbFile_ne_pending port "-wal" (List.singleton_inj.mp h).symm
    · exact dbFile_ne_pending port "-shm" (List.singleton_inj.mp h).symm
    · exact dbFile_ne_pending port "" (List.singleton_inj.mp h).symm

omit hf in
theorem SparesKeep.append {ops ops' : List Files.Op} (h : SparesKeep port ops) (h' : SparesKeep port ops') :
    SparesKeep port (ops ++ ops') where
  keep := fun op hop => (List.mem_append.mp hop).elim (h.keep op) (h'.keep op)
  keepWal := fun op hop => (List.mem_append.mp hop).elim (h.keepWal op) (h'.keepWal op)
  pending := fun op hop => (List.mem_append.mp hop).elim (h.pending op) (h'.pending op)

omit hf in
theorem SparesKeep.andThen {p q : Plan} (hp : SparesKeep port p.ops) (hq : SparesKeep port q.ops) :
    SparesKeep port (p.andThen q).ops := by
  unfold Plan.andThen
  split
  · exact hp.append hq
  · exact hp

def tailPlan (env : BackupEnv) (order : List String → List String) (zip : Zip) : Plan :=
  (membersPlan env zip false (order zip.names)).andThen { ops := [.unlink [pendingName]] }

omit hf in
theorem touches_tailPlan (hzip : SparesOwn env port zip) (s : Start) {own : String}
    (hown : own ∈ ownNames port) {op : Files.Op} (hop : op ∈ (tailPlan env s.order zip).ops) :
    [own] ∉ op.touches ∨ op = .unlink [pendingName] := by
  have hnames : ∀ name ∈ s.order zip.names, name ∈ zip.names := by
    intro name hname
    exact List.mem_dedup.mp ((s.perm zip.names).mem_iff.mp hname)
  rcases mem_andThen hop with hmember | hunlink
  · exact .inl (membersPlan_spares hzip hown hnames false op hmember)
  · exact .inr (List.mem_singleton.mp hunlink)

omit hf in
theorem db_notMem_touches_tailPlan (hzip : SparesOwn env port zip) (s : Start) {ext : String}
    (hown : dbFile port ext ∈ ownNames port) {op : Files.Op}
    (hop : op ∈ (tailPlan env s.order zip).ops) : [dbFile port ext] ∉ op.touches := by
  rcases touches_tailPlan hzip s hown hop with hspares | rfl
  · exact hspares
  · simpa [Files.Op.touches] using dbFile_ne_pending port ext

omit hf in
theorem sparesKeep_tailPlan (hzip : SparesOwn env port zip) (s : Start) :
    SparesKeep port (tailPlan env s.order zip).ops where
  keep := fun op hop => db_notMem_touches_tailPlan hzip s (by simp [ownNames]) hop
  keepWal := fun op hop => db_notMem_touches_tailPlan hzip s (by simp [ownNames]) hop
  pending := by
    intro op hop hmake
    have hown : pendingName ∈ ownNames port := by simp [ownNames]
    rcases touches_tailPlan hzip s hown hop with hspares | rfl
    · exact hspares (op.makes_subset_touches hmake)
    · cases hmake

omit hf in
theorem restorePlan_ops_of_db (hzip : SparesOwn env port zip) (s : Start) (hdb : "nexus.db" ∈ zip.names) :
    ∃ rest, (restorePlan env port f s.order zip).ops = keepOps f port ++ rest ∧ SparesKeep port rest := by
  have hrest := (sparesKeep_writeDb f zip).andThen (sparesKeep_tailPlan hzip s)
  refine ⟨_, ?_, hrest⟩
  simp only [restorePlan, if_pos hdb]
  unfold tailPlan Plan.andThen
  cases (writeDbPlan f port zip).complete <;> simp

def FreshStart (env : BackupEnv) (port : Nat) (content : List UInt8 → Option (List UInt8) → γ)
    (original : List UInt8) (c₀ : γ) (f : Files) (_ : Start) : Prop :=
  ∀ bytes zip, f.fileAt [pendingName] = some bytes → env.unzip bytes = .ok zip →
    "nexus.db" ∈ zip.names → (f.fileAt [dbFile port ""]).isSome → AtDb port content original c₀ f

omit hf in
theorem Start.exists_cut (s : Start) (f : Files) (ops : List Files.Op) :
    ∃ n m, (s.exec f ops).1 = (f.exec (Files.cut ops n m)).1 := by
  unfold Start.exec
  split
  · exact ⟨ops.length, none, by rw [Files.cut_length]⟩
  · exact ⟨_, _, rfl⟩

theorem safe_restore (hzip : SparesOwn env port zip) (s : Start)
    (hfresh : "nexus.db" ∈ zip.names → (f.fileAt [dbFile port ""]).isSome → AtDb port content original c₀ f) :
    Safe env port content original c₀ (s.exec f (restorePlan env port f s.order zip).ops).1 := by
  obtain ⟨n, m, hexec⟩ := s.exists_cut f (restorePlan env port f s.order zip).ops
  rw [hexec]
  by_cases hnames : "nexus.db" ∈ zip.names
  · obtain ⟨rest, hops, hrest⟩ := restorePlan_ops_of_db hzip s hnames
    rw [hops]
    by_cases hfile : (f.fileAt [dbFile port ""]).isSome
    · -- the database is moved aside first
      have hdb := hfresh hnames hfile
      rw [Files.cut_append]
      split_ifs with hn
      · have hprefix : Files.cut (keepOps f port) n m <+: keepOps f port := by
          refine Files.cut_prefix (fun op hop p bytes => ?_) n m
          rcases mem_keepOps hop with rfl | rfl <;> simp
        exact (safe_exec_keepOps hf hdb hprefix).1
      obtain ⟨hsafe, hkeep⟩ := safe_exec_keepOps hf hdb (List.prefix_refl _)
      rw [Files.exec_append]
      split_ifs with hok
      · exact hsafe.exec_cut hrest (.inl (hkeep rfl hok)) _ m
      · exact hsafe
    · have haside : AtKeep port original f := by
        rcases hf.kept with hdb | haside
        · exact absurd (hdb.1 ▸ rfl) hfile
        · exact haside
      have hnil : keepOps f port = [] := by rw [keepOps, if_neg hfile]
      rw [hnil, List.nil_append]
      exact hf.exec_cut hrest (.inl haside) n m
  · have hops : (restorePlan env port f s.order zip).ops = (tailPlan env s.order zip).ops := by
      simp only [restorePlan, if_neg hnames]
      simp [tailPlan, Plan.andThen]
    rw [hops]
    refine hf.exec_cut (sparesKeep_tailPlan hzip s) (.inr fun op hop => ⟨?_, ?_⟩) n m
    · exact db_notMem_touches_tailPlan hzip s (by simp [ownNames]) hop
    · exact db_notMem_touches_tailPlan hzip s (by simp [ownNames]) hop

theorem safe_refuse (s : Start) : Safe env port content original c₀
      (s.exec f [.rename [pendingName] [pendingName ++ ".invalid"]]).1 := by
  obtain ⟨n, m, hexec⟩ := s.exists_cut f [.rename [pendingName] [pendingName ++ ".invalid"]]
  have hinvalid : ∀ ext, dbFile port ext ≠ pendingName ++ ".invalid" := by
    intro ext h
    have hhead := dbFile_head port ext
    rw [h] at hhead
    cases hhead
  have hspares : ∀ ext, ∀ op ∈ [Files.Op.rename [pendingName] [pendingName ++ ".invalid"]],
      [dbFile port ext] ∉ op.touches := by
    intro ext op hop
    rw [List.mem_singleton.mp hop]
    simp [Files.Op.touches, dbFile_ne_pending port ext, hinvalid ext]
  rw [hexec]
  refine hf.exec_cut ⟨hspares keepExt, hspares _, fun op hop => ?_⟩
    (.inr fun op hop => ⟨hspares "" op hop, hspares "-wal" op hop⟩) n m
  rw [List.mem_singleton.mp hop]
  decide

/-- **One start.** -/
theorem safe_startNode {s : Start} (hfresh : FreshStart env port content original c₀ f s) :
    Safe env port content original c₀ (startNode env port f s) := by
  unfold startNode applyPendingRestore
  cases hpending : f.fileAt [pendingName] with
  | none => exact hf
  | some bytes =>
    simp only
    split
    · exact safe_refuse hf s
    split
    · exact safe_refuse hf s
    split
    · exact hf
    rename_i zip hunzip
    exact safe_restore hf (hf.staged bytes zip hpending hunzip) s
      (hfresh bytes zip hpending hunzip)

end

end Keeping

/-- SQLite reads the content at the path of the database or of the copy. -/
def ContentPresent (port : Nat) {γ : Type} (content : List UInt8 → Option (List UInt8) → γ) (c₀ : γ)
    (f : Files) : Prop :=
  ∃ ext ∈ ["", keepExt], ∃ bytes, f.fileAt [dbFile port ext] = some bytes ∧
    content bytes (f.fileAt [dbFile port (ext ++ "-wal")]) = c₀

/-- **The database of before the first start survives every sequence of starts** -/
theorem original_kept (env : BackupEnv) (port : Nat) {γ : Type}
    (content : List UInt8 → Option (List UInt8) → γ) {original : List UInt8}
    (hdb : f.fileAt [dbFile port ""] = some original)
    (hwal : content original (f.fileAt [dbFile port "-wal"]) = content original none)
    (hkeepWal : f.fileAt [dbFile port (keepExt ++ "-wal")] = none)
    (hzip : ∀ bytes zip, f.fileAt [pendingName] = some bytes → env.unzip bytes = .ok zip → SparesOwn env port zip)
    {starts : List Start} (hfresh : Along (startNode env port)
      (FreshStart env port content original (content original none)) f starts) :
    ContentPresent port content (content original (f.fileAt [dbFile port "-wal"]))
      (run (startNode env port) f starts) := by
  have hsafe : Safe env port content original (content original none) f := ⟨hkeepWal, hzip, .inl ⟨hdb, hwal⟩⟩
  have hrun := run_invariant (P := Safe env port content original (content original none))
    (fun _ _ hfresh hf => safe_startNode hf hfresh) hsafe hfresh
  rw [hwal]
  rcases hrun.kept with ⟨hfile, hcontent⟩ | haside
  · exact ⟨"", by simp, original, hfile, hcontent⟩
  refine ⟨keepExt, by simp, original, haside, ?_⟩
  rw [hrun.keepWal]

/-! ## Starts that keep and that lose it -/

/-- A zip with these members, `none` for one that cannot be read. -/
def stagedZip (members : List (String × Option (List UInt8))) : Zip where
  names := members.map (·.1)
  read name :=
    match members.lookup name with
    | some (some bytes) => .ok bytes
    | some none => .error "BadZipFile"
    | none => .error "KeyError"

/-- A node on which every file is this zip. -/
def restoringNode (members : List (String × Option (List UInt8))) : BackupEnv where
  base := ["node"]
  unzip _ := .ok (stagedZip (("manifest.json", some []) :: members))
  garbled _ := .error "BadZipFile"
  loads _ := .ok (.obj [("kind", .str "nexus-node-backup"), ("schema_version", .int 14)])
  toInt
    | .int n => some n
    | _ => none
  schemaVersion := 14

def nodeFiles (files : List (String × List UInt8)) : Files :=
  (Files.empty.installAll (files.map fun w => ([w.1], w.2))).getD .empty

def startUntil (stopped : Option (Nat × Option Nat)) : Start := ⟨List.dedup, fun _ => .refl _, stopped⟩

theorem original_kept_interrupted :
    let env := restoringNode [("nexus.db", some [9])]
    let f := nodeFiles [(dbFile 8000 "", [7]), (pendingName, [1])]
    ContentPresent 8000 Prod.mk ([7], none)
      (run (startNode env 8000) f [startUntil (some (1, none)), startUntil none]) := by
  have hdb : (nodeFiles [(dbFile 8000 "", [7]), (pendingName, [1])]).fileAt [dbFile 8000 ""] = some [7] := by decide
  refine original_kept (restoringNode [("nexus.db", some [9])]) 8000 Prod.mk hdb (by decide)
    (by decide) ?_ ⟨fun _ _ _ _ _ _ => ⟨by decide, by decide⟩, fun _ _ _ _ _ h => absurd h (by decide), trivial⟩
  intro bytes zip _ hunzip
  cases hunzip
  unfold SparesOwn
  decide

def databases (f : Files) : List (Option (List UInt8)) :=
  ["", "-wal", keepExt, keepExt ++ "-wal"].map fun ext => f.fileAt [dbFile 8000 ext]

/-- The database `[7]` is lost. -/
theorem original_lost : (let env := restoringNode [("nexus.db", some [9]), ("completed_tasks/a", none)]
      let f := nodeFiles [(dbFile 8000 "", [7]), (pendingName, [1])]
      databases (startNode env 8000 f (startUntil none)) = [some [9], none, some [7], none] ∧
      databases (run (startNode env 8000) f [startUntil none, startUntil none]) = [some [9], none, some [9], none]) ∧
    (let env := restoringNode [("nexus.db", some [9])]
      let f := nodeFiles [(dbFile 8000 "", [7]), (dbFile 8000 "-wal", [8]), (pendingName, [1])]
      databases (startNode env 8000 f (startUntil none)) = [some [9], none, some [7], none]) ∧
    (let env := restoringNode [("nexus_mod_8000.db", some [9])]
      let f := nodeFiles [(dbFile 8000 "", [7]), (pendingName, [1])]
      databases (startNode env 8000 f (startUntil none)) = [some [9], none, none, none]) := by
  decide

end NexusGrid.Runtime

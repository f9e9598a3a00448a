import NexusGrid.Lib.Blocks
import NexusGrid.Runtime.Restore

/-! # Backups

`build_backup` of `runtime/backup.py` packs a node's database, its `.nexus_*` files and, for a full backup, the files
of its data directories.
-/

namespace NexusGrid.Runtime

open Lib

/-! ## Writing a backup -/

structure NodeDir where
  base : List String
  files : Files
  plain : ∀ q, (files.look q).isSome → ∀ name ∈ q, Paths.PlainName name
  /-- The year that a file was last changed in. -/
  year : List String → Int

/-- `sorted`, SQLite's online backup, the JSON and zip modules, and the manifest's facts. -/
structure BackupWriter where
  sorted : List (List String) → List (List String)
  sorted_perm : ∀ paths, (sorted paths).Perm paths
  snapshotDb : List UInt8 → Option (List UInt8) → List UInt8
  dumps : Json → List UInt8
  pack : List (String × List UInt8) → List UInt8
  schemaVersion : Int
  createdAt : String
  nodeUuid : String

def fullDataDirs (port : Nat) : List String :=
  ["nexus_relays", "nexus_runners", "nexus_pumps", "nexus_dbproviders", "completed_tasks",
    "nexus_cache_" ++ toString port]

def datable (year : Int) : Bool := 1980 ≤ year && year ≤ 2107

namespace NodeDir

variable (dir : NodeDir)

def paths : List (List String) := dir.files.table.rows.map (·.1)

def isFile (p : List String) : Bool := (dir.files.fileAt p).isSome

/-- `z.write(f, name)`, `none` when it raises. -/
def zWrite (p : List String) : Option (String × List UInt8) :=
  if datable (dir.year p) then (dir.files.fileAt p).map fun bytes => (Paths.ofNames p, bytes) else none

/-- `BASE_DIR.glob(".nexus_*")`. -/
def identityPaths : List (List String) :=
  dir.paths.filter fun p => p.length = 1 && PyStr.startsWith (p.headD "") ".nexus_"

/-- `d.rglob("*")`. -/
def pathsBelow (d : String) : List (List String) := dir.paths.filter fun p => p.head? = some d && p ≠ [d]

end NodeDir

namespace BackupWriter

variable (w : BackupWriter) (dir : NodeDir) (port : Nat)

def dbMember : List (String × List UInt8) :=
  match dir.files.fileAt [dbFile port ""] with
  | some bytes => [("nexus.db", w.snapshotDb bytes (dir.files.fileAt [dbFile port "-wal"]))]
  | none => []

def identityFiles : List (List String) := (w.sorted dir.identityPaths).filter dir.isFile

def dataFiles : List (List String) := (fullDataDirs port).flatMap fun d =>
    if dir.files.look [d] = some .dir then
      (w.sorted (dir.pathsBelow d)).filter fun p => dir.isFile p && "__pycache__" ∉ dir.base ++ p
    else []

def manifest (full : Bool) (members : List String) (dataFiles : Nat) : Json :=
  .obj [("kind", .str "nexus-node-backup"), ("version", .int 1), ("full", .bool full),
    ("created_at", .str w.createdAt), ("node_uuid", .str w.nodeUuid),
    ("schema_version", .int w.schemaVersion), ("members", .arr (members.map .str)),
    ("data_files", .int dataFiles)]

/-- `build_backup`: the members of the zip in order; `none` when it raises. -/
def buildBackup (full : Bool) : Option (List (String × List UInt8)) := do
  let identity ← (w.identityFiles dir).mapM dir.zWrite
  let data ← if full then (w.dataFiles dir port).mapM dir.zWrite else some []
  let members := w.dbMember dir port ++ identity
  return members ++ data ++ [("manifest.json", w.dumps (w.manifest full (members.map (·.1)) data.length))]

end BackupWriter

/-! ## What is in a full backup -/

def Backed (port : Nat) (p : List String) : Prop := (∃ name, p = [name] ∧ PyStr.startsWith name ".nexus_" = true) ∨
    ∃ d ∈ fullDataDirs port, ∃ rest, rest ≠ [] ∧ p = d :: rest

namespace NodeDir

variable {dir : NodeDir}

theorem mem_paths {p : List String} {bytes : List UInt8} (hp : p ≠ [])
    (h : dir.files.fileAt p = some bytes) : p ∈ dir.paths := by
  have hlook := Files.fileAt_eq_some_iff.mp h
  exact List.mem_map.mpr ⟨_, Files.mem_rows_of_look hp hlook, rfl⟩

theorem plain_of_file {p : List String} {bytes : List UInt8} (h : dir.files.fileAt p = some bytes) :
    ∀ name ∈ p, Paths.PlainName name :=
  dir.plain p (Files.fileAt_eq_some_iff.mp h ▸ rfl)

end NodeDir

variable {f f' : Files} {bytes : List UInt8} {name : String} {p : List String}

theorem Backed.ne_nil {port : Nat} (h : Backed port p) : p ≠ [] := by
  rcases h with ⟨name, rfl, -⟩ | ⟨d, -, rest, -, rfl⟩
  · simp
  · simp

namespace BackupWriter

variable {w : BackupWriter} {dir : NodeDir} {port : Nat}

/-- No part of the path of a file, or of the directory, is `__pycache__`. -/
def NoPycache (dir : NodeDir) : Prop := "__pycache__" ∉ dir.base ∧ ∀ p, (dir.files.look p).isSome → "__pycache__" ∉ p

variable {p : List String}

theorem mem_identityFiles (h : p ∈ w.identityFiles dir) : Backed port p ∧ dir.isFile p = true := by
  obtain ⟨hsorted, hfile⟩ := List.mem_filter.mp h
  have hglob := (List.mem_filter.mp ((w.sorted_perm _).mem_iff.mp hsorted)).2
  rw [Bool.and_eq_true, decide_eq_true_eq] at hglob
  obtain ⟨name, rfl⟩ := List.length_eq_one_iff.mp hglob.1
  exact ⟨.inl ⟨name, rfl, hglob.2⟩, hfile⟩

theorem mem_dataFiles (h : p ∈ w.dataFiles dir port) : Backed port p ∧ dir.isFile p = true := by
  obtain ⟨d, hd, hmem⟩ := List.mem_flatMap.mp h
  split at hmem
  · obtain ⟨hsorted, hkept⟩ := List.mem_filter.mp hmem
    have hglob := (List.mem_filter.mp ((w.sorted_perm _).mem_iff.mp hsorted)).2
    rw [Bool.and_eq_true, decide_eq_true_eq, decide_eq_true_eq] at hglob
    obtain ⟨rest, rfl⟩ := List.head?_eq_some_iff.mp hglob.1
    rw [Bool.and_eq_true] at hkept
    refine ⟨.inr ⟨d, hd, rest, ?_, rfl⟩, hkept.1⟩
    rintro rfl
    exact hglob.2 rfl
  · cases hmem

theorem backed_mem (hcache : NoPycache dir) {bytes : List UInt8} (hp : Backed port p)
    (h : dir.files.fileAt p = some bytes) : p ∈ w.identityFiles dir ∨ p ∈ w.dataFiles dir port := by
  have hpaths := NodeDir.mem_paths hp.ne_nil h
  have hfile : dir.isFile p = true := by
    rw [NodeDir.isFile, h]
    rfl
  rcases hp with ⟨name, rfl, hstart⟩ | ⟨d, hd, rest, hrest, rfl⟩
  · refine .inl (List.mem_filter.mpr ⟨(w.sorted_perm _).mem_iff.mpr ?_, hfile⟩)
    exact List.mem_filter.mpr ⟨hpaths, by simpa using hstart⟩
  have hlook := Files.fileAt_eq_some_iff.mp h
  have hdir : dir.files.look [d] = some .dir := Files.look_above (q := rest) (hlook ▸ rfl) hrest
  have hnocache : "__pycache__" ∉ dir.base ++ d :: rest := by
    rw [List.mem_append, not_or]
    exact ⟨hcache.1, hcache.2 _ (hlook ▸ rfl)⟩
  refine .inr (List.mem_flatMap.mpr ⟨d, hd, ?_⟩)
  rw [if_pos hdir]
  refine List.mem_filter.mpr ⟨(w.sorted_perm _).mem_iff.mpr ?_, ?_⟩
  · exact List.mem_filter.mpr ⟨hpaths, by simpa using hrest⟩
  · simpa [hfile] using hnocache

def fileMember (dir : NodeDir) (p : List String) : String × List UInt8 :=
  (Paths.ofNames p, (dir.files.fileAt p).getD [])

theorem mapM_zWrite {paths : List (List String)} (hfile : ∀ p ∈ paths, Backed port p ∧ dir.isFile p = true)
    (hdates : ∀ p, Backed port p → dir.isFile p = true → datable (dir.year p) = true) :
    paths.mapM dir.zWrite = some (paths.map (fileMember dir)) := by
  refine mapM_eq_some_map fun p hp => ?_
  obtain ⟨hbacked, hp⟩ := hfile p hp
  obtain ⟨bytes, hbytes⟩ := Option.isSome_iff_exists.mp hp
  rw [NodeDir.zWrite, if_pos (hdates p hbacked hp), fileMember, hbytes]
  rfl

/-- **A full backup** has the database, the files it is about, and the manifest. -/
theorem buildBackup_full (w : BackupWriter) (hcache : NoPycache dir)
    (hdates : ∀ p, Backed port p → dir.isFile p = true → datable (dir.year p) = true) :
    ∃ files names count, w.buildBackup dir port true = some (w.dbMember dir port ++ files ++
        [("manifest.json", w.dumps (w.manifest true names count))]) ∧
      ∀ m, m ∈ files ↔ ∃ p, Backed port p ∧ dir.files.fileAt p = some m.2 ∧ m.1 = Paths.ofNames p := by
  have hidentity := mapM_zWrite (fun p hp => mem_identityFiles (w := w) hp) hdates
  have hdata := mapM_zWrite (fun p hp => mem_dataFiles (w := w) hp) hdates
  let identity := (w.identityFiles dir).map (fileMember dir)
  let data := (w.dataFiles dir port).map (fileMember dir)
  refine ⟨identity ++ data, (w.dbMember dir port ++ identity).map (·.1), data.length, ?_, fun m => ?_⟩
  · simp only [buildBackup, hidentity, hdata, if_true, Option.bind_eq_bind, Option.bind_some,
      Option.pure_def, List.append_assoc]
    rfl
  simp only [identity, data]
  rw [← List.map_append, List.mem_map]
  constructor
  · rintro ⟨p, hp, rfl⟩
    obtain ⟨hbacked, hfile⟩ : Backed port p ∧ dir.isFile p = true :=
      (List.mem_append.mp hp).elim mem_identityFiles mem_dataFiles
    obtain ⟨bytes, hbytes⟩ := Option.isSome_iff_exists.mp hfile
    exact ⟨p, hbacked, by rw [fileMember, hbytes]; rfl, rfl⟩
  rintro ⟨p, hbacked, hbytes, hname⟩
  refine ⟨p, List.mem_append.mpr (backed_mem hcache hbacked hbytes), ?_⟩
  rw [fileMember, hbytes, ← hname]
  rfl

/-- A file that cannot be dated prevents the backup. -/
theorem datable_of_buildBackup {members : List (String × List UInt8)} (hcache : NoPycache dir)
    (h : w.buildBackup dir port true = some members) (hp : Backed port p)
    (hfile : dir.isFile p = true) : datable (dir.year p) = true := by
  obtain ⟨identity, hidentity, h⟩ := Option.bind_eq_some_iff.mp h
  obtain ⟨data, hdata, -⟩ := Option.bind_eq_some_iff.mp h
  obtain ⟨bytes, hbytes⟩ := Option.isSome_iff_exists.mp hfile
  have hwritten : (dir.zWrite p).isSome := by
    rcases backed_mem (w := w) hcache hp hbytes with hmem | hmem
    · exact isSome_mapM.mp (hidentity ▸ rfl) p hmem
    · exact isSome_mapM.mp (hdata ▸ rfl) p hmem
  by_contra hdate
  rw [NodeDir.zWrite, if_neg hdate] at hwritten
  cases hwritten

end BackupWriter

/-! ## Reading it back -/

/-- The zip module on a zip with these members. -/
def readBack (members : List (String × List UInt8)) : Zip where
  names := members.map (·.1)
  read name :=
    match members.reverse.lookup name with
    | some bytes => .ok bytes
    | none => .error "KeyError"

theorem read_readBack {members : List (String × List UInt8)}
    (h : (name, bytes) ∈ members) (hunique : ∀ other, (name, other) ∈ members → other = bytes) :
    (readBack members).read name = .ok bytes := by
  have hsome : (members.reverse.lookup name).isSome :=
    List.lookup_isSome_iff.mpr ⟨(name, bytes), List.mem_reverse.mpr h, by simp⟩
  obtain ⟨other, hother⟩ := Option.isSome_iff_exists.mp hsome
  obtain ⟨before, after, hsplit, -⟩ := List.lookup_eq_some_iff.mp hother
  have hmem : (name, other) ∈ members := by
    rw [← List.mem_reverse, hsplit]
    simp
  simp only [readBack, hother, hunique other hmem]

structure Names (zip : Zip) (name : String) (p : List String) (bytes : List UInt8) : Prop where
  plain : ∀ part ∈ p, Paths.PlainName part
  ne_nil : p ≠ []
  name_eq : name = Paths.ofNames p
  data : name ≠ "manifest.json" ∧ name ≠ "nexus.db"
  read : zip.read name = .ok bytes
  notPending : p ≠ [pendingName]

theorem exec_install (h : f.install p bytes = some f') : f.exec [.mkdirs p.dropLast, .write p bytes] = (f', true) := by
  obtain ⟨f₁, hmkdirs, hwrite⟩ := Option.bind_eq_some_iff.mp h
  simp only [Files.exec, Files.Op.apply, hmkdirs, hwrite]

theorem exec_install_top (h : f.install [name] bytes = some f') : f.exec [.write [name] bytes] = (f', true) := by
  obtain ⟨f₁, hmkdirs, hwrite⟩ := Option.bind_eq_some_iff.mp h
  cases hmkdirs
  simp only [Files.exec, Files.Op.apply, hwrite]

/-- **The reader puts a file where the writer found it**, under either of its rules. -/
theorem Names.memberPlan {zip : Zip} (h : Names zip name p bytes) (base : List String) :
    (memberPlan base zip.read name).complete = true ∧ (∀ f f' : Files, f.install p bytes = some f' →
        f.exec (memberPlan base zip.read name).ops = (f', true)) ∧
      ∀ op ∈ (memberPlan base zip.read name).ops, [pendingName] ∉ op.touches := by
  have hspecial : ¬ (name = "manifest.json" ∨ name = "nexus.db" ∨ name.toList.getLast? = some '/') := by
    rintro (hm | hdb | hslash)
    · exact h.data.1 hm
    · exact h.data.2 hdb
    rw [h.name_eq] at hslash
    exact Paths.ofNames_no_slash h.plain h.ne_nil hslash
  have hpending : ([pendingName] : List String) ≠ p := fun heq => h.notPending heq.symm
  unfold Runtime.memberPlan
  rw [if_neg hspecial]
  by_cases hid : isIdentityName name = true
  · have hp : p = [name] := by
      have hslash : '/' ∉ name.toList := by
        simp only [isIdentityName, Bool.and_eq_true] at hid
        simpa using hid.1.2
      have hsplit : PyStr.split '/' name = [name] := by
        rw [PyStr.split, PyStr.pieces_of_notMem hslash, List.map_singleton, String.ofList_toList]
      rw [← hsplit, h.name_eq, Paths.split_ofNames h.plain h.ne_nil]
    subst hp
    simp only [if_pos hid, h.read]
    refine ⟨trivial, fun f f' hinstall => exec_install_top hinstall, fun op hop => ?_⟩
    rw [List.mem_singleton.mp hop]
    simpa [Files.Op.touches] using hpending
  · have htarget : memberTarget base name = some p := by
      rw [memberTarget, h.name_eq, Paths.join_ofNames h.plain h.ne_nil, if_pos (List.prefix_append _ _), List.drop_left]
    simp only [if_neg hid, htarget, h.read]
    refine ⟨trivial, fun f f' hinstall => exec_install hinstall, fun op hop => ?_⟩
    rcases List.mem_cons.mp hop with rfl | hwrite
    · simp [Files.Op.touches]
    rw [List.mem_singleton.mp hwrite]
    simpa [Files.Op.touches] using hpending

def placed (zip : Zip) (name : String) : Option (List String × List UInt8) :=
  if name = "manifest.json" ∨ name = "nexus.db" then none
  else (zip.read name).toOption.map fun bytes => (Paths.parts name, bytes)

theorem Names.placed {zip : Zip} (h : Names zip name p bytes) : placed zip name = some (p, bytes) := by
  have hparts : Paths.parts name = p := by rw [h.name_eq, Paths.parts_ofNames h.plain]
  rw [Runtime.placed, if_neg (not_or.mpr h.data), h.read, hparts]
  rfl

theorem memberPlan_special {base : List String} {read : String → Except String (List UInt8)}
     (h : name = "manifest.json" ∨ name = "nexus.db") : memberPlan base read name = {} := by
  rw [memberPlan, if_pos]
  rcases h with h | h
  · exact .inl h
  · exact .inr (.inl h)

theorem exec_membersPlan (env : BackupEnv) {zip : Zip} {names : List String}
    (h : ∀ name ∈ names, (name = "manifest.json" ∨ name = "nexus.db") ∨ ∃ p bytes, Names zip name p bytes)
     (hf : f.installAll (names.filterMap (placed zip)) = some f') :
    (membersPlan env zip false names).complete = true ∧ f.exec (membersPlan env zip false names).ops = (f', true) := by
  induction names generalizing f with
  | nil => exact ⟨rfl, by rw [Option.some.inj hf]; rfl⟩
  | cons name names ih =>
    have hrest := fun n hn => h n (List.mem_cons_of_mem name hn)
    rcases h name (.head _) with hspecial | ⟨p, bytes, hname⟩
    · have hskip : placed zip name = none := by rw [placed, if_pos hspecial]
      rw [List.filterMap_cons_none hskip] at hf
      have hplan := ih hrest hf
      simpa [membersPlan, memberPlan_special hspecial, Plan.andThen] using hplan
    rw [List.filterMap_cons_some hname.placed, Files.installAll, List.foldlM_cons] at hf
    obtain ⟨f₁, hinstall, hall⟩ := Option.bind_eq_some_iff.mp hf
    obtain ⟨hcomplete, hexec, hspares⟩ := hname.memberPlan env.base
    have hflag : (memberPlan env.base zip.read name).ops.any
        (fun op => [pendingName] ∈ op.touches) = false := by
      rw [List.any_eq_false]
      exact fun op hop => by simpa using hspares op hop
    obtain ⟨hdone, hops⟩ := ih hrest hall
    simp only [membersPlan, Bool.false_eq_true, if_false, hflag, Bool.or_false, Plan.andThen, hcomplete, if_true]
    refine ⟨hdone, ?_⟩
    rw [Files.exec_append, hexec f f₁ hinstall]
    exact hops

/-! ## The names of a backup -/

theorem Backed.ofNames_ne {port : Nat} (h : Backed port p) (hplain : ∀ part ∈ p, Paths.PlainName part) {x : String}
    (hx : PyStr.startsWith x ".nexus_" = false ∧ Paths.parts x = [x]) : Paths.ofNames p ≠ x := by
  rintro rfl
  rw [Paths.parts_ofNames hplain] at hx
  rcases h with ⟨name, hp, hstart⟩ | ⟨d, -, rest, hrest, rfl⟩
  · rw [hx.2, List.singleton_inj] at hp
    rw [hp, hstart] at hx
    cases hx.1
  · exact hrest (List.cons.inj hx.2).2

theorem fullDataDirs_seventh {port : Nat} {d : String} (h : d ∈ fullDataDirs port) :
    d.toList[6]? ≠ some 'm' ∧ d.toList[6]? ≠ some 'e' := by
  simp only [fullDataDirs, List.mem_cons, List.not_mem_nil, or_false] at h
  rcases h with rfl | rfl | rfl | rfl | rfl | rfl
  · decide
  · decide
  · decide
  · decide
  · decide
  rw [String.toList_append]
  exact ⟨by simp, by simp⟩

def IsOwn (port : Nat) (x : String) : Prop := x = pendingName ∨ ∃ ext, x = dbFile port ext

theorem Backed.not_below {port : Nat} (h : Backed port p) {x : String} (hx : IsOwn port x) : ¬ [x] <+: p := by
  rintro ⟨below, rfl⟩
  rcases h with ⟨name, hp, hstart⟩ | ⟨d, hd, rest, -, hp⟩
  · cases hp
    have hhead : x.toList.head? = some '.' := by
      rw [PyStr.startsWith, List.isPrefixOf_iff_prefix] at hstart
      obtain ⟨cs, hcs⟩ := hstart
      rw [← hcs]
      rfl
    rcases hx with rfl | ⟨ext, rfl⟩
    · cases hhead
    rw [dbFile_head] at hhead
    cases hhead
  · cases hp
    obtain ⟨hm, he⟩ := fullDataDirs_seventh hd
    rcases hx with rfl | ⟨ext, rfl⟩
    · exact he (by decide)
    refine hm ?_
    rw [dbFile_toList]
    rfl

structure FullBackup (w : BackupWriter) (dir : NodeDir) (port : Nat) (snapshot : List UInt8) (zip : Zip) : Prop where
  db_mem : "nexus.db" ∈ zip.names
  db_read : zip.read "nexus.db" = .ok snapshot
  manifest_mem : "manifest.json" ∈ zip.names
  manifest_read : ∃ names count, zip.read "manifest.json" = .ok (w.dumps (w.manifest true names count))
  files : ∀ name ∈ zip.names, (name = "manifest.json" ∨ name = "nexus.db") ∨
    ∃ p bytes, Names zip name p bytes ∧ Backed port p ∧ dir.files.fileAt p = some bytes
  all : ∀ p bytes, Backed port p → dir.files.fileAt p = some bytes →
    Paths.ofNames p ∈ zip.names ∧ Names zip (Paths.ofNames p) p bytes

theorem Backed.ofNames_special {dir : NodeDir} {port : Nat} (hp : Backed port p)
    (h : dir.files.fileAt p = some bytes) : Paths.ofNames p ≠ "manifest.json" ∧ Paths.ofNames p ≠ "nexus.db" := by
  have hplain := NodeDir.plain_of_file h
  exact ⟨hp.ofNames_ne hplain (by decide), hp.ofNames_ne hplain (by decide)⟩

section Members

variable {w : BackupWriter} {dir : NodeDir} {port : Nat} {snapshot manifest : List UInt8}
  {files : List (String × List UInt8)}

def fullMembers (snapshot : List UInt8) (files : List (String × List UInt8)) (manifest : List UInt8) :
    List (String × List UInt8) :=
  [("nexus.db", snapshot)] ++ files ++ [("manifest.json", manifest)]

variable (hfiles : ∀ m, m ∈ files ↔ ∃ p, Backed port p ∧ dir.files.fileAt p = some m.2 ∧ m.1 = Paths.ofNames p)

include hfiles

theorem mem_fullMembers {m : String × List UInt8} : m ∈ fullMembers snapshot files manifest ↔
    m = ("nexus.db", snapshot) ∨ (∃ p, Backed port p ∧ dir.files.fileAt p = some m.2 ∧ m.1 = Paths.ofNames p) ∨
      m = ("manifest.json", manifest) := by
  simp only [fullMembers, List.mem_append, List.mem_singleton, hfiles, or_assoc]

theorem read_db : (readBack (fullMembers snapshot files manifest)).read "nexus.db" = .ok snapshot := by
  refine read_readBack ((mem_fullMembers hfiles).mpr (.inl rfl)) fun other hother => ?_
  rcases (mem_fullMembers hfiles).mp hother with heq | ⟨p, hp, hbytes, heq⟩ | heq
  · exact (Prod.mk.inj heq).2
  · exact absurd heq.symm (hp.ofNames_special hbytes).2
  · exact absurd (Prod.mk.inj heq).1 (by decide)

theorem read_manifest : (readBack (fullMembers snapshot files manifest)).read "manifest.json" = .ok manifest := by
  refine read_readBack ((mem_fullMembers hfiles).mpr (.inr (.inr rfl))) fun other hother => ?_
  rcases (mem_fullMembers hfiles).mp hother with heq | ⟨p, hp, hbytes, heq⟩ | heq
  · exact absurd (Prod.mk.inj heq).1 (by decide)
  · exact absurd heq.symm (hp.ofNames_special hbytes).1
  · exact (Prod.mk.inj heq).2

theorem read_file {p : List String} {bytes : List UInt8} (hp : Backed port p) (h : dir.files.fileAt p = some bytes) :
    (readBack (fullMembers snapshot files manifest)).read (Paths.ofNames p) = .ok bytes := by
  refine read_readBack ((mem_fullMembers hfiles).mpr (.inr (.inl ⟨p, hp, h, rfl⟩))) fun other hother => ?_
  rcases (mem_fullMembers hfiles).mp hother with heq | ⟨p', hp', h', heq⟩ | heq
  · exact absurd (congrArg Prod.fst heq) (hp.ofNames_special h).2
  · -- the parts of a name are those of one file
    have hparts := congrArg Paths.parts heq
    rw [Paths.parts_ofNames (NodeDir.plain_of_file h), Paths.parts_ofNames (NodeDir.plain_of_file h')] at hparts
    rw [← hparts, h] at h'
    exact (Option.some.inj h').symm
  · exact absurd (congrArg Prod.fst heq) (hp.ofNames_special h).1

theorem names_file {p : List String} {bytes : List UInt8} (hp : Backed port p) (h : dir.files.fileAt p = some bytes) :
    Names (readBack (fullMembers snapshot files manifest)) (Paths.ofNames p) p bytes := by
  refine ⟨NodeDir.plain_of_file h, hp.ne_nil, rfl, hp.ofNames_special h, read_file hfiles hp h, ?_⟩
  rintro rfl
  exact hp.not_below (.inl rfl) (List.prefix_refl _)

theorem fullBackup_readBack {names : List String} {count : Nat} : FullBackup w dir port snapshot
      (readBack (fullMembers snapshot files (w.dumps (w.manifest true names count)))) := by
  refine ⟨?_, read_db hfiles, ?_, ⟨names, count, read_manifest hfiles⟩, ?_, ?_⟩
  · exact List.mem_map.mpr ⟨("nexus.db", snapshot), (mem_fullMembers hfiles).mpr (.inl rfl), rfl⟩
  · exact List.mem_map.mpr ⟨_, (mem_fullMembers hfiles).mpr (.inr (.inr rfl)), rfl⟩
  · intro name hmem
    obtain ⟨m, hm, rfl⟩ := List.mem_map.mp hmem
    rcases (mem_fullMembers hfiles).mp hm with rfl | ⟨p, hp, hbytes, hname⟩ | rfl
    · exact .inl (.inr rfl)
    · exact .inr ⟨p, m.2, hname ▸ names_file hfiles hp hbytes, hp, hbytes⟩
    · exact .inl (.inl rfl)
  intro p bytes hp hbytes
  have hin : (Paths.ofNames p, bytes) ∈ fullMembers snapshot files (w.dumps (w.manifest true names count)) :=
    (mem_fullMembers hfiles).mpr (.inr (.inl ⟨p, hp, hbytes, rfl⟩))
  exact ⟨List.mem_map.mpr ⟨_, hin, rfl⟩, names_file hfiles hp hbytes⟩

end Members

/-! ## Applying it in an empty directory -/

def stagedDir (bytes : List UInt8) : Files := (Files.empty.writeFile [pendingName] bytes).getD Files.empty

theorem look_stagedDir (bytes : List UInt8) {q : List String} (hq : q ≠ []) :
    (stagedDir bytes).look q = if q = [pendingName] then some (.file bytes) else none := by
  have hhold : Files.empty.CanHold [pendingName] (.file bytes) :=
    ⟨by simp, rfl, .inr (by rw [Files.look_empty (by simp)]; simp)⟩
  obtain ⟨f, hcreate, hlook⟩ := Files.create_of_canHold hhold
  rw [stagedDir, Files.writeFile, hcreate, Option.getD_some, hlook, Files.look_empty hq]

theorem fileAt_stagedDir (bytes : List UInt8) : (stagedDir bytes).fileAt [pendingName] = some bytes := by
  rw [Files.fileAt_eq_some_iff, look_stagedDir bytes (by simp), if_pos rfl]

theorem look_stagedDir_db (bytes : List UInt8) (port : Nat) (ext : String) :
    (stagedDir bytes).look [dbFile port ext] = none := by
  rw [look_stagedDir bytes (by simp), if_neg (by simpa using dbFile_ne_pending port ext)]

def BackupEnv.ReadsManifest (env : BackupEnv) (w : BackupWriter) : Prop :=
  ∀ names count, ∃ fields, env.loads (w.dumps (w.manifest true names count)) = .ok (.obj fields) ∧
    Json.get fields "kind" = .str "nexus-node-backup" ∧
    fields.lookup "schema_version" = some (.int w.schemaVersion)

section Accepting

variable {env : BackupEnv} {w : BackupWriter} {dir : NodeDir} {port : Nat} {snapshot : List UInt8}
  {zip : Zip} (hzip : FullBackup w dir port snapshot zip)

include hzip

variable {bytes : List UInt8}

theorem FullBackup.accepted (hunzip : env.unzip bytes = .ok zip) (hjson : env.ReadsManifest w)
    (hint : env.toInt (.int w.schemaVersion) = some env.schemaVersion) :
    env.validateBackupZip bytes = none ∧ env.restoreTooNew bytes = none := by
  obtain ⟨names, count, hread⟩ := hzip.manifest_read
  obtain ⟨fields, hloads, hkind, hschema⟩ := hjson names count
  have hfields : env.manifest zip = .ok fields := by
    rw [BackupEnv.manifest, hread]
    simp only [bind, Except.bind, hloads]
    rfl
  constructor
  · have hmem := hzip.manifest_mem
    simp [BackupEnv.validateBackupZip, hunzip, hmem, hfields, hkind, Json.isText, bind, Except.bind, pure, Except.pure]
  have hversion : env.backupSchemaVersion bytes = some env.schemaVersion := by
    simp only [BackupEnv.backupSchemaVersion, hunzip, bind, Except.bind, hfields, hschema, Option.getD_some, hint]
  rw [BackupEnv.restoreTooNew, hversion]
  simp

theorem FullBackup.mem_placed (s : Start) {p : List String} :
    (p, bytes) ∈ (s.order zip.names).filterMap (placed zip) ↔ Backed port p ∧ dir.files.fileAt p = some bytes := by
  have horder : ∀ name, name ∈ s.order zip.names ↔ name ∈ zip.names := fun name =>
    (s.perm zip.names).mem_iff.trans List.mem_dedup
  rw [List.mem_filterMap]
  constructor
  · rintro ⟨name, hname, hplaced⟩
    rcases hzip.files name ((horder name).mp hname) with hspecial | ⟨p', bytes', hn, hp', hbytes'⟩
    · rw [placed, if_pos hspecial] at hplaced
      cases hplaced
    rw [hn.placed] at hplaced
    cases hplaced
    exact ⟨hp', hbytes'⟩
  rintro ⟨hp, hbytes⟩
  obtain ⟨hmem, hn⟩ := hzip.all p bytes hp hbytes
  exact ⟨_, (horder _).mpr hmem, hn.placed⟩

theorem FullBackup.placed_consistent (s : Start) : Files.Consistent ((s.order zip.names).filterMap (placed zip)) := by
  rintro ⟨p, bytes⟩ hw ⟨p', bytes'⟩ hw' hpre
  have hlook := Files.fileAt_eq_some_iff.mp ((hzip.mem_placed s).mp hw).2
  have hlook' := Files.fileAt_eq_some_iff.mp ((hzip.mem_placed s).mp hw').2
  by_cases heq : p = p'
  · subst heq
    rw [hlook] at hlook'
    obtain ⟨rfl⟩ := hlook'
    rfl
  -- a file is above no other
  rw [Files.look_of_prefix hpre heq (hlook' ▸ rfl)] at hlook
  cases hlook

theorem FullBackup.restorePlan_eq (s : Start) (bytes : List UInt8)
    (hcomplete : (membersPlan env zip false (s.order zip.names)).complete = true) :
    (restorePlan env port (stagedDir bytes) s.order zip).complete = true ∧
      (restorePlan env port (stagedDir bytes) s.order zip).ops = [.write [dbFile port ""] snapshot] ++
          ((membersPlan env zip false (s.order zip.names)).ops ++ [.unlink [pendingName]]) := by
  have hgone : ∀ ext, unlinkIfThere (stagedDir bytes) (dbFile port ext) = [] := by
    intro ext
    rfl
  have hkeep : keepOps (stagedDir bytes) port = [] := by
    rfl
  simp [restorePlan, hzip.db_mem, hkeep, writeDbPlan, hgone, hzip.db_read, Plan.andThen, hcomplete]

omit hzip in
theorem Backed.admits {f : Files} (hf : ∀ q, f.look q = if q = [dbFile port ""] then some (.file snapshot)
      else (stagedDir bytes).look q) {p : List String} (hp : Backed port p) : f.Admits p := by
  have hother : ∀ q, q <+: p → q ≠ [] → f.look q = none := by
    intro q hq hne
    have hdb : q ≠ [dbFile port ""] := fun heq => hp.not_below (.inr ⟨"", rfl⟩) (heq ▸ hq)
    have hpending : q ≠ [pendingName] := fun heq => hp.not_below (.inl rfl) (heq ▸ hq)
    rw [hf, if_neg hdb, look_stagedDir bytes hne, if_neg hpending]
  refine ⟨hp.ne_nil, fun q hq _ file hfile => ?_, ?_⟩
  · by_cases hnil : q = []
    · rw [hnil, Files.look_nil] at hfile
      cases hfile
    rw [hother q hq hnil] at hfile
    cases hfile
  · rw [hother p (List.prefix_refl p) hp.ne_nil]
    simp

omit hzip in
theorem exec_write_db (port : Nat) (snapshot bytes : List UInt8) :
    ∃ f, (stagedDir bytes).exec [.write [dbFile port ""] snapshot] = (f, true) ∧
      ∀ q, f.look q = if q = [dbFile port ""] then some (.file snapshot) else (stagedDir bytes).look q := by
  have hhold : (stagedDir bytes).CanHold [dbFile port ""] (.file snapshot) :=
    ⟨by simp, rfl, .inr (by rw [look_stagedDir_db]; simp)⟩
  obtain ⟨f, hcreate, hlook⟩ := Files.create_of_canHold hhold
  exact ⟨f, by simp only [Files.exec, Files.Op.apply, Files.writeFile, hcreate], hlook⟩

theorem FullBackup.exec_restorePlan (env : BackupEnv) (s : Start) (bytes : List UInt8) :
    ∃ f, (restorePlan env port (stagedDir bytes) s.order zip).complete = true ∧
      (stagedDir bytes).exec (restorePlan env port (stagedDir bytes) s.order zip).ops = (f, true) ∧
      f.fileAt [dbFile port ""] = some snapshot ∧ f.fileAt [dbFile port "-wal"] = none ∧
      ∀ p file, Backed port p → dir.files.fileAt p = some file → f.fileAt p = some file := by
  obtain ⟨f₁, hwrite, hlook₁⟩ := exec_write_db port snapshot bytes
  have hadmits : ∀ m ∈ (s.order zip.names).filterMap (placed zip), f₁.Admits m.1 :=
    fun m hm => Backed.admits hlook₁ ((hzip.mem_placed s).mp hm).1
  obtain ⟨f₂, hall, hinstalled⟩ := Files.installAll_some (hzip.placed_consistent s) hadmits
  have hnames : ∀ name ∈ s.order zip.names, (name = "manifest.json" ∨ name = "nexus.db") ∨
      ∃ p bytes, Names zip name p bytes := by
    intro name hname
    have hmem := List.mem_dedup.mp ((s.perm zip.names).mem_iff.mp hname)
    rcases hzip.files name hmem with hspecial | ⟨p, file, hn, -, -⟩
    · exact .inl hspecial
    · exact .inr ⟨p, file, hn⟩
  obtain ⟨hcomplete, hmembers⟩ := exec_membersPlan env hnames hall
  obtain ⟨hplan, hops⟩ := hzip.restorePlan_eq s bytes hcomplete
  -- the node's own files are as the write of the database left them
  have hown : ∀ x, IsOwn port x → f₂.look [x] = f₁.look [x] := by
    intro x hx
    refine hinstalled.rest [x] fun m hm => ?_
    exact ((hzip.mem_placed s).mp hm).1.not_below hx
  have hpending : f₂.look [pendingName] = some (.file bytes) := by
    rw [hown _ (.inl rfl), hlook₁, if_neg (by simpa using (dbFile_ne_pending port "").symm),
      look_stagedDir bytes (by simp), if_pos rfl]
  obtain ⟨f₃, hunlink⟩ := Files.exists_unlink hpending
  have hkept : ∀ q, q ≠ [pendingName] → f₃.fileAt q = f₂.fileAt q := by
    intro q hq
    rw [Files.fileAt_unlink hunlink, if_neg hq]
  refine ⟨f₃, hplan, ?_, ?_, ?_, fun p file hp hfile => ?_⟩
  · rw [hops, Files.exec_append, hwrite]
    simp only [if_true]
    rw [Files.exec_append, hmembers]
    simp only [if_true, Files.exec, Files.Op.apply, hunlink]
  · rw [hkept _ (by simpa using dbFile_ne_pending port ""), Files.fileAt_eq_some_iff, hown _ (.inr ⟨"", rfl⟩),
      hlook₁, if_pos rfl]
  · rw [hkept _ (by simpa using dbFile_ne_pending port "-wal"), Files.fileAt, hown _ (.inr ⟨"-wal", rfl⟩),
      hlook₁, if_neg (by simp [dbFile_inj]), look_stagedDir_db]
  have hne : p ≠ [pendingName] := by
    rintro rfl
    exact hp.not_below (.inl rfl) (List.prefix_refl _)
  rw [hkept p hne, Files.fileAt_eq_some_iff]
  exact hinstalled.files (p, file) ((hzip.mem_placed s).mpr ⟨hp, hfile⟩)

theorem FullBackup.applied (hunzip : env.unzip bytes = .ok zip) (hjson : env.ReadsManifest w)
    (hint : env.toInt (.int w.schemaVersion) = some env.schemaVersion) (s : Start) (hs : s.stopped = none) :
    ∃ f names count, applyPendingRestore env port (stagedDir bytes) s = (f, .applied names count) ∧
      f.fileAt [dbFile port ""] = some snapshot ∧ f.fileAt [dbFile port "-wal"] = none ∧
      ∀ p file, Backed port p → dir.files.fileAt p = some file → f.fileAt p = some file := by
  obtain ⟨hvalid, hnew⟩ := hzip.accepted hunzip hjson hint
  obtain ⟨f, hcomplete, hexec, hkept⟩ := hzip.exec_restorePlan env s bytes
  let plan := restorePlan env port (stagedDir bytes) s.order zip
  refine ⟨f, plan.members, plan.dataFiles, ?_, hkept⟩
  simp only [applyPendingRestore, fileAt_stagedDir, hvalid, hnew, hunzip, Start.exec, hs, hexec, hcomplete,
    Bool.and_self, if_true, plan]

end Accepting

/-- **A full backup brings everything back**, exactly if every file that it is about can be dated in a
zip. -/
theorem backup_restores_iff {γ : Type} (content : List UInt8 → Option (List UInt8) → γ)
    (w : BackupWriter) (env : BackupEnv) {dir : NodeDir} {port : Nat} {db : List UInt8}
    (hdb : dir.files.fileAt [dbFile port ""] = some db)
    (hsnapshot : content (w.snapshotDb db (dir.files.fileAt [dbFile port "-wal"])) none =
      content db (dir.files.fileAt [dbFile port "-wal"])) (hcache : BackupWriter.NoPycache dir)
    (hzip : ∀ members, w.buildBackup dir port true = some members →
      env.unzip (w.pack members) = .ok (readBack members)) (hjson : env.ReadsManifest w)
    (hversion : env.toInt (.int w.schemaVersion) = some env.schemaVersion) (s : Start)
    (hs : s.stopped = none) :
    (∃ members f names count, w.buildBackup dir port true = some members ∧
      applyPendingRestore env port (stagedDir (w.pack members)) s = (f, .applied names count) ∧
      (∃ restored, f.fileAt [dbFile port ""] = some restored ∧
        content restored (f.fileAt [dbFile port "-wal"]) =
          content db (dir.files.fileAt [dbFile port "-wal"])) ∧
      ∀ p file, Backed port p → dir.files.fileAt p = some file → f.fileAt p = some file) ↔
    ∀ p, Backed port p → dir.isFile p = true → datable (dir.year p) = true := by
  constructor
  · rintro ⟨members, _, _, _, hbuild, -⟩ p hp hfile
    exact BackupWriter.datable_of_buildBackup hcache hbuild hp hfile
  intro hdates
  obtain ⟨files, members, count, hbuild, hfiles⟩ := BackupWriter.buildBackup_full w hcache hdates
  have hmember : w.dbMember dir port = [("nexus.db", w.snapshotDb db (dir.files.fileAt [dbFile port "-wal"]))] := by
    rw [BackupWriter.dbMember, hdb]
  rw [hmember] at hbuild
  obtain ⟨f, names, dataFiles, happlied, hrestored, hwal, hall⟩ :=
    (fullBackup_readBack hfiles).applied (hzip _ hbuild) hjson hversion s hs
  refine ⟨_, f, names, dataFiles, hbuild, happlied, ⟨_, hrestored, ?_⟩, hall⟩
  rw [hwal, hsnapshot]

/-! ## A node that is and one that is not backed up -/

def nodeOf (year : Int) : NodeDir where
  base := ["srv", "node"]
  files := (Files.empty.installAll
    [([dbFile 8000 ""], [7]), ([".nexus_secret"], [5]), (["completed_tasks", "a"], [6])]).getD Files.empty
  plain := Files.forall_names (by decide)
  year _ := year

def plainWriter : BackupWriter where
  sorted := id
  sorted_perm _ := .refl _
  snapshotDb db _ := db
  dumps _ := []
  pack _ := []
  schemaVersion := 14
  createdAt := "2026-01-01T00:00:00+00:00"
  nodeUuid := "node"

def emptyNode : BackupEnv where
  base := ["srv", "other"]
  unzip _ := .ok (readBack ((plainWriter.buildBackup (nodeOf 2026) 8000 true).getD []))
  garbled _ := .error "BadZipFile"
  loads _ := .ok (.obj [("kind", .str "nexus-node-backup"), ("schema_version", .int 14)])
  toInt
    | .int n => some n
    | _ => none
  schemaVersion := 14

theorem backup_restores_iff_node : ∃ members f names count,
    plainWriter.buildBackup (nodeOf 2026) 8000 true = some members ∧
      applyPendingRestore emptyNode 8000 (stagedDir (plainWriter.pack members)) (startUntil none) =
        (f, .applied names count) ∧ (∃ restored, f.fileAt [dbFile 8000 ""] = some restored ∧
        (restored, f.fileAt [dbFile 8000 "-wal"]) = ([7], (nodeOf 2026).files.fileAt [dbFile 8000 "-wal"])) ∧
      ∀ p file, Backed 8000 p → (nodeOf 2026).files.fileAt p = some file → f.fileAt p = some file := by
  refine (backup_restores_iff Prod.mk plainWriter emptyNode (by decide) (by decide) ⟨by decide, ?_⟩
    ?_ (fun _ _ => ⟨_, rfl, rfl, rfl⟩) rfl (startUntil none) rfl).mpr fun _ _ _ => rfl
  · intro p hp hmem
    exact Files.forall_names (P := fun name => name ≠ "__pycache__") (by decide) p hp _ hmem rfl
  intro members hbuild
  rw [emptyNode, hbuild]
  rfl

/-- A file from 1979 prevents the backup. -/
theorem no_backup_before_1980 : plainWriter.buildBackup (nodeOf 1979) 8000 true = none := by
  decide

end NexusGrid.Runtime

import Mathlib.Data.List.Infix
import NexusGrid.Lib.Table

/-! # Files below a directory

A path is the list of its parts below the directory, and `Files` holds what is at each path: a file with its bytes, or
a directory.
-/

namespace NexusGrid.Lib

inductive FileEntry
  | file (bytes : List UInt8)
  | dir
deriving DecidableEq

structure Files where
  table : Table (List String) FileEntry
  closed : ∀ p name, (table.get (p ++ [name])).isSome → p = [] ∨ table.get p = some .dir

namespace Files

def empty : Files := ⟨∅, fun p name h => by simp at h⟩

def look (f : Files) (p : List String) : Option FileEntry := if p = [] then some .dir else f.table.get p

@[simp] theorem look_nil (f : Files) : f.look [] = some .dir := rfl

variable {e : FileEntry} {f f' : Files} {bytes : List UInt8} {p q : List String}

theorem look_empty (hp : p ≠ []) : empty.look p = none := by
  rw [look, if_neg hp]
  exact Table.get_empty p

theorem look_concat (f : Files) (p : List String) (name : String) :
    f.look (p ++ [name]) = f.table.get (p ++ [name]) := by
  rw [look, if_neg (by simp)]

theorem mem_rows_of_look (hp : p ≠ []) (h : f.look p = some e) : (p, e) ∈ f.table.rows := by
  rw [look, if_neg hp] at h
  exact (Table.mem_rows f.table p e).mpr h

theorem forall_names {P : String → Prop} (h : ∀ m ∈ f.table.rows, ∀ name ∈ m.1, P name)
    (p : List String) (hp : (f.look p).isSome) : ∀ name ∈ p, P name := by
  intro name hname
  obtain ⟨e, he⟩ := Option.isSome_iff_exists.mp hp
  exact h _ (mem_rows_of_look (List.ne_nil_of_mem hname) he) name hname

theorem look_parent {name : String} (h : (f.look (p ++ [name])).isSome) : f.look p = some .dir := by
  rw [look_concat] at h
  rw [look]
  rcases f.closed p name h with rfl | hdir
  · rfl
  · rw [hdir, ite_self]

theorem look_above (h : (f.look (p ++ q)).isSome) (hq : q ≠ []) : f.look p = some .dir := by
  induction q using List.reverseRecOn with
  | nil => exact absurd rfl hq
  | append_singleton q name ih =>
    rw [← List.append_assoc] at h
    have hparent := look_parent h
    by_cases hnil : q = []
    · rwa [hnil, List.append_nil] at hparent
    · exact ih (hparent ▸ rfl) hnil

theorem look_of_prefix (hp : p <+: q) (hne : p ≠ q) (h : (f.look q).isSome) : f.look p = some .dir := by
  obtain ⟨rest, rfl⟩ := hp
  exact look_above h fun hrest => hne (by rw [hrest, List.append_nil])

/-- The parent is a directory, and no directory is replaced by a file. -/
def CanHold (f : Files) (p : List String) (e : FileEntry) : Prop :=
  p ≠ [] ∧ f.look p.dropLast = some .dir ∧ (e = .dir ∨ f.look p ≠ some .dir)

instance (f : Files) (p : List String) (e : FileEntry) : Decidable (f.CanHold p e) :=
  inferInstanceAs (Decidable (_ ∧ _))

theorem closed_put (h : f.CanHold p e)
    (q : List String) (name : String) (hq : ((f.table.put p e).get (q ++ [name])).isSome) :
    q = [] ∨ (f.table.put p e).get q = some .dir := by
  obtain ⟨hp, hparent, hkind⟩ := h
  rw [Table.get_put] at hq ⊢
  by_cases hqp : q = p
  · -- below the new entry: it is a directory, or there was nothing to be below
    rw [if_pos hqp]
    rcases hkind with rfl | hfile
    · exact .inr rfl
    rw [if_neg (by simp [hqp]), hqp, ← look_concat] at hq
    exact absurd (look_parent hq) hfile
  rw [if_neg hqp]
  by_cases hnew : q ++ [name] = p
  · rw [← hnew, List.dropLast_concat, look] at hparent
    by_cases hnil : q = []
    · exact .inl hnil
    rw [if_neg hnil] at hparent
    exact .inr hparent
  · rw [if_neg hnew] at hq
    exact f.closed q name hq

def set (f : Files) (p : List String) (e : FileEntry) (h : f.CanHold p e) : Files := ⟨f.table.put p e, closed_put h⟩

theorem look_set (f : Files) (p : List String) (e : FileEntry) (h : f.CanHold p e)
    (q : List String) : (f.set p e h).look q = if q = p then some e else f.look q := by
  unfold look set
  by_cases hq : q = []
  · have hne : q ≠ p := fun hqp => h.1 (hqp ▸ hq)
    rw [if_pos hq, if_pos hq, if_neg hne]
  · rw [if_neg hq, if_neg hq, Table.get_put]

def create (f : Files) (p : List String) (e : FileEntry) : Option Files :=
  if h : f.CanHold p e then some (f.set p e h) else none

theorem create_of_canHold (h : f.CanHold p e) :
    ∃ f', f.create p e = some f' ∧ ∀ q, f'.look q = if q = p then some e else f.look q :=
  ⟨f.set p e h, dif_pos h, look_set f p e h⟩

theorem look_create (h : f.create p e = some f')
    (q : List String) : f'.look q = if q = p then some e else f.look q := by
  unfold create at h
  split at h
  · rename_i hold
    rw [← Option.some.inj h]
    exact look_set f p e hold q
  · cases h

/-- `open(p, "wb")`, a `write` and a `close`. -/
def writeFile (f : Files) (p : List String) (bytes : List UInt8) : Option Files := f.create p (.file bytes)

/-- `os.mkdir`, where a directory may be there already. -/
def mkdir (f : Files) (p : List String) : Option Files :=
  match f.look p with
  | none => f.create p .dir
  | some .dir => some f
  | some (.file _) => none

/-- The directories below `above`, one after the other. -/
def mkdirsFrom (f : Files) (above : List String) : List String → Option Files
  | [] => some f
  | name :: rest => (f.mkdir (above ++ [name])).bind fun f => f.mkdirsFrom (above ++ [name]) rest

/-- `mkdir(parents=True, exist_ok=True)`. -/
def mkdirs (f : Files) (p : List String) : Option Files := f.mkdirsFrom [] p

def install (f : Files) (p : List String) (bytes : List UInt8) : Option Files :=
  (f.mkdirs p.dropLast).bind fun f => f.writeFile p bytes

def installAll (f : Files) (ws : List (List String × List UInt8)) : Option Files :=
  ws.foldlM (fun f w => f.install w.1 w.2) f

def NoFile (f : Files) (p : List String) : Prop := ∀ bytes, f.look p ≠ some (.file bytes)

theorem mkdir_of_noFile {name : String} (hp : f.look p = some .dir) (h : f.NoFile (p ++ [name])) :
    ∃ f', f.mkdir (p ++ [name]) = some f' ∧ ∀ q, f'.look q = if q = p ++ [name] then some .dir else f.look q := by
  unfold mkdir
  cases hlook : f.look (p ++ [name]) with
  | none =>
    refine create_of_canHold ⟨by simp, ?_, .inl rfl⟩
    rwa [List.dropLast_concat]
  | some e =>
    cases e with
    | file bytes => exact absurd hlook (h bytes)
    | dir =>
      refine ⟨f, rfl, fun q => ?_⟩
      by_cases hq : q = p ++ [name]
      · rw [if_pos hq, hq, hlook]
      · rw [if_neg hq]

theorem mkdirsFrom_of_noFile {above rest : List String} (habove : f.look above = some .dir)
    (h : ∀ q, q <+: rest → f.NoFile (above ++ q)) : ∃ f', f.mkdirsFrom above rest = some f' ∧
      ∀ q, f'.look q = if q <+: above ++ rest then some .dir else f.look q := by
  induction rest generalizing f above with
  | nil =>
    refine ⟨f, rfl, fun q => ?_⟩
    by_cases hq : q <+: above ++ []
    · rw [if_pos hq]
      rw [List.append_nil] at hq
      by_cases heq : q = above
      · rw [heq, habove]
      · exact look_of_prefix hq heq (habove ▸ rfl)
    · rw [if_neg hq]
  | cons name rest ih =>
    have hfirst : f.NoFile (above ++ [name]) := h [name] ⟨rest, rfl⟩
    obtain ⟨f₁, hmkdir, hlook₁⟩ := mkdir_of_noFile habove hfirst
    have hdir₁ : f₁.look (above ++ [name]) = some .dir := by rw [hlook₁, if_pos rfl]
    have hrest : ∀ q, q <+: rest → f₁.NoFile (above ++ [name] ++ q) := by
      intro q hq bytes
      rw [hlook₁]
      split
      · simp
      rw [List.append_assoc]
      exact h ([name] ++ q) (by simpa using hq) bytes
    obtain ⟨f₂, hmkdirs, hlook₂⟩ := ih hdir₁ hrest
    refine ⟨f₂, by rw [mkdirsFrom, hmkdir, Option.bind_some, hmkdirs], fun q => ?_⟩
    rw [hlook₂, List.append_assoc, List.singleton_append]
    by_cases hq : q <+: above ++ name :: rest
    · rw [if_pos hq, if_pos hq]
    rw [if_neg hq, if_neg hq, hlook₁, if_neg]
    rintro rfl
    exact hq ⟨rest, by simp⟩

theorem mkdirs_of_noFile (h : ∀ q, q <+: p → f.NoFile q) :
    ∃ f', f.mkdirs p = some f' ∧ ∀ q, f'.look q = if q <+: p then some .dir else f.look q :=
  mkdirsFrom_of_noFile (look_nil f) h

/-- No file is above the path, and it is not a directory. -/
def Admits (f : Files) (p : List String) : Prop := p ≠ [] ∧ (∀ q, q <+: p → q ≠ p → f.NoFile q) ∧ f.look p ≠ some .dir

theorem dropLast_prefix_ne (hp : p ≠ []) (hq : q <+: p.dropLast) : q ≠ p := by
  rintro rfl
  have hlen := hq.length_le
  rw [List.length_dropLast] at hlen
  have hpos := List.length_pos_of_ne_nil hp
  omega

theorem prefix_dropLast_iff (hp : p ≠ []) : q <+: p.dropLast ↔ q <+: p ∧ q ≠ p := by
  constructor
  · intro h
    exact ⟨h.trans p.dropLast_prefix, dropLast_prefix_ne hp h⟩
  rintro ⟨h, hne⟩
  rw [← List.dropLast_concat_getLast hp, List.prefix_concat_iff] at h
  rcases h with rfl | h
  · exact absurd (List.dropLast_concat_getLast hp) hne
  · exact h

theorem install_of_admits (h : f.Admits p) (bytes : List UInt8) : ∃ f', f.install p bytes = some f' ∧ ∀ q, f'.look q =
      if q = p then some (.file bytes) else if q <+: p then some .dir else f.look q := by
  obtain ⟨hp, hdirs, hdir⟩ := h
  have hnofile : ∀ q, q <+: p.dropLast → f.NoFile q := by
    intro q hq
    obtain ⟨hpre, hne⟩ := (prefix_dropLast_iff hp).mp hq
    exact hdirs q hpre hne
  obtain ⟨f₁, hmkdirs, hlook₁⟩ := mkdirs_of_noFile hnofile
  have hhold : f₁.CanHold p (.file bytes) := by
    refine ⟨hp, by rw [hlook₁, if_pos (List.prefix_refl _)], .inr ?_⟩
    rwa [hlook₁, if_neg fun hq => dropLast_prefix_ne hp hq rfl]
  obtain ⟨f₂, hwrite, hlook₂⟩ := create_of_canHold hhold
  refine ⟨f₂, by rw [install, hmkdirs]; exact hwrite, fun q => ?_⟩
  rw [hlook₂]
  by_cases hq : q = p
  · rw [if_pos hq, if_pos hq]
  rw [if_neg hq, if_neg hq, hlook₁]
  congr 1
  exact propext ((prefix_dropLast_iff hp).trans (and_iff_left hq))

/-- No file is above another, and a path has one content. -/
def Consistent (ws : List (List String × List UInt8)) : Prop := ∀ w ∈ ws, ∀ w' ∈ ws, w.1 <+: w'.1 → w = w'

structure Installed (f : Files) (ws : List (List String × List UInt8)) (f' : Files) : Prop where
  files : ∀ w ∈ ws, f'.look w.1 = some (.file w.2)
  dirs : ∀ q, ∀ w ∈ ws, q <+: w.1 → q ≠ w.1 → f'.look q = some .dir
  rest : ∀ q, (∀ w ∈ ws, ¬ q <+: w.1) → f'.look q = f.look q

theorem admits_of_install {f₁ : Files} {w w' : List String × List UInt8}
    (hww : w.1 <+: w'.1 → w = w') (hw'w : w'.1 <+: w.1 → w' = w) (hlook : ∀ q, f₁.look q =
      if q = w.1 then some (.file w.2) else if q <+: w.1 then some .dir else f.look q)
    (h : f.Admits w'.1) : f₁.Admits w'.1 := by
  obtain ⟨hne, hdirs, hdir⟩ := h
  refine ⟨hne, fun q hq hqne bytes => ?_, ?_⟩
  · rw [hlook]
    split_ifs with hqw hqpre
    · -- the file just written would be above this one
      exact absurd (hqw.trans (congrArg Prod.fst (hww (hqw ▸ hq)))) hqne
    · simp
    · exact hdirs q hq hqne bytes
  rw [hlook]
  split_ifs with heq hpre
  · simp
  · exact absurd (congrArg Prod.fst (hw'w hpre)) heq
  · exact hdir

theorem Installed.cons {f₁ f₂ : Files} {w : List String × List UInt8}
    {ws : List (List String × List UInt8)} (hws : Consistent (w :: ws)) (hlook : ∀ q, f₁.look q =
      if q = w.1 then some (.file w.2) else if q <+: w.1 then some .dir else f.look q)
    (h : Installed f₁ ws f₂) : Installed f (w :: ws) f₂ where
  files := by
    intro w' hw'
    rcases List.mem_cons.mp hw' with rfl | hmem
    · by_cases hex : ∃ w₂ ∈ ws, w'.1 <+: w₂.1
      · obtain ⟨w₂, hw₂, hpre⟩ := hex
        rw [hws w' hw' w₂ (.tail _ hw₂) hpre]
        exact h.files w₂ hw₂
      · rw [h.rest w'.1 fun w₂ hw₂ hpre => hex ⟨w₂, hw₂, hpre⟩, hlook, if_pos rfl]
    · exact h.files w' hmem
  dirs := by
    intro q w' hw' hq hqne
    rcases List.mem_cons.mp hw' with rfl | hmem
    · by_cases hex : ∃ w₂ ∈ ws, q <+: w₂.1
      · obtain ⟨w₂, hw₂, hpre⟩ := hex
        by_cases hqw : q = w₂.1
        · -- the file `q` would be above this one
          have heq := hws w₂ (.tail _ hw₂) w' hw' (hqw ▸ hq)
          exact absurd (hqw.trans (congrArg Prod.fst heq)) hqne
        · exact h.dirs q w₂ hw₂ hpre hqw
      · rw [h.rest q fun w₂ hw₂ hpre => hex ⟨w₂, hw₂, hpre⟩, hlook, if_neg hqne, if_pos hq]
    · exact h.dirs q w' hmem hq hqne
  rest := by
    intro q hq
    have hnot : ¬ q <+: w.1 := hq w (.head _)
    have hne : q ≠ w.1 := fun heq => hnot (heq ▸ List.prefix_refl _)
    rw [h.rest q fun w' hw' => hq w' (List.mem_cons_of_mem w hw'), hlook, if_neg hne, if_neg hnot]

/-- **Installing files.** Each is there, with the directories above it, and nothing else has changed. -/
theorem installAll_some {ws : List (List String × List UInt8)} (hws : Consistent ws)
    (hf : ∀ w ∈ ws, f.Admits w.1) : ∃ f', f.installAll ws = some f' ∧ Installed f ws f' := by
  induction ws generalizing f with
  | nil => exact ⟨f, rfl, by simp, by simp, fun _ _ => rfl⟩
  | cons w ws ih =>
    obtain ⟨f₁, hinstall, hlook⟩ := install_of_admits (hf w (.head _)) w.2
    have hws' : Consistent ws := fun w₁ h₁ w₂ h₂ => hws w₁ (List.mem_cons_of_mem w h₁) w₂ (List.mem_cons_of_mem w h₂)
    have hf₁ : ∀ w' ∈ ws, f₁.Admits w'.1 := by
      intro w' hw'
      have hmem := List.mem_cons_of_mem w hw'
      exact admits_of_install (hws w (.head _) w' hmem)
        (hws w' hmem w (.head _)) hlook (hf w' hmem)
    obtain ⟨f₂, hall, hdone⟩ := ih hws' hf₁
    refine ⟨f₂, ?_, hdone.cons hws hlook⟩
    rw [installAll, List.foldlM_cons, hinstall]
    exact hall

theorem closed_delete (h : f.look p = some (.file bytes)) (q : List String) (name : String)
    (hq : ((f.table.delete p).get (q ++ [name])).isSome) : q = [] ∨ (f.table.delete p).get q = some .dir := by
  rw [Table.get_delete] at hq ⊢
  split_ifs at hq with hgone
  · cases hq
  have hne : q ≠ p := by
    rintro rfl
    rw [← look_concat] at hq
    rw [look_parent hq] at h
    cases h
  rw [if_neg hne]
  exact f.closed q name hq

def remove (f : Files) (p : List String) (bytes : List UInt8) (h : f.look p = some (.file bytes)) : Files :=
  ⟨f.table.delete p, closed_delete h⟩

def unlink (f : Files) (p : List String) : Option Files :=
  match h : f.look p with
  | some (.file bytes) => some (f.remove p bytes h)
  | _ => none

/-- `os.replace` of a file. -/
def rename (f : Files) (p q : List String) : Option Files :=
  match f.look p with
  | some (.file bytes) => (f.unlink p).bind fun f => f.writeFile q bytes
  | _ => none

def fileAt (f : Files) (p : List String) : Option (List UInt8) :=
  match f.look p with
  | some (.file bytes) => some bytes
  | _ => none

theorem fileAt_eq_some_iff : f.fileAt p = some bytes ↔ f.look p = some (.file bytes) := by
  unfold fileAt
  split
  · rename_i heq
    simp [heq]
  rename_i hno
  simp only [reduceCtorEq, false_iff]
  exact hno bytes

theorem fileAt_congr (h : f'.look p = f.look p) : f'.fileAt p = f.fileAt p := by
  rw [fileAt, fileAt, h]

theorem fileAt_writeFile (h : f.writeFile p bytes = some f') (q : List String) :
    f'.fileAt q = if q = p then some bytes else f.fileAt q := by
  have hlook := look_create h q
  split_ifs at hlook ⊢ with hq
  · exact fileAt_eq_some_iff.mpr hlook
  · exact fileAt_congr hlook

theorem exists_unlink (h : f.look p = some (.file bytes)) : ∃ f', f.unlink p = some f' := by
  unfold unlink
  split
  · exact ⟨_, rfl⟩
  next hno => exact absurd h (hno bytes)

theorem fileAt_unlink (h : f.unlink p = some f') (q : List String) :
    f'.fileAt q = if q = p then none else f.fileAt q := by
  unfold unlink at h
  split at h
  · rename_i bytes hfile
    obtain ⟨rfl⟩ := h
    have hp : p ≠ [] := by
      rintro rfl
      cases hfile
    unfold fileAt look remove
    by_cases hq : q = []
    · have hne : q ≠ p := fun heq => hp (heq ▸ hq)
      rw [if_pos hq, if_pos hq, if_neg hne]
    rw [if_neg hq, if_neg hq, Table.get_delete]
    split_ifs <;> rfl
  · cases h

theorem fileAt_rename (h : f.rename p q = some f') : ∃ bytes, f.fileAt p = some bytes ∧
      ∀ r, f'.fileAt r = if r = q then some bytes else if r = p then none else f.fileAt r := by
  unfold rename at h
  split at h
  · rename_i bytes hfile
    obtain ⟨f₁, hunlink, hwrite⟩ := Option.bind_eq_some_iff.mp h
    refine ⟨bytes, fileAt_eq_some_iff.mpr hfile, fun r => ?_⟩
    rw [fileAt_writeFile hwrite, fileAt_unlink hunlink]
  · cases h

theorem fileAt_mkdir (h : f.mkdir p = some f') (q : List String) : f'.fileAt q = f.fileAt q := by
  unfold mkdir at h
  split at h
  · rename_i hnone
    have hlook := look_create h q
    by_cases hq : q = p
    · subst hq
      rw [if_pos rfl] at hlook
      rw [fileAt, fileAt, hlook, hnone]
    rw [if_neg hq] at hlook
    exact fileAt_congr hlook
  · rw [Option.some.inj h]
  · cases h

theorem fileAt_mkdirsFrom {above rest : List String}
    (h : f.mkdirsFrom above rest = some f') (q : List String) : f'.fileAt q = f.fileAt q := by
  induction rest generalizing f above with
  | nil => rw [Option.some.inj h]
  | cons name rest ih =>
    obtain ⟨f₁, hmkdir, hrest⟩ := Option.bind_eq_some_iff.mp h
    rw [ih hrest, fileAt_mkdir hmkdir]

inductive Op
  | unlink (p : List String)
  | rename (p q : List String)
  | mkdirs (p : List String)
  | write (p : List String) (bytes : List UInt8)
deriving DecidableEq

def Op.apply (f : Files) : Op → Option Files
  | .unlink p => f.unlink p
  | .rename p q => f.rename p q
  | .mkdirs p => f.mkdirs p
  | .write p bytes => f.writeFile p bytes

def Op.touches : Op → List (List String)
  | .unlink p => [p]
  | .rename p q => [p, q]
  | .mkdirs _ => []
  | .write p _ => [p]

variable {op : Op} {ops : List Op}

theorem fileAt_apply (h : op.apply f = some f') (hp : p ∉ op.touches) : f'.fileAt p = f.fileAt p := by
  cases op with
  | unlink q => rw [fileAt_unlink h, if_neg (by simpa [Op.touches] using hp)]
  | rename q r =>
    obtain ⟨bytes, -, hfiles⟩ := fileAt_rename h
    simp only [Op.touches, List.mem_cons, List.not_mem_nil, or_false, not_or] at hp
    rw [hfiles, if_neg hp.2, if_neg hp.1]
  | mkdirs q => exact fileAt_mkdirsFrom h p
  | write q bytes => rw [fileAt_writeFile h, if_neg (by simpa [Op.touches] using hp)]

def Op.makes : Op → List (List String)
  | .rename _ q => [q]
  | .write p _ => [p]
  | _ => []

theorem Op.makes_subset_touches (op : Op) : op.makes ⊆ op.touches := by
  cases op <;> simp [Op.makes, Op.touches]

theorem fileAt_apply_or_none (h : op.apply f = some f')
    (hp : p ∉ op.makes) : f'.fileAt p = f.fileAt p ∨ f'.fileAt p = none := by
  cases op with
  | unlink q =>
    rw [fileAt_unlink h]
    split_ifs
    · exact .inr rfl
    · exact .inl rfl
  | rename q r =>
    obtain ⟨bytes, -, hfiles⟩ := fileAt_rename h
    rw [hfiles, if_neg (by simpa [Op.makes] using hp)]
    split_ifs
    · exact .inr rfl
    · exact .inl rfl
  | mkdirs q => exact .inl (fileAt_mkdirsFrom h p)
  | write q bytes =>
    have hkept : f'.fileAt p = f.fileAt p := fileAt_apply h hp
    exact .inl hkept

/-- The calls up to the first that raises; with `false` when one does. -/
def exec (f : Files) : List Op → Files × Bool
  | [] => (f, true)
  | op :: ops =>
    match op.apply f with
    | none => (f, false)
    | some f => f.exec ops

/-- What is done of a call that was begun: some bytes of a write. -/
def begun : Option Op → Option Nat → List Op
  | some (.write p bytes), some m => [.write p (bytes.take m)]
  | _, _ => []

/-- What is done of a program that is stopped after `n` calls and a part of the next. -/
def cut (ops : List Op) (n : Nat) (m : Option Nat) : List Op := ops.take n ++ begun ops[n]? m

theorem mem_begun {next : Option Op} {m : Option Nat} (h : op ∈ begun next m) :
    ∃ p bytes k, next = some (.write p bytes) ∧ op = .write p (bytes.take k) := by
  unfold begun at h
  split at h
  · exact ⟨_, _, _, rfl, List.mem_singleton.mp h⟩
  · cases h

theorem cut_length (ops : List Op) (m : Option Nat) : cut ops ops.length m = ops := by
  rw [cut, List.take_length, List.getElem?_eq_none (Nat.le_refl _)]
  exact List.append_nil ops

theorem cut_prefix (h : ∀ op ∈ ops, ∀ p bytes, op ≠ .write p bytes)
    (n : Nat) (m : Option Nat) : cut ops n m <+: ops := by
  have hbegun : begun ops[n]? m = [] := by
    rw [List.eq_nil_iff_forall_not_mem]
    intro op hop
    obtain ⟨p, bytes, k, hget, -⟩ := mem_begun hop
    exact h _ (List.mem_of_getElem? hget) p bytes rfl
  rw [cut, hbegun, List.append_nil]
  exact List.take_prefix n ops

theorem exists_of_mem_cut {n : Nat} {m : Option Nat} (h : op ∈ cut ops n m) :
    ∃ op' ∈ ops, op'.touches = op.touches ∧ op'.makes = op.makes := by
  rcases List.mem_append.mp h with htake | hnext
  · exact ⟨op, List.mem_of_mem_take htake, rfl, rfl⟩
  obtain ⟨p, bytes, k, hget, rfl⟩ := mem_begun hnext
  exact ⟨.write p bytes, List.mem_of_getElem? hget, rfl, rfl⟩

/-- **What no call touches.** -/
theorem fileAt_exec (hops : ∀ op ∈ ops, p ∉ op.touches) (f : Files) : (f.exec ops).1.fileAt p = f.fileAt p := by
  induction ops generalizing f with
  | nil => rfl
  | cons op ops ih =>
    rw [exec]
    split
    · rfl
    rename_i f' hop
    rw [ih fun op' hop' => hops op' (List.mem_cons_of_mem op hop'), fileAt_apply hop (hops op (.head _))]

theorem fileAt_exec_cut (hops : ∀ op ∈ ops, p ∉ op.touches) (f : Files)
    (n : Nat) (m : Option Nat) : (f.exec (cut ops n m)).1.fileAt p = f.fileAt p := by
  refine fileAt_exec (fun op hop => ?_) f
  obtain ⟨op', hop', htouches, -⟩ := exists_of_mem_cut hop
  exact htouches ▸ hops op' hop'

theorem fileAt_exec_or_none (hops : ∀ op ∈ ops, p ∉ op.makes)
    (f : Files) : (f.exec ops).1.fileAt p = f.fileAt p ∨ (f.exec ops).1.fileAt p = none := by
  induction ops generalizing f with
  | nil => exact .inl rfl
  | cons op ops ih =>
    rw [exec]
    split
    · exact .inl rfl
    rename_i f' hop
    have hfirst := fileAt_apply_or_none hop (hops op (.head _))
    rcases ih (fun op' hop' => hops op' (List.mem_cons_of_mem op hop')) f' with hrest | hrest
    · rwa [hrest]
    · exact .inr hrest

theorem fileAt_exec_cut_or_none (hops : ∀ op ∈ ops, p ∉ op.makes) (f : Files) (n : Nat) (m : Option Nat) :
    (f.exec (cut ops n m)).1.fileAt p = f.fileAt p ∨ (f.exec (cut ops n m)).1.fileAt p = none := by
  refine fileAt_exec_or_none (fun op hop => ?_) f
  obtain ⟨op', hop', -, hmakes⟩ := exists_of_mem_cut hop
  exact hmakes ▸ hops op' hop'

theorem exec_append (f : Files) (ops ops' : List Op) :
    f.exec (ops ++ ops') = if (f.exec ops).2 then (f.exec ops).1.exec ops' else f.exec ops := by
  induction ops generalizing f with
  | nil => rfl
  | cons op ops ih =>
    rw [List.cons_append, exec, exec]
    split
    · rfl
    · exact ih _

theorem cut_append (ops ops' : List Op) (n : Nat) (m : Option Nat) :
    cut (ops ++ ops') n m = if n < ops.length then cut ops n m else ops ++ cut ops' (n - ops.length) m := by
  unfold cut
  split_ifs with hn
  · rw [List.take_append_of_le_length hn.le, List.getElem?_append_left hn]
  have hle : ops.length ≤ n := Nat.le_of_not_lt hn
  rw [List.take_append, List.take_of_length_le hle, List.getElem?_append_right hle, List.append_assoc]

end Files

end NexusGrid.Lib

import Mathlib.Data.Fintype.EquivFin
import Mathlib.Data.List.DropRight
import NexusGrid.Lib.PyStr

/-! # Paths below a directory

A directory is the list of its components from the root.
-/

namespace NexusGrid.Lib.Paths

def move (dir : List String) (part : String) : List String :=
  if part = "" ∨ part = "." then dir
  else if part = ".." then dir.dropLast
  else dir ++ [part]

def walk (dir parts : List String) : List String := parts.foldl move dir

/-- The parts never go more than `depth` levels up. -/
def staysFrom : Nat → List String → Bool
  | _, [] => true
  | depth, part :: parts =>
    if part = "" ∨ part = "." then staysFrom depth parts
    else if part = ".." then depth ≠ 0 && staysFrom (depth - 1) parts
    else staysFrom (depth + 1) parts

def stays (parts : List String) : Bool := staysFrom 0 parts

@[simp] theorem walk_nil (dir : List String) : walk dir [] = dir := rfl

@[simp] theorem walk_cons (dir : List String) (part : String) (parts : List String) :
    walk dir (part :: parts) = walk (move dir part) parts := rfl

theorem prefix_walk {parts : List String} (dir below : List String)
    (h : staysFrom below.length parts = true) : dir <+: walk (dir ++ below) parts := by
  induction parts generalizing below with
  | nil => exact List.prefix_append dir below
  | cons part parts ih =>
    rw [walk_cons, move]
    rw [staysFrom] at h
    by_cases hsame : part = "" ∨ part = "."
    · rw [if_pos hsame] at h ⊢
      exact ih below h
    rw [if_neg hsame] at h ⊢
    by_cases hup : part = ".."
    · rw [if_pos hup] at h ⊢
      -- there is a level to leave
      rcases List.eq_nil_or_concat below with rfl | ⟨rest, last, rfl⟩
      · simp at h
      rw [List.concat_eq_append, ← List.append_assoc, List.dropLast_concat]
      refine ih rest ?_
      simpa using h
    rw [if_neg hup] at h ⊢
    rw [List.append_assoc]
    refine ih (below ++ [part]) ?_
    simpa using h

theorem mem_walk {name : String} {dir parts : List String} (h : name ∈ walk dir parts) : name ∈ dir ∨ name ∈ parts := by
  induction parts generalizing dir with
  | nil => exact .inl h
  | cons part parts ih =>
    rcases ih h with hmove | hparts
    · rw [move] at hmove
      split_ifs at hmove
      · exact .inl hmove
      · exact .inl (List.dropLast_subset dir hmove)
      rcases List.mem_append.mp hmove with hdir | hpart
      · exact .inl hdir
      · exact .inr (by simp [List.mem_singleton.mp hpart])
    · exact .inr (.tail _ hparts)

theorem notMem_walk_of_leaves {name : String} {parts : List String} (below : List String)
    (hparts : name ∉ parts) (hbelow : name ∉ below) (h : staysFrom below.length parts = false) :
    name ∉ walk (name :: below) parts := by
  induction parts generalizing below with
  | nil => simp [staysFrom] at h
  | cons part parts ih =>
    rw [List.mem_cons, not_or] at hparts
    rw [walk_cons, move]
    rw [staysFrom] at h
    by_cases hsame : part = "" ∨ part = "."
    · rw [if_pos hsame] at h ⊢
      exact ih below hparts.2 hbelow h
    rw [if_neg hsame] at h ⊢
    by_cases hup : part = ".."
    · rw [if_pos hup] at h ⊢
      rcases List.eq_nil_or_concat below with rfl | ⟨rest, last, rfl⟩
      · -- here it leaves
        intro hmem
        rcases mem_walk hmem with hnil | hmem'
        · simp at hnil
        · exact hparts.2 hmem'
      rw [List.concat_eq_append, ← List.cons_append, List.dropLast_concat]
      rw [List.concat_eq_append, List.mem_append, not_or] at hbelow
      refine ih rest hparts.2 hbelow.1 ?_
      simpa using h
    · rw [if_neg hup] at h ⊢
      refine ih (below ++ [part]) hparts.2 ?_ ?_
      · rw [List.mem_append, not_or]
        exact ⟨hbelow, by simpa using hparts.1⟩
      · simpa using h

/-- **Containment.** Parts stay exactly if they end below the directory they start in. -/
theorem stays_iff (parts : List String) : stays parts = true ↔ ∀ dir, dir <+: walk dir parts := by
  constructor
  · intro h dir
    have hwalk := prefix_walk dir [] h
    rwa [List.append_nil] at hwalk
  intro h
  obtain ⟨name, hname⟩ := Infinite.exists_notMem_finset parts.toFinset
  rw [List.mem_toFinset] at hname
  by_contra hleaves
  have hnot := notMem_walk_of_leaves [] hname (by simp) (Bool.eq_false_iff.mpr hleaves)
  exact hnot ((h [name]).subset (.head _))

def isAbsolute (rel : String) : Bool := rel.toList.head? = some '/'

/-- `Path(dir) / rel`: an absolute `rel` replaces the directory. -/
def join (dir : List String) (rel : String) : List String :=
  if isAbsolute rel then walk [] (PyStr.split '/' rel) else walk dir (PyStr.split '/' rel)

theorem join_below_iff (rel : String) :
    (∀ dir, dir <+: join dir rel) ↔ isAbsolute rel = false ∧ stays (PyStr.split '/' rel) = true := by
  cases habs : isAbsolute rel with
  | false => simp only [join, habs, Bool.false_eq_true, if_false, true_and, stays_iff]
  | true =>
    simp only [join, habs, if_true, Bool.true_eq_false, false_and, iff_false]
    intro h
    obtain ⟨name, hname⟩ := Infinite.exists_notMem_finset (PyStr.split '/' rel).toFinset
    rw [List.mem_toFinset] at hname
    rcases mem_walk ((h [name]).subset (.head _)) with hnil | hmem
    · simp at hnil
    · exact hname hmem

theorem walk_of_names (dir : List String) {parts : List String} (h : ∀ part ∈ parts, part ≠ "." ∧ part ≠ "..") :
    walk dir parts = dir ++ parts.filter (· ≠ "") := by
  induction parts generalizing dir with
  | nil => simp
  | cons part parts ih =>
    obtain ⟨hdot, hup⟩ := h part (.head _)
    rw [walk_cons, ih _ fun p hp => h p (List.mem_cons_of_mem part hp), move]
    by_cases hempty : part = ""
    · rw [if_pos (.inl hempty), List.filter_cons_of_neg (by simpa using hempty)]
    have hname : ¬ (part = "" ∨ part = ".") := by simp [hempty, hdot]
    rw [if_neg hname, if_neg hup, List.filter_cons_of_pos (by simpa using hempty)]
    simp

def parts (s : String) : List String := (PyStr.split '/' s).filter (· ≠ "")

def lstrip (s : String) : String := String.ofList (s.toList.dropWhile (· = '/'))

def PlainName (name : String) : Prop := name ≠ "" ∧ name ≠ "." ∧ name ≠ ".." ∧ '/' ∉ name.toList

instance (name : String) : Decidable (PlainName name) := inferInstanceAs (Decidable (_ ∧ _))

theorem split_append (a b : String) : PyStr.split '/' (a ++ "/" ++ b) = PyStr.split '/' a ++ PyStr.split '/' b := by
  have hchars : (a ++ "/" ++ b).toList = a.toList ++ '/' :: b.toList := by simp [String.toList_append]
  rw [PyStr.split, hchars, PyStr.pieces_append_sep, List.map_append]
  rfl

theorem parts_intercalate {l : List String} (h : ∀ name ∈ l, name ≠ "" ∧ '/' ∉ name.toList) :
    parts (String.intercalate "/" l) = l := by
  cases l with
  | nil => decide
  | cons a l =>
    have hsplit : PyStr.split '/' (String.intercalate "/" (a :: l)) = a :: l :=
      PyStr.split_intercalate rfl (by simp) fun name hname => (h name hname).2
    rw [parts, hsplit, List.filter_eq_self]
    intro name hname
    simpa using (h name hname).1

theorem getLast_split_of_slash {s : String} (h : s.toList.getLast? = some '/') :
    (PyStr.split '/' s).getLast? = some "" := by
  obtain ⟨cs, hcs⟩ := List.getLast?_eq_some_iff.mp h
  have htext : s = String.ofList cs ++ "/" ++ "" := String.ext (by simp [hcs])
  have hempty : PyStr.split '/' "" = [""] := by decide
  rw [htext, split_append, hempty, List.getLast?_append_of_ne_nil _ (by simp)]
  rfl

/-- `"/".join(names)`. -/
def ofNames (names : List String) : String := String.intercalate "/" names

section Names

variable {names : List String} (h : ∀ name ∈ names, PlainName name)

include h

theorem parts_ofNames : parts (ofNames names) = names :=
  parts_intercalate fun name hname => ⟨(h name hname).1, (h name hname).2.2.2⟩

variable (hne : names ≠ [])

include hne

theorem split_ofNames : PyStr.split '/' (ofNames names) = names :=
  PyStr.split_intercalate rfl hne fun name hname => (h name hname).2.2.2

theorem ofNames_no_slash : (ofNames names).toList.getLast? ≠ some '/' := by
  intro hslash
  have hlast := getLast_split_of_slash hslash
  rw [split_ofNames h hne] at hlast
  exact (h "" (List.mem_of_getLast? hlast)).1 rfl

theorem isAbsolute_ofNames : isAbsolute (ofNames names) = false := by
  rw [isAbsolute, decide_eq_false_iff_not]
  intro habs
  obtain ⟨cs, hcs⟩ := List.head?_eq_some_iff.mp habs
  have hempty : "" ∈ PyStr.split '/' (ofNames names) := by
    rw [PyStr.split, hcs, PyStr.pieces, if_pos rfl]
    exact .head _
  rw [split_ofNames h hne] at hempty
  exact (h "" hempty).1 rfl

theorem join_ofNames (dir : List String) : join dir (ofNames names) = dir ++ names := by
  have hplain : ∀ part ∈ names, part ≠ "." ∧ part ≠ ".." := fun part hpart => ⟨(h part hpart).2.1, (h part hpart).2.2.1⟩
  have hall : names.filter (· ≠ "") = names := by
    rw [List.filter_eq_self]
    intro name hname
    simpa using (h name hname).1
  rw [join, isAbsolute_ofNames h hne, split_ofNames h hne, walk_of_names dir hplain, hall]
  rfl

end Names

end NexusGrid.Lib.Paths

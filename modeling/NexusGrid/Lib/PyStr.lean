import Mathlib.Data.List.Basic

/-! # The string methods the handlers call

`strip`, `lower`, `split`, `splitlines` and `replace` of Python, on lists of characters so that they compute.
-/

namespace NexusGrid.Lib.PyStr

/-- `str.isspace` for one character. -/
def isSpace (c : Char) : Bool :=
  let n := c.toNat
  (9 ≤ n && n ≤ 13) || (28 ≤ n && n ≤ 32) || n = 0x85 || n = 0xA0 || n = 0x1680 ||
    (0x2000 ≤ n && n ≤ 0x200A) || n = 0x2028 || n = 0x2029 || n = 0x202F || n = 0x205F || n = 0x3000

def strip (s : String) : String := String.ofList (((s.toList.dropWhile isSpace).reverse.dropWhile isSpace).reverse)

def lower (s : String) : String := String.ofList (s.toList.map Char.toLower)

def upper (s : String) : String := String.ofList (s.toList.map Char.toUpper)

/-- The pieces between the occurrences of `sep`, at least one. -/
def pieces (sep : Char) : List Char → List (List Char)
  | [] => [[]]
  | c :: cs =>
    if c = sep then [] :: pieces sep cs
    else match pieces sep cs with
      | [] => [[c]]
      | p :: ps => (c :: p) :: ps

/-- `s.split(sep)`. -/
def split (sep : Char) (s : String) : List String := (pieces sep s.toList).map String.ofList

/-- `[d.strip() for d in s.split(",") if d.strip()]`. -/
def splitCsv (s : String) : List String := ((split ',' s).map strip).filter (· ≠ "")

/-- Remove every occurrence of `..`, left to right. -/
def dropDotDot : List Char → List Char
  | '.' :: '.' :: cs => dropDotDot cs
  | c :: cs => c :: dropDotDot cs
  | [] => []

/-- `s.replace("..", "").replace("/", "_").replace("\\", "_")`: the name of a task's directory. -/
def safeName (s : String) : String :=
  String.ofList ((dropDotDot s.toList).map fun c => if c = '/' ∨ c = '\\' then '_' else c)

/-- `s[:n]`. -/
def take (n : Nat) (s : String) : String := String.ofList (s.toList.take n)

/-- `s.replace("\r\n", "\n").replace("\r", "\n")`. -/
def unixLines : List Char → List Char
  | '\r' :: '\n' :: cs => '\n' :: unixLines cs
  | '\r' :: cs => '\n' :: unixLines cs
  | c :: cs => c :: unixLines cs
  | [] => []

/-- The characters at which `str.splitlines` ends a line. -/
def isLineBreak (c : Char) : Bool :=
  let n := c.toNat
  (10 ≤ n && n ≤ 13) || (28 ≤ n && n ≤ 30) || n = 0x85 || n = 0x2028 || n = 0x2029

/-- `str.splitlines`; `\r\n` is one break, and there is no line after the last. -/
def lines : List Char → List (List Char)
  | [] => []
  | '\r' :: '\n' :: cs => [] :: lines cs
  | c :: cs =>
    if isLineBreak c then [] :: lines cs
    else match lines cs with
      | [] => [[c]]
      | l :: ls => (c :: l) :: ls

def splitlines (s : String) : List String := (lines s.toList).map String.ofList

def wordsBy (blank : Char → Bool) (cs : List Char) : List (List Char) := (cs.splitOnP blank).filter fun w => w ≠ []

/-- `s.split()`. -/
def words (s : String) : List String := (wordsBy isSpace s.toList).map String.ofList

/-- `s.startswith(start)`. -/
def startsWith (s start : String) : Bool := start.toList.isPrefixOf s.toList

/-- `sub in s`, on lists of characters. -/
def hasInfix (sub : List Char) : List Char → Bool
  | [] => sub.isEmpty
  | c :: cs => sub.isPrefixOf (c :: cs) || hasInfix sub cs

/-- `sub in s`. -/
def contains (s sub : String) : Bool := hasInfix sub.toList s.toList

/-- `s.split(sep, 1)[0]`. -/
def before (sep : Char) (s : String) : String := String.ofList (s.toList.takeWhile fun c => c ≠ sep)

theorem hasInfix_iff {sub cs : List Char} : hasInfix sub cs = true ↔ sub <:+: cs := by
  induction cs with
  | nil => simp [hasInfix]
  | cons c cs ih => rw [hasInfix, Bool.or_eq_true, List.isPrefixOf_iff_prefix, ih, List.infix_cons_iff]

theorem pieces_eq_splitOn (sep : Char) (cs : List Char) : pieces sep cs = cs.splitOn sep := by
  induction cs with
  | nil => rfl
  | cons c cs ih =>
    rw [pieces, ih, List.splitOn_cons_eq_if_modifyHead]
    by_cases hc : c = sep
    · simp [hc]
    obtain ⟨p, ps, hp⟩ := List.exists_cons_of_ne_nil (List.splitOn_ne_nil sep cs)
    simp [hc, hp]

theorem exists_pieces_eq_cons (sep : Char) (cs : List Char) : ∃ p ps, pieces sep cs = p :: ps := by
  rw [pieces_eq_splitOn]
  exact List.exists_cons_of_ne_nil (List.splitOn_ne_nil sep cs)

theorem pieces_append {sep : Char} {p : List Char} (h : sep ∉ p) (cs : List Char) :
    ∃ q ps, pieces sep cs = q :: ps ∧ pieces sep (p ++ cs) = (p ++ q) :: ps := by
  obtain ⟨q, ps, hq⟩ := exists_pieces_eq_cons sep cs
  refine ⟨q, ps, hq, ?_⟩
  induction p with
  | nil => exact hq
  | cons c p ih =>
    have hc : c ≠ sep := fun hc => h (hc ▸ (.head _))
    rw [List.cons_append, pieces, if_neg hc, ih fun hp => h (List.mem_cons_of_mem c hp)]
    rfl

theorem pieces_append_cons {sep : Char} {p : List Char} (h : sep ∉ p) (cs : List Char) :
    pieces sep (p ++ sep :: cs) = p :: pieces sep cs := by
  obtain ⟨q, ps, hq, hp⟩ := pieces_append h (sep :: cs)
  rw [pieces, if_pos rfl, List.cons.injEq] at hq
  obtain ⟨rfl, rfl⟩ := hq
  rw [hp, List.append_nil]

theorem pieces_of_notMem {sep : Char} {p : List Char} (h : sep ∉ p) : pieces sep p = [p] := by
  obtain ⟨q, ps, hq, hp⟩ := pieces_append h []
  obtain ⟨rfl, rfl⟩ := hq
  simpa using hp

theorem pieces_append_sep (sep : Char) (cs ds : List Char) :
    pieces sep (cs ++ sep :: ds) = pieces sep cs ++ pieces sep ds := by
  induction cs with
  | nil => simp [pieces]
  | cons c cs ih =>
    rw [List.cons_append, pieces, pieces, ih]
    split_ifs
    · rfl
    obtain ⟨p, ps, hp⟩ := exists_pieces_eq_cons sep cs
    rw [hp]
    rfl

theorem split_intercalate {sep : Char} {text : String} (htext : text.toList = [sep]) {l : List String}
    (hl : l ≠ []) (h : ∀ s ∈ l, sep ∉ s.toList) : split sep (String.intercalate text l) = l := by
  have hsep : ∀ p ∈ l.map String.toList, sep ∉ p := by
    intro p hp
    obtain ⟨s, hs, rfl⟩ := List.mem_map.mp hp
    exact h s hs
  rw [split, String.toList_intercalate, htext, pieces_eq_splitOn,
    List.splitOn_intercalate sep hsep (by simpa using hl), List.map_map]
  exact List.map_id'' (fun s => String.ofList_toList) _

/-- Texts without commas and outer blanks, joined by commas, are read back. -/
theorem splitCsv_intercalate {l : List String} (h : ∀ s ∈ l, ',' ∉ s.toList ∧ strip s = s ∧ s ≠ "") :
    splitCsv (String.intercalate "," l) = l := by
  cases l with
  | nil => decide
  | cons a l =>
    have hsplit : split ',' (String.intercalate "," (a :: l)) = a :: l :=
      split_intercalate rfl (by simp) fun s hs => (h s hs).1
    have hstrip : (a :: l).map strip = a :: l := by
      conv_rhs => rw [← List.map_id (a :: l)]
      exact List.map_congr_left fun s hs => (h s hs).2.1
    rw [splitCsv, hsplit, hstrip, List.filter_eq_self]
    intro s hs
    simpa using (h s hs).2.2

theorem mem_lines {cs l : List Char} (hl : l ∈ lines cs) {c : Char} (hc : c ∈ l) : c ∈ cs ∧ isLineBreak c = false := by
  fun_induction lines cs generalizing l with
  | case1 => simp at hl
  | case2 cs ih =>
    rcases List.mem_cons.mp hl with rfl | hl
    · simp at hc
    · exact ⟨by simp [(ih hl hc).1], (ih hl hc).2⟩
  | case3 d cs _ hbreak ih =>
    rcases List.mem_cons.mp hl with rfl | hl
    · simp at hc
    · exact ⟨by simp [(ih hl hc).1], (ih hl hc).2⟩
  | case4 d cs _ hbreak hnil ih =>
    rw [List.mem_singleton.mp hl, List.mem_singleton] at hc
    subst hc
    exact ⟨.head _, by simpa using hbreak⟩
  | case5 d cs _ hbreak l' ls hlines ih =>
    rcases List.mem_cons.mp hl with rfl | hl
    · rcases List.mem_cons.mp hc with rfl | hc
      · exact ⟨.head _, by simpa using hbreak⟩
      have hmem := ih (hlines ▸ (.head _)) hc
      exact ⟨.tail _ hmem.1, hmem.2⟩
    have hmem := ih (hlines ▸ .tail _ hl) hc
    exact ⟨.tail _ hmem.1, hmem.2⟩

theorem mem_of_mem_strip {s : String} {c : Char} (h : c ∈ (strip s).toList) : c ∈ s.toList := by
  rw [strip, String.toList_ofList, List.mem_reverse] at h
  have hdrop := List.mem_reverse.mp ((List.dropWhile_sublist _).subset h)
  exact (List.dropWhile_sublist _).subset hdrop

end NexusGrid.Lib.PyStr

import NexusGrid.Lib.Dockerfile
import NexusGrid.Replica.Build

/-! # The base images of an accepted build

`validate_build` reads the `FROM` lines with a scanner of its own (`_from_bases`), line by line and with Python's
notion of lines and blanks, where Docker (`Lib.Dockerfile`) has another one and joins continued lines. The first
part of the module is about single lines, for texts whose white space both read alike; `scan_lines` then follows
the scanner and Docker's reader through all lines, with the stage names that each has so far.
-/

namespace NexusGrid.Replica

open Lib Lib.Dockerfile

/-- Blanks, tabs, newlines, and carriage returns before a newline. -/
def plainSpaces : List Char → Bool
  | [] => true
  | c :: cs =>
    (!PyStr.isSpace c || c = ' ' || c = '\t' || c = '\n' || (c = '\r' && cs.head? = some '\n')) && plainSpaces cs

def PlainLine (line : List Char) : Prop := ∀ c ∈ line, PyStr.isSpace c = true → c = ' ' ∨ c = '\t'

variable {c : Char} {cs l : List Char}

theorem isSpace_of_isLineBreak (h : PyStr.isLineBreak c = true) : PyStr.isSpace c = true := by
  simp only [PyStr.isLineBreak, Bool.or_eq_true, Bool.and_eq_true, decide_eq_true_eq] at h
  simp only [PyStr.isSpace, Bool.or_eq_true, Bool.and_eq_true, decide_eq_true_eq]
  omega

theorem plainSpaces_tail (h : plainSpaces (c :: cs) = true) : plainSpaces cs = true := by
  rw [plainSpaces, Bool.and_eq_true] at h
  exact h.2

theorem plainSpaces_head (h : plainSpaces (c :: cs) = true)
    (hc : PyStr.isSpace c = true) : c = ' ' ∨ c = '\t' ∨ c = '\n' ∨ (c = '\r' ∧ cs.head? = some '\n') := by
  rw [plainSpaces, Bool.and_eq_true] at h
  simpa [hc, or_assoc] using h.1

theorem plainLine_of_mem (h : plainSpaces cs = true) (hl : l ∈ PyStr.lines cs) : PlainLine l := by
  have hall : ∀ c ∈ cs, PyStr.isSpace c = true → c = ' ' ∨ c = '\t' ∨ PyStr.isLineBreak c = true := by
    clear hl
    induction cs with
    | nil => simp
    | cons d cs ih =>
      intro c hc hspace
      rcases List.mem_cons.mp hc with rfl | hc
      · rcases plainSpaces_head h hspace with rfl | rfl | rfl | ⟨rfl, -⟩
        · exact .inl rfl
        · exact .inr (.inl rfl)
        · exact .inr (.inr rfl)
        · exact .inr (.inr rfl)
      · exact ih (plainSpaces_tail h) c hc hspace
  intro c hc hspace
  obtain ⟨hmem, hbreak⟩ := PyStr.mem_lines hl hc
  rcases hall c hmem hspace with hblank | htab | hline
  · exact .inl hblank
  · exact .inr htab
  rw [hbreak] at hline
  cases hline

theorem physicalLines_newline (cs : List Char) : physicalLines ('\n' :: cs) = [] :: physicalLines cs := by
  simp [physicalLines, List.splitOnP_cons_eq_if_modifyHead]

theorem physicalLines_crlf (cs : List Char) : physicalLines ('\r' :: '\n' :: cs) = [] :: physicalLines cs := by
  simp [physicalLines, List.splitOnP_cons_eq_if_modifyHead, List.rdropWhile_singleton]

theorem physicalLines_cons (hn : c ≠ '\n') (hr : c ≠ '\r') (cs : List Char) :
    physicalLines (c :: cs) = (physicalLines cs).modifyHead (c :: ·) := by
  have hdrop := rdropWhile_cons_of_neg (p := fun c => c = '\r') (by simpa using hr)
  obtain ⟨l, ls, hsplit⟩ := List.exists_cons_of_ne_nil (List.splitOnP_ne_nil (fun c => decide (c = '\n')) cs)
  simp [physicalLines, List.splitOnP_cons_eq_if_modifyHead, hn, hsplit, hdrop]

theorem ne_of_not_isLineBreak (h : ¬ PyStr.isLineBreak c = true) : c ≠ '\n' ∧ c ≠ '\r' := by
  constructor
  · rintro rfl
    exact h rfl
  rintro rfl
  exact h rfl

theorem physicalLines_eq (h : plainSpaces cs = true) :
    ∃ e, (e = [] ∨ e = [[]]) ∧ physicalLines cs = PyStr.lines cs ++ e := by
  fun_induction PyStr.lines cs with
  | case1 => exact ⟨[[]], .inr rfl, by simp [physicalLines]⟩
  | case2 cs ih =>
    obtain ⟨e, he, heq⟩ := ih (plainSpaces_tail (plainSpaces_tail h))
    exact ⟨e, he, by rw [physicalLines_crlf, heq]; rfl⟩
  | case3 c cs hcrlf hbreak ih =>
    obtain ⟨e, he, heq⟩ := ih (plainSpaces_tail h)
    have hc : c = '\n' := by
      rcases plainSpaces_head h (isSpace_of_isLineBreak hbreak) with rfl | rfl | rfl | ⟨rfl, hhead⟩
      · simp [PyStr.isLineBreak] at hbreak
      · simp [PyStr.isLineBreak] at hbreak
      · rfl
      obtain ⟨rest, rfl⟩ := List.head?_eq_some_iff.mp hhead
      exact absurd rfl (hcrlf rest rfl)
    exact ⟨e, he, by rw [hc, physicalLines_newline, heq]; rfl⟩
  | case4 c cs hcrlf hbreak hnil ih =>
    obtain ⟨e, he, heq⟩ := ih (plainSpaces_tail h)
    obtain ⟨hn, hr⟩ := ne_of_not_isLineBreak hbreak
    refine ⟨[], .inl rfl, ?_⟩
    rw [physicalLines_cons hn hr, heq, hnil]
    rcases he with rfl | rfl
    · -- there is always a line
      rw [hnil] at heq
      simp [physicalLines] at heq
    · rfl
  | case5 c cs hcrlf hbreak l ls hlines ih =>
    obtain ⟨e, he, heq⟩ := ih (plainSpaces_tail h)
    obtain ⟨hn, hr⟩ := ne_of_not_isLineBreak hbreak
    exact ⟨e, he, by rw [physicalLines_cons hn hr, heq, hlines]; rfl⟩

theorem PlainLine.spaces_eq (h : PlainLine l) (hc : c ∈ l) :
    PyStr.isSpace c = isSpace c ∧ PyStr.isSpace c = isBlank c := by
  cases hspace : PyStr.isSpace c with
  | true => rcases h c hc hspace with rfl | rfl <;> decide
  | false =>
    simp only [PyStr.isSpace, Bool.or_eq_false_iff, Bool.and_eq_false_iff, decide_eq_false_iff_not] at hspace
    constructor
    · symm
      simp only [isSpace, Bool.or_eq_false_iff, Bool.and_eq_false_iff, decide_eq_false_iff_not]
      omega
    symm
    simp only [isBlank, Bool.or_eq_false_iff, Bool.and_eq_false_iff, decide_eq_false_iff_not]
    omega

theorem PlainLine.subset {l' : List Char} (h : PlainLine l) (hsub : l' ⊆ l) : PlainLine l' := fun c hc => h c (hsub hc)

theorem dropWhile_congr {p q : Char → Bool} (h : ∀ c ∈ l, p c = q c) : l.dropWhile p = l.dropWhile q := by
  induction l with
  | nil => rfl
  | cons c l ih =>
    rw [List.dropWhile_cons, List.dropWhile_cons, h c (.head _), ih fun d hd => h d (.tail _ hd)]

theorem splitOnP_congr {p q : Char → Bool} (h : ∀ c ∈ l, p c = q c) : l.splitOnP p = l.splitOnP q := by
  induction l with
  | nil => rfl
  | cons c l ih =>
    rw [List.splitOnP_cons_eq_if_modifyHead, List.splitOnP_cons_eq_if_modifyHead, h c (.head _),
      ih fun d hd => h d (.tail _ hd)]

theorem strip_plain (h : PlainLine l) : (PyStr.strip (String.ofList l)).toList = (trimLeft l).rdropWhile isSpace := by
  have hleft : l.dropWhile PyStr.isSpace = trimLeft l := dropWhile_congr fun c hc => (h.spaces_eq hc).1
  have hplain : PlainLine (trimLeft l) := h.subset (List.dropWhile_sublist _).subset
  rw [PyStr.strip, String.toList_ofList, String.toList_ofList, hleft, List.rdropWhile]
  congr 1
  exact dropWhile_congr fun c hc => (hplain.spaces_eq (List.mem_reverse.mp hc)).1

theorem words_plain (h : PlainLine l) : PyStr.words (PyStr.strip (String.ofList l)) = instruction l := by
  have hplain : PlainLine ((trimLeft l).rdropWhile isSpace) :=
    h.subset ((List.rdropWhile_prefix _ _).sublist.trans (List.dropWhile_sublist _)).subset
  rw [PyStr.words, strip_plain h, instruction, PyStr.wordsBy, PyStr.wordsBy,
    splitOnP_congr fun c hc => (hplain.spaces_eq hc).2]

theorem skipped_plain (h : PlainLine l) :
    (PyStr.strip (String.ofList l) = "" ∨ PyStr.startsWith (PyStr.strip (String.ofList l)) "#" = true) ↔
      isSkipped l = true := by
  have hhead := head?_trim l
  rw [← strip_plain h] at hhead
  have hempty : PyStr.strip (String.ofList l) = "" ↔ trimLeft l = [] := by
    rw [← String.toList_eq_nil_iff, ← List.head?_eq_none_iff, hhead, List.head?_eq_none_iff]
  have hcomment : PyStr.startsWith (PyStr.strip (String.ofList l)) "#" = true ↔ isComment l = true := by
    rw [isComment, ← hhead, PyStr.startsWith, decide_eq_true_iff]
    cases (PyStr.strip (String.ofList l)).toList with
    | nil => simp
    | cons c cs =>
      have hhash : "#".toList = ['#'] := rfl
      rw [hhash, List.head?_cons, Option.some_inj, List.isPrefixOf_cons_cons, List.isPrefixOf_nil_left,
        Bool.and_true, beq_iff_eq]
      exact eq_comm
  rw [hempty, hcomment, isSkipped, Bool.or_eq_true, decide_eq_true_iff, or_comm]

theorem instruction_trimLeft (l : List Char) : instruction (trimLeft l) = instruction l := by
  have htwice : trimLeft (trimLeft l) = trimLeft l := List.dropWhile_idempotent _ _
  rw [instruction, instruction, htwice]

theorem Scan.line_skipped (s : Scan) (h : PlainLine l) (hskip : isSkipped l = true) : s.line (String.ofList l) = s := by
  rw [Scan.line, if_pos ((skipped_plain h).mpr hskip)]

theorem Scan.line_other (s : Scan) (h : PlainLine l)
    (hread : readFrom (trimLeft l) = .ok none) : s.line (String.ofList l) = s := by
  rw [Scan.line, words_plain h]
  split_ifs
  · rfl
  rw [readFrom, instruction_trimLeft] at hread
  split
  · rfl
  next word args heq =>
    rw [heq] at hread
    dsimp only at hread
    by_cases hword : PyStr.upper word = "FROM"
    · rw [if_neg (not_not.mpr hword)] at hread
      split at hread
      · simp at hread
      · split_ifs at hread
        simp at hread
      · cases hread
    · rw [if_pos hword]

theorem filter_of_dropWhile {p : String → Bool} {args rest : List String} {image : String}
    (h : args.dropWhile p = image :: rest) :
    args.filter (fun t => ¬ p t = true) = image :: rest.filter fun t => ¬ p t = true := by
  induction args with
  | nil => simp at h
  | cons a args ih =>
    cases hp : p a with
    | true =>
      rw [List.dropWhile_cons_of_pos hp] at h
      rw [List.filter_cons_of_neg (by simp [hp]), ih h]
    | false =>
      rw [List.dropWhile_cons_of_neg (by simp [hp])] at h
      cases h
      rw [List.filter_cons_of_pos (by simp [hp])]

/-- A `FROM` of Docker is one for the scanner, with the same image. -/
theorem Scan.line_from (s : Scan) (h : PlainLine l) (hskip : isSkipped l = false) {f : From}
    (hread : readFrom (trimLeft l) = .ok (some f)) : ∃ rest, s.line (String.ofList l) = s.from (f.image :: rest) ∧
      ∀ name, asName rest = some name → f.stage = some name := by
  have hseen : ¬ (PyStr.strip (String.ofList l) = "" ∨
      PyStr.startsWith (PyStr.strip (String.ofList l)) "#" = true) := by
    rw [skipped_plain h, hskip]
    simp
  rw [Scan.line, if_neg hseen, words_plain h]
  rw [readFrom, instruction_trimLeft] at hread
  cases hwords : instruction l with
  | nil => simp [hwords] at hread
  | cons word args =>
    simp only [hwords] at hread
    by_cases hword : PyStr.upper word = "FROM"
    · rw [if_neg (not_not.mpr hword)] at hread
      dsimp only
      rw [if_neg (not_not.mpr hword)]
      split at hread
      next image hargs =>
        cases hread
        exact ⟨[], by rw [filter_of_dropWhile hargs]; rfl, fun name hname => nomatch hname⟩
      next image as name hargs =>
        split_ifs at hread
        cases hread
        refine ⟨_, by rw [filter_of_dropWhile hargs], fun name' hname => ?_⟩
        -- a word that starts with `--` may be missing, and then no name is left
        cases has : PyStr.startsWith as "--" <;> cases hn : PyStr.startsWith name "--" <;>
          simp_all [asName]
      · cases hread
    · rw [if_pos hword] at hread
      simp at hread

theorem Scan.from_image (s : Scan) (image : String) (rest : List String) : s.bases ⊆ (s.from (image :: rest)).bases ∧
      (PyStr.lower image = "scratch" ∨ PyStr.lower image ∈ s.stages ∨ image ∈ (s.from (image :: rest)).bases) ∧
      ∀ n ∈ (s.from (image :: rest)).stages, n ∈ s.stages ∨ ∃ name, asName rest = some name ∧ PyStr.lower name = n := by
  refine ⟨?_, ?_, ?_⟩
  · rw [Scan.from]
    split
    · exact List.subset_append_left _ _
    · exact .refl _
  · by_cases hscratch : PyStr.lower image = "scratch"
    · exact .inl hscratch
    by_cases hstage : PyStr.lower image ∈ s.stages
    · exact .inr (.inl hstage)
    refine .inr (.inr ?_)
    simp [Scan.from, hscratch, hstage]
  intro n hn
  rcases List.mem_append.mp hn with hold | hnew
  · exact .inl hold
  · exact .inr (by simpa using hnew)

/-- **The scan.** -/
theorem scan_lines {ls : List (List Char)} (hplain : ∀ l ∈ ls, PlainLine l) {fs : List From}
    (hfs : readFroms ((ls.filter fun l => !isSkipped l).map trimLeft) = some fs) (s : Scan) (pre : List From)
    (hstages : ∀ n ∈ s.stages, ∃ g ∈ pre, ∃ name, g.stage = some name ∧ PyStr.lower name = n) :
    s.bases ⊆ ((ls.map String.ofList).foldl Scan.line s).bases ∧
      ∀ mid f post, fs = mid ++ f :: post → PyStr.lower f.image = "scratch" ∨
        (∃ g ∈ pre ++ mid, g.isNamed f.image = true) ∨ f.image ∈ ((ls.map String.ofList).foldl Scan.line s).bases := by
  induction ls generalizing s pre fs with
  | nil =>
    obtain rfl : fs = [] := by simpa [readFroms] using hfs.symm
    exact ⟨.refl _, by simp⟩
  | cons l ls ih =>
    have hl := hplain l (.head _)
    have hls : ∀ l' ∈ ls, PlainLine l' := fun l' hl' => hplain l' (.tail _ hl')
    rw [List.map_cons, List.foldl_cons]
    cases hskip : isSkipped l with
    | true =>
      rw [List.filter_cons_of_neg (by simp [hskip])] at hfs
      rw [s.line_skipped hl hskip]
      exact ih hls hfs s pre hstages
    | false =>
      rw [List.filter_cons_of_pos (by simp [hskip]), List.map_cons, readFroms] at hfs
      split at hfs
      · cases hfs
      next hread =>
        rw [s.line_other hl hread]
        exact ih hls hfs s pre hstages
      next f hread =>
        obtain ⟨fs', hfs', rfl⟩ := Option.map_eq_some_iff.mp hfs
        obtain ⟨rest, hline, hname⟩ := s.line_from hl hskip hread
        obtain ⟨hbases, himage, hnew⟩ := s.from_image f.image rest
        rw [hline]
        have hstages' : ∀ n ∈ (s.from (f.image :: rest)).stages,
            ∃ g ∈ pre ++ [f], ∃ name, g.stage = some name ∧ PyStr.lower name = n := by
          intro n hn
          rcases hnew n hn with hold | ⟨name, hrest, hlower⟩
          · obtain ⟨g, hg, hgn⟩ := hstages n hold
            exact ⟨g, List.mem_append_left _ hg, hgn⟩
          · exact ⟨f, by simp, name, hname name hrest, hlower⟩
        obtain ⟨hmono, hall⟩ := ih hls hfs' _ _ hstages'
        refine ⟨List.Subset.trans hbases hmono, ?_⟩
        intro mid g post heq
        rcases List.cons_eq_append_iff.mp heq with ⟨rfl, hcons⟩ | ⟨mid', rfl, hfs''⟩
        · -- this instruction
          cases hcons
          rcases himage with hscratch | hstage | hbase
          · exact .inl hscratch
          · obtain ⟨g', hg', name, hname', hlower⟩ := hstages _ hstage
            refine .inr (.inl ⟨g', by simpa using hg', ?_⟩)
            simp [From.isNamed, hname', hlower]
          · exact .inr (.inr (hmono hbase))
        -- a later one
        have hlater := hall mid' g post hfs''
        rwa [List.append_assoc, List.singleton_append] at hlater

theorem repository_of_imageAllowed {cfg : Settings} {image : String} (h : imageAllowed cfg image = true)
    (hports : ∀ a ∈ cfg.allowedImages, PyStr.before ':' image = PyStr.before ':' a →
      image = a ∨ (hasPort image = false ∧ hasPort a = false)) :
    ∃ a ∈ cfg.allowedImages, repository image = repository a := by
  rw [imageAllowed, List.any_eq_true] at h
  obtain ⟨a, ha, hmatch⟩ := h
  refine ⟨a, ha, ?_⟩
  rw [Bool.or_eq_true, decide_eq_true_iff, decide_eq_true_iff] at hmatch
  rcases hmatch with rfl | hbefore
  · rfl
  rcases hports a ha hbefore with rfl | ⟨himage, hentry⟩
  · rfl
  · rw [repository_of_noPort himage, repository_of_noPort hentry, hbefore]

def exampleSettings : Settings := { allowedImages := ["python", "node"] }

def exampleBuild (dockerfile : String) : List (String × Json) :=
  [("dockerfile", .str dockerfile), ("files", .obj [("app.py", .str "x")])]

end NexusGrid.Replica

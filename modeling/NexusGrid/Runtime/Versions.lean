import Mathlib.Data.List.Lex
import Mathlib.Order.PiLex
import NexusGrid.Lib.PyStr

/-! # Version numbers

`_ver_tuple` (`runtime/updater.py`) turns a version into a tuple of numbers: the digits of each part between dots,
read as one number.
-/

namespace NexusGrid.Runtime

open Lib

/-- Python's digits: `str.isdigit`, and the value that `int` gives a character. -/
structure DigitTable where
  isDigit : Char → Bool
  decimal : Char → Option Nat
  ascii : ∀ c, c.isDigit = true → isDigit c = true ∧ decimal c = some (c.toNat - 48)

def asciiDigits : DigitTable where
  isDigit := Char.isDigit
  decimal c := some (c.toNat - 48)
  ascii _ h := ⟨h, rfl⟩

/-- `sys.get_int_max_str_digits()`. -/
def intMaxStrDigits : Nat := 4300

namespace DigitTable

variable (t : DigitTable)

def push (n : Nat) (c : Char) : Option Nat := (t.decimal c).map fun d => 10 * n + d

/-- `int(digits)`; `none` when it raises. -/
def int (digits : List Char) : Option Nat := if intMaxStrDigits < digits.length then none else digits.foldlM t.push 0

def verPart (part : List Char) : Option Nat :=
  let digits := part.filter t.isDigit
  if digits = [] then some 0 else t.int digits

/-- `_ver_tuple`; `none` when it raises. -/
def verTuple (v : String) : Option (List Nat) := (PyStr.pieces '.' v.toList).mapM t.verPart

end DigitTable

structure Numeral where
  digits : List Char
  nonempty : digits ≠ []
  decimal : ∀ c ∈ digits, c.isDigit = true

def Numeral.value (d : Numeral) : Nat := d.digits.foldl (fun n c => 10 * n + (c.toNat - 48)) 0

/-- Numbers with dots between them, and a suffix for a pre-release. -/
structure Version where
  first : Numeral
  rest : List Numeral
  suffix : List Char
  /-- The suffix does not continue the numbers. -/
  suffix_head : ∀ c ∈ suffix.head?, c.isDigit = false ∧ c ≠ '.'

def dotted (suffix : List Char) : Numeral → List Numeral → List Char
  | d, [] => d.digits ++ suffix
  | d, d' :: ds => d.digits ++ '.' :: dotted suffix d' ds

namespace Version

def text (v : Version) : String := String.ofList (dotted v.suffix v.first v.rest)

def numbers (v : Version) : List Nat := (v.first :: v.rest).map Numeral.value

def component (v : Version) (i : Nat) : Nat := v.numbers.getD i 0

/-- The order of semantic versions: `v` is newer than `w`. -/
def Newer (before : List Char → List Char → Prop) (v w : Version) : Prop := toLex w.component < toLex v.component ∨
  v.component = w.component ∧ w.suffix ≠ [] ∧ (v.suffix = [] ∨ before w.suffix v.suffix)

end Version

namespace DigitTable

variable {t : DigitTable}

variable {n : Nat} {d : Numeral} {s : List Char} {l : List Nat}

theorem le_of_foldlM_push {ds : List Char} {m : Nat} (h : ds.foldlM t.push m = some n) : m ≤ n := by
  induction ds generalizing m with
  | nil => exact (Option.some.inj h).le
  | cons c ds ih =>
    rw [List.foldlM_cons, Option.bind_eq_bind, Option.bind_eq_some_iff] at h
    obtain ⟨k, hk, hrest⟩ := h
    obtain ⟨d, -, rfl⟩ := Option.map_eq_some_iff.mp hk
    have hle := ih hrest
    omega

theorem foldlM_push_ascii {ds : List Char} (h : ∀ c ∈ ds, c.isDigit = true) (m : Nat) :
    ds.foldlM t.push m = some (ds.foldl (fun n c => 10 * n + (c.toNat - 48)) m) := by
  induction ds generalizing m with
  | nil => rfl
  | cons c ds ih =>
    have hc := (t.ascii c (h c (.head _))).2
    rw [List.foldlM_cons, push, hc]
    exact ih (fun c' hc' => h c' (.tail _ hc')) _

theorem filter_numeral (d : Numeral) : d.digits.filter t.isDigit = d.digits :=
  List.filter_eq_self.mpr fun c hc => (t.ascii c (d.decimal c hc)).1

theorem verPart_append (h : t.verPart (d.digits ++ s) = some n) :
    (s.filter t.isDigit).foldlM t.push d.value = some n := by
  have hne : d.digits ++ s.filter t.isDigit ≠ [] := by simp [d.nonempty]
  rw [verPart, List.filter_append, filter_numeral, if_neg hne, int] at h
  split at h
  · cases h
  rw [List.foldlM_append, foldlM_push_ascii d.decimal] at h
  exact h

theorem verPart_le (h : t.verPart (d.digits ++ s) = some n) : d.value ≤ n := le_of_foldlM_push (verPart_append h)

theorem verPart_eq (hs : ∀ c ∈ s, t.isDigit c = false) (h : t.verPart (d.digits ++ s) = some n) : n = d.value := by
  have hnone : s.filter t.isDigit = [] := List.filter_eq_nil_iff.mpr fun c hc => by simp [hs c hc]
  have hfold := verPart_append h
  rw [hnone] at hfold
  exact (Option.some.inj hfold).symm

theorem mapM_cons_eq_some {f : List Char → Option Nat} {p : List Char} {ps : List (List Char)} :
    (p :: ps).mapM f = some l ↔ ∃ n l', f p = some n ∧ ps.mapM f = some l' ∧ n :: l' = l := by
  simp [List.mapM_cons, Option.bind_eq_some_iff]

theorem dot_notMem (d : Numeral) : '.' ∉ d.digits := fun h => absurd (d.decimal '.' h) (by decide)

theorem verTuple_eq {suffix : List Char} (hs : ∀ c ∈ suffix, t.isDigit c = false ∧ c ≠ '.')
    {ds : List Numeral} (h : (PyStr.pieces '.' (dotted suffix d ds)).mapM t.verPart = some l) :
    l = (d :: ds).map Numeral.value := by
  induction ds generalizing d l with
  | nil =>
    have hdot : '.' ∉ d.digits ++ suffix := by
      rw [List.mem_append]
      rintro (hd | hd)
      · exact dot_notMem d hd
      · exact (hs '.' hd).2 rfl
    rw [dotted, PyStr.pieces_of_notMem hdot] at h
    obtain ⟨n, l', hn, hl', rfl⟩ := mapM_cons_eq_some.mp h
    cases hl'
    rw [verPart_eq (fun c hc => (hs c hc).1) hn]
    rfl
  | cons d' ds ih =>
    rw [dotted, PyStr.pieces_append_cons (dot_notMem d)] at h
    obtain ⟨n, l', hn, hl', rfl⟩ := mapM_cons_eq_some.mp h
    have hn' := verPart_eq (s := []) (by simp) (by simpa using hn)
    rw [ih hl', hn']
    rfl

theorem numbers_le_verTuple {suffix : List Char} {ds : List Numeral}
    (h : (PyStr.pieces '.' (dotted suffix d ds)).mapM t.verPart = some l) : (d :: ds).map Numeral.value ≤ l := by
  induction ds generalizing d l with
  | nil =>
    obtain ⟨s, more, -, hmore⟩ := PyStr.pieces_append (dot_notMem d) suffix
    rw [dotted, hmore] at h
    obtain ⟨n, l', hn, -, rfl⟩ := mapM_cons_eq_some.mp h
    have hle := verPart_le hn
    rw [List.map_cons, List.map_nil]
    rcases hle.lt_or_eq with hlt | heq
    · exact le_of_lt (List.Lex.rel hlt)
    rw [heq]
    refine List.cons_le_cons n ?_
    cases l' with
    | nil => exact le_rfl
    | cons m l' => exact le_of_lt List.Lex.nil
  | cons d' ds ih =>
    rw [dotted, PyStr.pieces_append_cons (dot_notMem d)] at h
    obtain ⟨n, l', hn, hl', rfl⟩ := mapM_cons_eq_some.mp h
    have hn' := verPart_eq (s := []) (by simp) (by simpa using hn)
    rw [List.map_cons, hn']
    exact List.cons_le_cons d.value (ih hl')

end DigitTable

def padded (l : List Nat) (i : Nat) : Nat := l.getD i 0

variable {l l' : List Nat}

theorem padded_cons_lt {a : Nat} (h : toLex (padded l) < toLex (padded l')) :
    toLex (padded (a :: l)) < toLex (padded (a :: l')) := by
  obtain ⟨i, hbefore, hlt⟩ := h
  refine ⟨i + 1, ?_, hlt⟩
  intro j hj
  cases j with
  | zero => rfl
  | succ j => exact hbefore j (by omega)

theorem padded_nil_lt (h : ∃ n ∈ l, n ≠ 0) : toLex (padded []) < toLex (padded l) := by
  induction l with
  | nil => simp at h
  | cons a l ih =>
    by_cases ha : a = 0
    · subst ha
      have hl : ∃ n ∈ l, n ≠ 0 := by simpa using h
      obtain ⟨i, hbefore, hlt⟩ := ih hl
      refine ⟨i + 1, ?_, hlt⟩
      intro j hj
      cases j with
      | zero => rfl
      | succ j => exact hbefore j (by omega)
    · exact ⟨0, by intro j hj; omega, Nat.pos_of_ne_zero ha⟩

theorem padded_lt_of_lt (h : l < l')
    (hzeros : ∀ k, l' ≠ l ++ List.replicate (k + 1) 0) : toLex (padded l) < toLex (padded l') := by
  induction l generalizing l' with
  | nil =>
    apply padded_nil_lt
    by_contra hall
    push Not at hall
    cases l' with
    | nil => cases h
    | cons a l' =>
      refine hzeros l'.length ?_
      rw [List.nil_append, List.eq_replicate_iff]
      exact ⟨rfl, hall⟩
  | cons a l ih =>
    cases l' with
    | nil => cases h
    | cons b l' =>
      rcases List.cons_lt_cons_iff.mp h with hab | ⟨rfl, hrest⟩
      · exact ⟨0, by intro j hj; omega, hab⟩
      · exact padded_cons_lt (ih hrest fun k hk => hzeros k (by rw [hk, List.cons_append]))

/-- **Newer by tuples.** -/
theorem component_of_zeros {v w : Version} {k : Nat} (h : v.numbers = w.numbers ++ List.replicate k 0) :
    v.component = w.component := by
  funext i
  rw [Version.component, Version.component, h]
  rw [List.getD_eq_getElem?_getD, List.getD_eq_getElem?_getD, List.getElem?_append]
  split
  · rfl
  next hi =>
    rw [List.getElem?_replicate, List.getElem?_eq_none (by omega)]
    split <;> rfl

theorem newer_iff_of_verTuple_lt {t : DigitTable} {v w : Version}
    (hw : t.verTuple w.text = some l) (hv : t.verTuple v.text = some l') (h : l < l')
    (hsuffix : ∀ c ∈ v.suffix, t.isDigit c = false ∧ c ≠ '.') (before : List Char → List Char → Prop) :
    v.Newer before w ↔ (∀ k, v.numbers ≠ w.numbers ++ List.replicate (k + 1) 0) ∨
      w.suffix ≠ [] ∧ (v.suffix = [] ∨ before w.suffix v.suffix) := by
  rw [DigitTable.verTuple, Version.text, String.toList_ofList] at hw hv
  have hv' := DigitTable.verTuple_eq hsuffix hv
  have hle := DigitTable.numbers_le_verTuple hw
  have hlt : w.numbers < v.numbers := by
    rw [hv'] at h
    exact lt_of_le_of_lt hle h
  by_cases hzeros : ∀ k, v.numbers ≠ w.numbers ++ List.replicate (k + 1) 0
  · exact iff_of_true (.inl (padded_lt_of_lt hlt hzeros)) (.inl hzeros)
  · -- the numbers are the same, so that the suffixes decide
    push Not at hzeros
    obtain ⟨k, hk⟩ := hzeros
    have hsame := component_of_zeros hk
    constructor
    · rintro (hnumbers | ⟨-, hpre⟩)
      · rw [hsame] at hnumbers
        exact absurd hnumbers (lt_irrefl _)
      · exact .inr hpre
    · rintro (hzeros | hpre)
      · exact absurd hk (hzeros k)
      · exact .inr ⟨hsame, hpre⟩

end NexusGrid.Runtime

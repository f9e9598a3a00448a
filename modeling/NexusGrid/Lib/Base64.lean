import Mathlib.Data.List.DropRight

/-! # Base64

`base64.b64encode` and `base64.b64decode` of Python, and their variants for URLs with `-` and `_` in place of `+` and
`/`.
-/

namespace NexusGrid.Lib.Base64

def digit (urlsafe : Bool) (n : Nat) : Char :=
  if n < 26 then Char.ofNat (n + 65)
  else if n < 52 then Char.ofNat (n + 71)
  else if n < 62 then Char.ofNat (n - 4)
  else if n = 62 then (if urlsafe then '-' else '+')
  else (if urlsafe then '_' else '/')

/-- The value of a digit. -/
def value (urlsafe : Bool) (c : Char) : Option Nat :=
  if 65 ≤ c.toNat ∧ c.toNat ≤ 90 then some (c.toNat - 65)
  else if 97 ≤ c.toNat ∧ c.toNat ≤ 122 then some (c.toNat - 71)
  else if 48 ≤ c.toNat ∧ c.toNat ≤ 57 then some (c.toNat + 4)
  else if c = '+' ∨ (urlsafe = true ∧ c = '-') then some 62
  else if c = '/' ∨ (urlsafe = true ∧ c = '_') then some 63
  else none

theorem value_digit (urlsafe : Bool) : ∀ n < 64, value urlsafe (digit urlsafe n) = some n := by
  cases urlsafe <;> decide

theorem digit_ne_pad (urlsafe : Bool) : ∀ n < 64, digit urlsafe n ≠ '=' := by
  cases urlsafe <;> decide

def bare (urlsafe : Bool) : List UInt8 → List Char
  | [] => []
  | [a] => [digit urlsafe (a.toNat / 4), digit urlsafe (a.toNat % 4 * 16)]
  | [a, b] =>
    [digit urlsafe (a.toNat / 4), digit urlsafe (a.toNat % 4 * 16 + b.toNat / 16), digit urlsafe (b.toNat % 16 * 4)]
  | a :: b :: c :: rest =>
    digit urlsafe (a.toNat / 4) :: digit urlsafe (a.toNat % 4 * 16 + b.toNat / 16) ::
      digit urlsafe (b.toNat % 16 * 4 + c.toNat / 64) :: digit urlsafe (c.toNat % 64) :: bare urlsafe rest

/-- `"=" * (-len(s) % 4)`. -/
def padding (s : List Char) : List Char := List.replicate ((4 - s.length % 4) % 4) '='

/-- `b64encode` and `urlsafe_b64encode`. -/
def encode (urlsafe : Bool) (bytes : List UInt8) : List Char := bare urlsafe bytes ++ padding (bare urlsafe bytes)

/-- The decoder after `quad` digits, with the bits `left` and `pads` paddings. -/
def decodeFrom (urlsafe : Bool) (quad left pads : Nat) : List Char → Option (List UInt8)
  | [] => if quad = 0 then some [] else none
  | c :: cs =>
    if c = '=' then
      if 2 ≤ quad then
        if 4 ≤ quad + pads + 1 then some [] else decodeFrom urlsafe quad left (pads + 1) cs
      else decodeFrom urlsafe quad left pads cs
    else match value urlsafe c with
      | none => decodeFrom urlsafe quad left pads cs
      | some v =>
        match quad with
        | 0 => decodeFrom urlsafe 1 v 0 cs
        | 1 => (decodeFrom urlsafe 2 (v % 16) 0 cs).map (UInt8.ofNat (left * 4 + v / 16) :: ·)
        | 2 => (decodeFrom urlsafe 3 (v % 4) 0 cs).map (UInt8.ofNat (left * 16 + v / 4) :: ·)
        | _ => (decodeFrom urlsafe 0 0 0 cs).map (UInt8.ofNat (left * 64 + v) :: ·)

/-- `b64decode` and `urlsafe_b64decode`; `none` when they raise. -/
def decode (urlsafe : Bool) (s : List Char) : Option (List UInt8) := decodeFrom urlsafe 0 0 0 s

section Digit

variable {urlsafe : Bool} {n : Nat} (hn : n < 64) (left pads : Nat) (cs : List Char)

include hn

theorem decodeFrom_zero : decodeFrom urlsafe 0 left pads (digit urlsafe n :: cs) = decodeFrom urlsafe 1 n 0 cs := by
  rw [decodeFrom, if_neg (digit_ne_pad urlsafe n hn), value_digit urlsafe n hn]
  rfl

theorem decodeFrom_one : decodeFrom urlsafe 1 left pads (digit urlsafe n :: cs) =
      (decodeFrom urlsafe 2 (n % 16) 0 cs).map (UInt8.ofNat (left * 4 + n / 16) :: ·) := by
  rw [decodeFrom, if_neg (digit_ne_pad urlsafe n hn), value_digit urlsafe n hn]
  rfl

theorem decodeFrom_two : decodeFrom urlsafe 2 left pads (digit urlsafe n :: cs) =
      (decodeFrom urlsafe 3 (n % 4) 0 cs).map (UInt8.ofNat (left * 16 + n / 4) :: ·) := by
  rw [decodeFrom, if_neg (digit_ne_pad urlsafe n hn), value_digit urlsafe n hn]
  rfl

theorem decodeFrom_three : decodeFrom urlsafe 3 left pads (digit urlsafe n :: cs) =
      (decodeFrom urlsafe 0 0 0 cs).map (UInt8.ofNat (left * 64 + n) :: ·) := by
  rw [decodeFrom, if_neg (digit_ne_pad urlsafe n hn), value_digit urlsafe n hn]
  rfl

end Digit

theorem padding_group (a b c d : Char) (s : List Char) : padding (a :: b :: c :: d :: s) = padding s := by
  have hlen : (s.length + 1 + 1 + 1 + 1) % 4 = s.length % 4 := by omega
  simp only [padding, List.length_cons, hlen]

theorem ofNat_of_eq {n : Nat} {b : UInt8} (h : n = b.toNat) : UInt8.ofNat n = b := by
  rw [h, UInt8.ofNat_toNat]

/-- **What was encoded is decoded.** -/
theorem decode_encode (urlsafe : Bool) (bytes : List UInt8) : decode urlsafe (encode urlsafe bytes) = some bytes := by
  unfold decode encode
  fun_induction bare urlsafe bytes with
  | case1 => rfl
  | case2 a =>
    have ha := a.toNat_lt
    have hbyte : UInt8.ofNat (a.toNat / 4 * 4 + a.toNat % 4 * 16 / 16) = a := ofNat_of_eq (by omega)
    simp only [List.cons_append, List.nil_append]
    rw [decodeFrom_zero (by omega), decodeFrom_one (by omega), hbyte]
    rfl
  | case3 a b =>
    have ha := a.toNat_lt
    have hb := b.toNat_lt
    have hfirst : UInt8.ofNat (a.toNat / 4 * 4 + (a.toNat % 4 * 16 + b.toNat / 16) / 16) = a := ofNat_of_eq (by omega)
    have hsecond : UInt8.ofNat ((a.toNat % 4 * 16 + b.toNat / 16) % 16 * 16 + b.toNat % 16 * 4 / 4) = b :=
      ofNat_of_eq (by omega)
    simp only [List.cons_append, List.nil_append]
    rw [decodeFrom_zero (by omega), decodeFrom_one (by omega), decodeFrom_two (by omega), hfirst, hsecond]
    rfl
  | case4 a b c rest ih =>
    have ha := a.toNat_lt
    have hb := b.toNat_lt
    have hc := c.toNat_lt
    have hfirst : UInt8.ofNat (a.toNat / 4 * 4 + (a.toNat % 4 * 16 + b.toNat / 16) / 16) = a := ofNat_of_eq (by omega)
    have hsecond : UInt8.ofNat ((a.toNat % 4 * 16 + b.toNat / 16) % 16 * 16 +
        (b.toNat % 16 * 4 + c.toNat / 64) / 4) = b := ofNat_of_eq (by omega)
    have hthird : UInt8.ofNat ((b.toNat % 16 * 4 + c.toNat / 64) % 4 * 64 + c.toNat % 64) = c := ofNat_of_eq (by omega)
    rw [padding_group]
    simp only [List.cons_append]
    rw [decodeFrom_zero (by omega), decodeFrom_one (by omega), decodeFrom_two (by omega),
      decodeFrom_three (by omega), ih, hfirst, hsecond, hthird]
    rfl

theorem mem_bare {urlsafe : Bool} {bytes : List UInt8} {c : Char} (hc : c ∈ bare urlsafe bytes) :
    ∃ n < 64, c = digit urlsafe n := by
  fun_induction bare urlsafe bytes with
  | case1 => cases hc
  | case2 a =>
    have ha := a.toNat_lt
    simp only [List.mem_cons, List.not_mem_nil, or_false] at hc
    rcases hc with rfl | rfl <;> exact ⟨_, by omega, rfl⟩
  | case3 a b =>
    have ha := a.toNat_lt
    have hb := b.toNat_lt
    simp only [List.mem_cons, List.not_mem_nil, or_false] at hc
    rcases hc with rfl | rfl | rfl <;> exact ⟨_, by omega, rfl⟩
  | case4 a b c rest ih =>
    have ha := a.toNat_lt
    have hb := b.toNat_lt
    have hc' := c.toNat_lt
    simp only [List.mem_cons] at hc
    rcases hc with rfl | rfl | rfl | rfl | hrest
    · exact ⟨_, by omega, rfl⟩
    · exact ⟨_, by omega, rfl⟩
    · exact ⟨_, by omega, rfl⟩
    · exact ⟨_, by omega, rfl⟩
    · exact ih hrest

def rstrip (s : List Char) : List Char := s.rdropWhile fun c => c = '='

theorem rstrip_replicate {s : List Char} (hs : '=' ∉ s) (k : Nat) : rstrip (s ++ List.replicate k '=') = s := by
  induction k with
  | zero =>
    rw [List.replicate_zero, List.append_nil]
    refine List.rdropWhile_eq_self_iff.mpr fun hne hlast => hs ?_
    rw [← of_decide_eq_true hlast]
    exact List.getLast_mem hne
  | succ k ih =>
    rw [List.replicate_succ', ← List.append_assoc]
    exact (List.rdropWhile_concat_pos _ _ _ (by decide)).trans ih

theorem rstrip_encode (urlsafe : Bool) (bytes : List UInt8) : rstrip (encode urlsafe bytes) = bare urlsafe bytes := by
  refine rstrip_replicate (fun hpad => ?_) _
  obtain ⟨n, hn, hdigit⟩ := mem_bare hpad
  exact digit_ne_pad urlsafe n hn hdigit.symm

end NexusGrid.Lib.Base64

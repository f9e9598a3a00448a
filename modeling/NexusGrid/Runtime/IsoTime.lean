import Mathlib.Algebra.Order.BigOperators.Group.Finset
import Mathlib.Data.Char

/-! # ISO timestamps

`iso_now` is `datetime.now(timezone.utc).isoformat()`, which leaves a fraction of zero out.
-/

namespace NexusGrid.Runtime

/-- The days of a month; months are counted from the start of year 0. -/
def monthLength (k : Nat) : Nat :=
  if k % 12 = 1 then
    if (k / 12) % 4 = 0 ∧ ((k / 12) % 100 ≠ 0 ∨ (k / 12) % 400 = 0) then 29 else 28
  else if k % 12 ∈ [3, 5, 8, 10] then 30
  else 31

/-- A `datetime` in UTC, of a year with four digits. -/
structure UtcTime where
  year : Nat
  month : Nat
  day : Nat
  hour : Nat
  minute : Nat
  second : Nat
  microsecond : Nat
  year_mem : 1 ≤ year ∧ year ≤ 9999
  month_mem : 1 ≤ month ∧ month ≤ 12
  day_mem : 1 ≤ day ∧ day ≤ monthLength (12 * year + (month - 1))
  hour_lt : hour < 24
  minute_lt : minute < 60
  second_lt : second < 60
  microsecond_lt : microsecond < 1000000

/-- The number `n` with `w` digits. -/
def pad : Nat → Nat → List Char
  | 0, _ => []
  | w + 1, n => Char.ofNat (48 + n / 10 ^ w) :: pad w (n % 10 ^ w)

/-- The days before a month. -/
def daysBefore (k : Nat) : Nat := ∑ j ∈ Finset.range k, monthLength j

namespace UtcTime

def monthIndex (t : UtcTime) : Nat := 12 * t.year + (t.month - 1)

/-- The microseconds since the start of year 0. -/
def micros (t : UtcTime) : Nat :=
  ((((daysBefore t.monthIndex + t.day) * 24 + t.hour) * 60 + t.minute) * 60 + t.second) * 1000000 + t.microsecond

def isoFormat (t : UtcTime) : List Char :=
  pad 4 t.year ++ ('-' :: (pad 2 t.month ++ ('-' :: (pad 2 t.day ++ ('T' :: (pad 2 t.hour ++ (':' :: (pad 2 t.minute ++
    (':' :: (pad 2 t.second ++ ((if t.microsecond = 0 then [] else '.' :: pad 6 t.microsecond) ++ "+00:00".toList)))))))))))

end UtcTime

theorem length_pad (w n : Nat) : (pad w n).length = w := by
  induction w generalizing n with
  | zero => rfl
  | succ w ih => rw [pad, List.length_cons, ih]

theorem digit_lt_iff {a b : Nat} (ha : a < 10) (hb : b < 10) : Char.ofNat (48 + a) < Char.ofNat (48 + b) ↔ a < b := by
  have hall : ∀ a b : Fin 10, Char.ofNat (48 + a) < Char.ofNat (48 + b) ↔ a < b := by decide
  exact hall ⟨a, ha⟩ ⟨b, hb⟩

theorem digit_inj {a b : Nat} (ha : a < 10) (hb : b < 10) : Char.ofNat (48 + a) = Char.ofNat (48 + b) ↔ a = b := by
  have hall : ∀ a b : Fin 10, Char.ofNat (48 + a) = Char.ofNat (48 + b) ↔ a = b := by decide
  rw [hall ⟨a, ha⟩ ⟨b, hb⟩, Fin.mk.injEq]

theorem lt_iff_div_mod (p a b : Nat) : a < b ↔ a / p < b / p ∨ (a / p = b / p ∧ a % p < b % p) := by
  have ha := Nat.div_add_mod a p
  have hb := Nat.div_add_mod b p
  constructor
  · intro h
    rcases Nat.lt_or_eq_of_le (Nat.div_le_div_right (c := p) (Nat.le_of_lt h)) with hlt | heq
    · exact .inl hlt
    refine .inr ⟨heq, ?_⟩
    rw [heq] at ha
    omega
  rintro (hlt | ⟨heq, hmod⟩)
  · exact Nat.lt_of_div_lt_div hlt
  rw [heq] at ha
  omega

/-- Numbers of one width compare as their texts do. -/
theorem pad_lt_iff {w a b : Nat} (ha : a < 10 ^ w) (hb : b < 10 ^ w) : pad w a < pad w b ↔ a < b := by
  induction w generalizing a b with
  | zero =>
    obtain rfl : a = b := by rw [pow_zero] at ha hb; omega
    simp [pad]
  | succ w ih =>
    have hpos : 0 < 10 ^ w := Nat.pow_pos (by decide)
    have ha' : a / 10 ^ w < 10 := Nat.div_lt_of_lt_mul (by rwa [← pow_succ])
    have hb' : b / 10 ^ w < 10 := Nat.div_lt_of_lt_mul (by rwa [← pow_succ])
    rw [pad, pad, List.cons_lt_cons_iff, digit_lt_iff ha' hb', digit_inj ha' hb',
      ih (Nat.mod_lt _ hpos) (Nat.mod_lt _ hpos), lt_iff_div_mod (10 ^ w) a b]

theorem pad_inj {w a b : Nat} (ha : a < 10 ^ w) (hb : b < 10 ^ w) (h : pad w a = pad w b) : a = b := by
  have hab := (pad_lt_iff ha hb).not
  have hba := (pad_lt_iff hb ha).not
  rw [h] at hab hba
  have := hab.mp (List.lt_irrefl _)
  have := hba.mp (List.lt_irrefl _)
  omega

theorem append_lt_append_iff {u u' : List Char} (h : u.length = u'.length) (v v' : List Char) :
    u ++ v < u' ++ v' ↔ u < u' ∨ (u = u' ∧ v < v') := by
  induction u generalizing u' with
  | nil =>
    obtain rfl : u' = [] := List.length_eq_zero_iff.mp h.symm
    simp
  | cons a u ih =>
    cases u' with
    | nil => cases h
    | cons a' u' =>
      rw [List.cons_append, List.cons_append, List.cons_lt_cons_iff, List.cons_lt_cons_iff, ih (Nat.succ.inj h)]
      simp only [List.cons.injEq]
      tauto

/-- A number and the rest of the text after it. -/
theorem pad_append_lt_iff {w a b : Nat} (ha : a < 10 ^ w) (hb : b < 10 ^ w) (v v' : List Char) :
    pad w a ++ v < pad w b ++ v' ↔ a < b ∨ (a = b ∧ v < v') := by
  rw [append_lt_append_iff ((length_pad w a).trans (length_pad w b).symm), pad_lt_iff ha hb]
  refine or_congr_right (and_congr_left fun _ => ⟨pad_inj ha hb, fun h => h ▸ rfl⟩)

/-- The offset is before every fraction. -/
theorem fraction_lt_iff {a b : Nat} (ha : a < 1000000) (hb : b < 1000000) :
    (if a = 0 then [] else '.' :: pad 6 a) ++ "+00:00".toList < (if b =
      0 then [] else '.' :: pad 6 b) ++ "+00:00".toList ↔
      a < b := by
  have hoffset : "+00:00".toList = '+' :: "00:00".toList := by decide
  have hdot : ('+' : Char) < '.' := by decide
  have hdot' : ¬ ('.' : Char) < '+' := by decide
  split_ifs with h h' h'
  · simp [h, h']
  · rw [hoffset, List.nil_append, List.cons_append, List.cons_lt_cons_iff]
    exact iff_of_true (.inl hdot) (by omega)
  · rw [hoffset, List.nil_append, List.cons_append, List.cons_lt_cons_iff]
    exact iff_of_false (by simp [hdot']) (by omega)
  rw [List.cons_append, List.cons_append, List.cons_lt_cons_iff, pad_append_lt_iff ha hb]
  simp

theorem daysBefore_add_le {j k : Nat} (h : j < k) : daysBefore j + monthLength j ≤ daysBefore k := by
  rw [← show daysBefore (j + 1) = daysBefore j + monthLength j from Finset.sum_range_succ _ _]
  exact Finset.sum_le_sum_of_subset (Finset.range_subset_range.mpr h)

namespace UtcTime

/-- Earlier by month and then by day. -/
theorem days_lt_iff (t u : UtcTime) : daysBefore t.monthIndex + t.day < daysBefore u.monthIndex + u.day ↔
    t.year < u.year ∨ (t.year = u.year ∧ (t.month < u.month ∨ (t.month = u.month ∧ t.day < u.day))) := by
  have ht : t.day ≤ monthLength t.monthIndex := t.day_mem.2
  have hu : u.day ≤ monthLength u.monthIndex := u.day_mem.2
  have := t.month_mem
  have := u.month_mem
  have := t.day_mem.1
  have := u.day_mem.1
  have hindex : t.monthIndex = 12 * t.year + (t.month - 1) ∧ u.monthIndex = 12 * u.year + (u.month - 1) := ⟨rfl, rfl⟩
  rcases Nat.lt_trichotomy t.monthIndex u.monthIndex with hlt | heq | hgt
  · have := daysBefore_add_le hlt
    omega
  · rw [heq]
    omega
  have := daysBefore_add_le hgt
  omega

theorem isoFormat_lt_iff (t u : UtcTime) : t.isoFormat < u.isoFormat ↔ t.micros < u.micros := by
  have hdays := days_lt_iff t u
  have hdays' := days_lt_iff u t
  have ht := t.month_mem
  have hu := u.month_mem
  have htd : t.day ≤ 31 := t.day_mem.2.trans (by unfold monthLength; split_ifs <;> decide)
  have hud : u.day ≤ 31 := u.day_mem.2.trans (by unfold monthLength; split_ifs <;> decide)
  have := t.hour_lt
  have := u.hour_lt
  have := t.minute_lt
  have := u.minute_lt
  have := t.second_lt
  have := u.second_lt
  have hsep (c : Char) (v v' : List Char) : c :: v < c :: v' ↔ v < v' := by simp
  unfold isoFormat micros
  rw [pad_append_lt_iff (by have := t.year_mem; omega) (by have := u.year_mem; omega), hsep,
    pad_append_lt_iff (by omega) (by omega), hsep, pad_append_lt_iff (by omega) (by omega), hsep,
    pad_append_lt_iff (by omega) (by omega), hsep, pad_append_lt_iff (by omega) (by omega), hsep,
    pad_append_lt_iff (by omega) (by omega), fraction_lt_iff t.microsecond_lt u.microsecond_lt]
  have := t.microsecond_lt
  have := u.microsecond_lt
  omega

/-- **The texts compare as the times do.** -/
theorem isoFormat_compare (t u : UtcTime) : (t.isoFormat < u.isoFormat ↔ t.micros < u.micros) ∧
    (t.isoFormat = u.isoFormat ↔ t.micros = u.micros) := by
  have hlt := isoFormat_lt_iff t u
  have hgt := isoFormat_lt_iff u t
  refine ⟨hlt, fun h => ?_, fun h => ?_⟩
  · rw [h] at hlt hgt
    have := hlt.not.mp (List.lt_irrefl _)
    have := hgt.not.mp (List.lt_irrefl _)
    omega
  rcases lt_trichotomy t.isoFormat u.isoFormat with hlt' | heq | hgt'
  · have := hlt.mp hlt'
    omega
  · exact heq
  have := hgt.mp hgt'
  omega

end UtcTime

end NexusGrid.Runtime

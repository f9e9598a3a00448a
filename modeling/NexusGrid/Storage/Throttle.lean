import Mathlib.Tactic.Linarith

/-! # The bandwidth of storage transfers

`StorageThrottle.acquire` (`networking/storage_throttle.py`) waits until a bucket of tokens has `n` of them.
-/

namespace NexusGrid.Storage

/-- `storage_bw_busy_mbps` and `storage_bw_idle_mbps`. -/
structure Bandwidth where
  busySetting : Int
  idleSetting : Int

namespace Bandwidth

def busyMbps (cfg : Bandwidth) : ℚ := (max 1 cfg.busySetting : Int)

def idleMbps (cfg : Bandwidth) : ℚ := (max 1 cfg.idleSetting : Int)

/-- `rate_bps`. -/
def rate (cfg : Bandwidth) (busy : Bool) : ℚ := (if busy then cfg.busyMbps else cfg.idleMbps) * 1024 * 1024

def burst (cfg : Bandwidth) (busy : Bool) : ℚ := max (64 * 1024) (cfg.rate busy)

end Bandwidth

structure Throttle where
  busyTokens : ℚ
  idleTokens : ℚ
  last : ℚ

namespace Throttle

variable (cfg : Bandwidth) (busy : Bool)

/-- The bucket that is in use. -/
def tokens (s : Throttle) : ℚ := if busy then s.busyTokens else s.idleTokens

def topUp (now : ℚ) (s : Throttle) : Throttle :=
  let elapsed := now - s.last
  { last := now
    busyTokens := min (cfg.burst busy) (s.busyTokens + elapsed * cfg.busyMbps * 1024 * 1024)
    idleTokens := min (cfg.burst busy) (s.idleTokens + elapsed * cfg.idleMbps * 1024 * 1024) }

/-- A turn of the loop: the call returns, or asks for a sleep. -/
def turn (n : Nat) (now : ℚ) (s : Throttle) : Throttle × Option ℚ :=
  let s := s.topUp cfg busy now
  if n ≤ s.tokens busy then
    (if busy then { s with busyTokens := s.busyTokens - n } else { s with idleTokens := s.idleTokens - n }, none)
  else (s, some (max (5 / 1000) ((n - s.tokens busy) / max 1 (cfg.rate busy))))

variable (n : Nat) (clock : Nat → ℚ) (s : Throttle)

/-- The throttle before turn `k`, while the call waits. -/
def waiting : Nat → Option Throttle
  | 0 => some s
  | k + 1 => (waiting k).bind fun s =>
    match s.turn cfg busy n (clock k) with
    | (_, none) => none
    | (s', some _) => some s'

/-- `acquire(n)` returns. -/
def Returns : Prop := n = 0 ∨ ∃ k, waiting cfg busy n clock s k = none

/-- The clock goes on by what the call sleeps. -/
def Sleeps : Prop := ∀ k s', waiting cfg busy n clock s k = some s' → ∀ d, (s'.turn cfg busy n (clock k)).2 = some d →
    clock k + d ≤ clock (k + 1)

variable {cfg busy n clock s}

theorem rate_pos : 1 ≤ cfg.rate busy := by
  have hbusy : (1 : ℚ) ≤ (max 1 cfg.busySetting : Int) := by exact_mod_cast le_max_left 1 cfg.busySetting
  have hidle : (1 : ℚ) ≤ (max 1 cfg.idleSetting : Int) := by exact_mod_cast le_max_left 1 cfg.idleSetting
  unfold Bandwidth.rate Bandwidth.busyMbps Bandwidth.idleMbps
  split_ifs <;> linarith

theorem tokens_topUp (now : ℚ) : (s.topUp cfg busy now).tokens busy =
    min (cfg.burst busy) (s.tokens busy + (now - s.last) * cfg.rate busy) := by
  cases busy <;> simp [tokens, topUp, Bandwidth.rate, mul_assoc]

theorem turn_of_lt {now : ℚ} (h : (s.topUp cfg busy now).tokens busy < n) : s.turn cfg busy n now =
    (s.topUp cfg busy now, some (max (5 / 1000) ((n - (s.topUp cfg busy now).tokens busy) / max 1 (cfg.rate busy)))) :=
  if_neg (not_le.mpr h)

theorem turn_returns {now : ℚ} (h : n ≤ (s.topUp cfg busy now).tokens busy) : (s.turn cfg busy n now).2 = none := by
  unfold turn
  dsimp only
  rw [if_pos h]

theorem waiting_succ_of_returns {k : Nat} {s' : Throttle} (hk : waiting cfg busy n clock s k = some s')
    (h : (s'.turn cfg busy n (clock k)).2 = none) : waiting cfg busy n clock s (k + 1) = none := by
  rw [waiting, hk, Option.bind_some]
  split
  · rfl
  next heq =>
    rw [heq] at h
    cases h

theorem waiting_succ_of_lt {k : Nat} {s' : Throttle} (hk : waiting cfg busy n clock s k = some s')
    (h : (s'.topUp cfg busy (clock k)).tokens busy < n) :
    waiting cfg busy n clock s (k + 1) = some (s'.topUp cfg busy (clock k)) := by
  rw [waiting, hk, Option.bind_some, turn_of_lt h]

/-- Nothing is ever above the burst. -/
theorem waiting_of_large (clock : Nat → ℚ) (s : Throttle) (h : cfg.burst busy < n) (k : Nat) :
    ∃ s', waiting cfg busy n clock s k = some s' := by
  induction k with
  | zero => exact ⟨s, rfl⟩
  | succ k ih =>
    obtain ⟨s', hs'⟩ := ih
    have hlt : (s'.topUp cfg busy (clock k)).tokens busy < n := by
      rw [tokens_topUp]
      exact lt_of_le_of_lt (min_le_left _ _) h
    exact ⟨_, waiting_succ_of_lt hs' hlt⟩

/-- After the sleep that a turn asks for, there are enough tokens. -/
theorem enough {now next : ℚ} (hn : n ≤ cfg.burst busy) (hlast : s.last = now)
    (hslept : now + (n - s.tokens busy) / cfg.rate busy ≤ next) : n ≤ (s.topUp cfg busy next).tokens busy := by
  have hrate : 0 < cfg.rate busy := lt_of_lt_of_le one_pos rate_pos
  rw [tokens_topUp]
  refine le_min hn ?_
  calc (n : ℚ) = s.tokens busy + (n - s.tokens busy) / cfg.rate busy * cfg.rate busy := by
        rw [div_mul_cancel₀ _ (ne_of_gt hrate), add_sub_cancel]
    _ ≤ s.tokens busy + (next - s.last) * cfg.rate busy := by
        have helapsed : (n - s.tokens busy) / cfg.rate busy ≤ next - s.last := by linarith
        exact add_le_add_right (mul_le_mul_of_nonneg_right helapsed (le_of_lt hrate)) _

/-- **A call returns** exactly when it asks for no more than the burst: then the second turn finds enough tokens, and
otherwise no turn does. -/
theorem acquire_returns_iff (cfg : Bandwidth) (busy : Bool) (n : Nat) (clock : Nat → ℚ) (s : Throttle)
    (hclock : Sleeps cfg busy n clock s) : Returns cfg busy n clock s ↔ n ≤ cfg.burst busy := by
  constructor
  · rintro (rfl | ⟨k, hk⟩)
    · exact le_trans (by norm_num) (le_max_left _ _)
    by_contra hlarge
    obtain ⟨s', hs'⟩ := waiting_of_large clock s (not_le.mp hlarge) k
    rw [hk] at hs'
    cases hs'
  intro hn
  refine .inr ?_
  by_cases hfirst : n ≤ (s.topUp cfg busy (clock 0)).tokens busy
  · exact ⟨1, waiting_succ_of_returns rfl (turn_returns hfirst)⟩
  have hlt := not_le.mp hfirst
  have hsleep := hclock 0 s rfl _ (by rw [turn_of_lt hlt])
  have hslept : clock 0 + (n - (s.topUp cfg busy (clock 0)).tokens busy) / cfg.rate busy ≤ clock 1 := by
    rw [max_eq_right rate_pos] at hsleep
    exact le_trans (add_le_add_right (le_max_right _ _) _) hsleep
  exact ⟨2, waiting_succ_of_returns (waiting_succ_of_lt rfl hlt) (turn_returns (enough hn rfl hslept))⟩

theorem tokens_topUp_nonneg (cfg : Bandwidth) {now : ℚ} (h : 0 ≤ s.tokens busy) (hlast : s.last ≤ now) :
    0 ≤ (s.topUp cfg busy now).tokens busy := by
  have hrate : 0 ≤ (now - s.last) * cfg.rate busy := mul_nonneg (by linarith) (le_trans zero_le_one rate_pos)
  rw [tokens_topUp]
  exact le_min (le_trans (by norm_num) (le_max_left _ _)) (by linarith)

theorem waiting_nonneg (hclock : Monotone clock) (htokens : 0 ≤ s.tokens busy) (hlast : s.last ≤ clock 0) {k : Nat}
    {s' : Throttle} (h : waiting cfg busy n clock s k = some s') : 0 ≤ s'.tokens busy ∧ s'.last ≤ clock k := by
  induction k generalizing s' with
  | zero =>
    cases h
    exact ⟨htokens, hlast⟩
  | succ k ih =>
    obtain ⟨s₁, hs₁, h⟩ := Option.bind_eq_some_iff.mp h
    obtain ⟨hnonneg, hle⟩ := ih hs₁
    by_cases hlt : (s₁.topUp cfg busy (clock k)).tokens busy < n
    · rw [turn_of_lt hlt] at h
      cases h
      exact ⟨tokens_topUp_nonneg cfg hnonneg hle, hclock (Nat.le_succ k)⟩
    have hreturns := turn_returns (not_lt.mp hlt)
    split at h
    · cases h
    next heq =>
      rw [heq] at hreturns
      cases hreturns

theorem sleeps_of_le {n : Nat} (hn : n ≤ 2 * 1024 * 1024) : Sleeps ⟨1, 1⟩ false n (fun k => 2 * k) ⟨0, 0, 0⟩ := by
  intro k s' hs' d hd
  have hclock : Monotone fun k : Nat => (2 * k : ℚ) := fun i j hij => by
    have : (i : ℚ) ≤ j := by exact_mod_cast hij
    linarith
  have hrate : Bandwidth.rate ⟨1, 1⟩ false = 1024 * 1024 := by norm_num [Bandwidth.rate, Bandwidth.idleMbps]
  obtain ⟨hnonneg, hlast⟩ := waiting_nonneg hclock (by simp [tokens]) (by simp) hs'
  have hfull := tokens_topUp_nonneg ⟨1, 1⟩ hnonneg hlast
  have hsize : (n : ℚ) ≤ 2 * 1024 * 1024 := by exact_mod_cast hn
  by_cases hlt : (s'.topUp ⟨1, 1⟩ false (2 * k)).tokens false < n
  · rw [turn_of_lt hlt, hrate] at hd
    cases hd
    have hshort : max (5 / 1000) ((n - (s'.topUp ⟨1, 1⟩ false (2 * k)).tokens false) / max 1 (1024 * 1024)) ≤ (2 :
      ℚ) := by
      refine max_le (by norm_num) ?_
      rw [max_eq_right (by norm_num), div_le_iff₀ (by norm_num)]
      linarith
    push_cast
    linarith
  · rw [turn_returns (not_lt.mp hlt)] at hd
    cases hd

theorem acquire_returns_iff_chunk : Returns ⟨1, 1⟩ false 65564 (fun k => 2 * k) ⟨0, 0, 0⟩ :=
  (acquire_returns_iff ⟨1, 1⟩ false 65564 _ _ (sleeps_of_le (by norm_num))).mpr (by norm_num [Bandwidth.burst,
    Bandwidth.rate, Bandwidth.idleMbps])

/-- **A chunk file of 2 MiB** is more than a second's worth at 1 MB/s: the call for it sleeps for ever. -/
theorem large_chunk_never_sent : Sleeps ⟨1, 1⟩ false (2 * 1024 * 1024) (fun k => 2 * k) ⟨0, 0, 0⟩ ∧
    ¬ Returns ⟨1, 1⟩ false (2 * 1024 * 1024) (fun k => 2 * k) ⟨0, 0, 0⟩ := by
  refine ⟨sleeps_of_le le_rfl, ?_⟩
  have hlarge : Bandwidth.burst ⟨1, 1⟩ false < (2 * 1024 * 1024 : Nat) := by
    norm_num [Bandwidth.burst, Bandwidth.rate, Bandwidth.idleMbps]
  rintro (hzero | ⟨k, hk⟩)
  · cases hzero
  obtain ⟨s', hs'⟩ := waiting_of_large (fun k => 2 * k) ⟨0, 0, 0⟩ hlarge k
  rw [hk] at hs'
  cases hs'

end Throttle

end NexusGrid.Storage

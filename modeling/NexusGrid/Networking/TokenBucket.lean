import Mathlib.Tactic.Linarith
import NexusGrid.Lib.Run

/-! # The rate limit of a tunnel

`_TokenBucket.acquire` tries to take its tokens, and sleeps and tries again while there are too few.
`turn` is one turn of its loop, which runs without an await, `acquire` the loop of one call that no other
call interrupts, and `Metered` a bucket whose concurrent calls take their turns in any order.
-/

namespace NexusGrid.Networking

open Lib

/-- `_TokenBucket`. -/
structure TokenBucket where
  rate : ℚ
  burst : ℚ
  tokens : ℚ
  last : ℚ

namespace TokenBucket

/-- `__init__`, at the time `now`. -/
def new (rate : Nat) (now : ℚ) : TokenBucket where
  rate := rate
  burst := max (64 * 1024) rate
  tokens := max (64 * 1024) rate
  last := now

def refill (b : TokenBucket) (now : ℚ) : TokenBucket :=
  { b with tokens := min b.burst (b.tokens + (now - b.last) * b.rate), last := now }

/-- A turn of the loop of `acquire(n)`: it takes the tokens and returns, or it sleeps for the time in
the result. -/
def turn (b : TokenBucket) (now : ℚ) (n : Nat) : TokenBucket × Option ℚ :=
  if n ≤ (b.refill now).tokens then
    ({ b.refill now with tokens := (b.refill now).tokens - n }, none)
  else (b.refill now, some (max (5 / 1000) ((n - (b.refill now).tokens) / b.rate)))

/-- `acquire(n)` of a call that is alone, with the times at which its turns run; the time at which it
returns. -/
def acquire (b : TokenBucket) (n : Nat) : List ℚ → TokenBucket × Option ℚ
  | [] => (b, none)
  | now :: wakes =>
    match b.turn now n with
    | (b', none) => (b', some now)
    | (b', some _) => b'.acquire n wakes

/-- A bucket with what its calls have got: the time and the bytes, the last first. -/
structure Metered where
  bucket : TokenBucket
  passed : List (ℚ × Nat) := []

/-- A turn of some call. -/
def Metered.step (s : Metered) (call : ℚ × Nat) : Metered :=
  match s.bucket.turn call.1 call.2 with
  | (b, none) => ⟨b, call :: s.passed⟩
  | (b, some _) => ⟨b, s.passed⟩

/-- The bytes that were let through at times with `q`. -/
def admitted (log : List (ℚ × Nat)) (q : ℚ → Bool) : ℚ :=
  ((log.filter fun e => q e.1).map fun e => (e.2 : ℚ)).sum

/-- The clock does not go back. -/
def Later (s : Metered) (call : ℚ × Nat) : Prop := s.bucket.last ≤ call.1

structure Inv (r : Nat) (b : TokenBucket) (log : List (ℚ × Nat)) : Prop where
  rate : b.rate = r
  burst : b.burst = max (64 * 1024) (r : ℚ)
  nonneg : 0 ≤ b.tokens
  le_burst : b.tokens ≤ b.burst
  past : ∀ e ∈ log, e.1 ≤ b.last
  since : ∀ a, a ≤ b.last → admitted log (fun t => a ≤ t) + b.tokens ≤ b.burst + r * (b.last - a)
  within : ∀ a T, 0 ≤ T → admitted log (fun t => a ≤ t ∧ t ≤ a + T) ≤ b.burst + r * T

variable {b : TokenBucket} {log : List (ℚ × Nat)} {r n : Nat} {now : ℚ}

theorem admitted_cons (e : ℚ × Nat) (log : List (ℚ × Nat)) (q : ℚ → Bool) :
    admitted (e :: log) q = (if q e.1 then (e.2 : ℚ) else 0) + admitted log q := by
  unfold admitted
  cases hq : q e.1 <;> simp [hq]

theorem admitted_mono {q q' : ℚ → Bool} (h : ∀ t, q t → q' t) (log : List (ℚ × Nat)) :
    admitted log q ≤ admitted log q' := by
  induction log with
  | nil => exact le_refl _
  | cons e log ih =>
    rw [admitted_cons, admitted_cons]
    have hpos : (0 : ℚ) ≤ e.2 := Nat.cast_nonneg _
    have hhead : (if q e.1 then (e.2 : ℚ) else 0) ≤ if q' e.1 then (e.2 : ℚ) else 0 := by
      by_cases hq : q e.1
      · rw [if_pos hq, if_pos (h _ hq)]
      rw [if_neg hq]
      split_ifs <;> linarith
    linarith

theorem admitted_eq_zero {q : ℚ → Bool} (h : ∀ e ∈ log, q e.1 = false) :
    admitted log q = 0 := by
  have hnone : log.filter (fun e => q e.1) = [] := List.filter_eq_nil_iff.mpr (by simpa using h)
  simp [admitted, hnone]

theorem Inv.refill (h : Inv r b log) (hnow : b.last ≤ now) : Inv r (b.refill now) log := by
  have hr : (0 : ℚ) ≤ r := Nat.cast_nonneg r
  have hburst : (0 : ℚ) ≤ b.burst := le_trans h.nonneg h.le_burst
  have hgain : 0 ≤ (now - b.last) * (r : ℚ) := mul_nonneg (by linarith) hr
  have htokens : (b.refill now).tokens ≤ b.tokens + (now - b.last) * r := by
    rw [← h.rate]
    exact min_le_right _ _
  refine ⟨h.rate, h.burst, ?_, min_le_left _ _, fun e he => le_trans (h.past e he) hnow,
    fun a ha => ?_, h.within⟩
  · refine le_min hburst ?_
    rw [h.rate]
    linarith [h.nonneg]
  by_cases hlast : a ≤ b.last
  · have hsince := h.since a hlast
    have hsplit : (r : ℚ) * (now - a) = r * (b.last - a) + (now - b.last) * r := by
      linarith
    change admitted log _ + (b.refill now).tokens ≤ b.burst + r * (now - a)
    rw [hsplit]
    linarith
  -- nothing was let through since then
  have hzero : admitted log (fun t => a ≤ t) = 0 := by
    refine admitted_eq_zero fun e he => decide_eq_false ?_
    have := h.past e he
    linarith
  have hle : (b.refill now).tokens ≤ b.burst := min_le_left _ _
  have hpos : 0 ≤ (r : ℚ) * (now - a) := mul_nonneg hr (sub_nonneg.mpr ha)
  change admitted log _ + (b.refill now).tokens ≤ b.burst + r * (now - a)
  linarith

/-- The bytes of a call that returns move from the tokens to what was let through. -/
theorem Inv.take (h : Inv r (b.refill now) log) (hn : n ≤ (b.refill now).tokens) :
    Inv r { b.refill now with tokens := (b.refill now).tokens - n } ((now, n) :: log) := by
  have hpos : (0 : ℚ) ≤ n := Nat.cast_nonneg n
  have hr : (0 : ℚ) ≤ r := Nat.cast_nonneg r
  have hsince : ∀ a, a ≤ now → admitted ((now, n) :: log) (fun t => a ≤ t) +
      ((b.refill now).tokens - n) ≤ b.burst + r * (now - a) := by
    intro a ha
    rw [admitted_cons, if_pos (by simpa using ha)]
    have := h.since a ha
    change admitted log _ + (b.refill now).tokens ≤ b.burst + r * (now - a) at this
    linarith
  refine ⟨h.rate, h.burst, sub_nonneg.mpr hn, ?_, ?_, hsince, fun a T hT => ?_⟩
  · exact le_trans (sub_le_self _ hpos) h.le_burst
  · intro e he
    rcases List.mem_cons.mp he with rfl | he
    · exact le_refl _
    · exact h.past e he
  by_cases hin : a ≤ now ∧ now ≤ a + T
  · have hall : admitted ((now, n) :: log) (fun t => a ≤ t ∧ t ≤ a + T) ≤
        admitted ((now, n) :: log) fun t => a ≤ t := by
      refine admitted_mono (fun t ht => ?_) _
      exact decide_eq_true (of_decide_eq_true ht).1
    have hT' : (r : ℚ) * (now - a) ≤ r * T := mul_le_mul_of_nonneg_left (by linarith) hr
    have := hsince a hin.1
    change admitted ((now, n) :: log) _ ≤ b.burst + r * T
    linarith
  change admitted ((now, n) :: log) _ ≤ b.burst + r * T
  rw [admitted_cons, if_neg (by simpa using hin), zero_add]
  exact h.within a T hT

theorem Inv.step {s : Metered} {call : ℚ × Nat} (hlater : Later s call)
    (h : Inv r s.bucket s.passed) : Inv r (s.step call).bucket (s.step call).passed := by
  have hf := h.refill hlater
  unfold Metered.step turn
  split_ifs with hn
  · exact hf.take hn
  · exact hf

/-- After its sleep, a call that is alone finds enough tokens. -/
theorem tokens_after_sleep (hrate : 0 < b.rate) {later : ℚ} (hn : n ≤ b.burst)
    (hlater : now + (n - (b.refill now).tokens) / b.rate ≤ later) :
    n ≤ ((b.refill now).refill later).tokens := by
  refine le_min hn ?_
  have hslept : (n - (b.refill now).tokens) / b.rate ≤ later - now := by linarith
  calc (n : ℚ) = (b.refill now).tokens + (n - (b.refill now).tokens) / b.rate * b.rate := by
        rw [div_mul_cancel₀ _ (ne_of_gt hrate), add_sub_cancel]
    _ ≤ (b.refill now).tokens + (later - now) * b.rate :=
        add_le_add_right (mul_le_mul_of_nonneg_right hslept (le_of_lt hrate)) _

/-- A call that is alone returns at its second turn at the latest. -/
theorem acquire_returns (hrate : 0 < b.rate) (hn : n ≤ b.burst) {later : ℚ}
    (hslept : ∀ d, (b.turn now n).2 = some d → now + d ≤ later) (wakes : List ℚ) :
    ∃ t, (b.acquire n (now :: later :: wakes)).2 = some t := by
  unfold acquire turn
  by_cases hfirst : n ≤ (b.refill now).tokens
  · exact ⟨now, by rw [if_pos hfirst]⟩
  have hwait := hslept _ (by rw [turn, if_neg hfirst])
  have hsecond : n ≤ ((b.refill now).refill later).tokens :=
    tokens_after_sleep hrate hn (le_trans (add_le_add_right (le_max_right _ _) _) hwait)
  refine ⟨later, ?_⟩
  rw [if_neg hfirst]
  simp only [acquire, turn, if_pos hsecond]

end TokenBucket

end NexusGrid.Networking

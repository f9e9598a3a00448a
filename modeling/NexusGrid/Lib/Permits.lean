import Mathlib.Data.List.Nodup

/-! # Counting semaphores

A semaphore is a number of free permits.
-/

namespace NexusGrid.Lib

structure Semaphore where
  value : Nat
  /-- How many permits were handed out. -/
  taken : Nat
  /-- The tickets that came back. -/
  given : List Nat
deriving DecidableEq

namespace Semaphore

/-- A semaphore with `w` permits. -/
def new (w : Nat) : Semaphore := ⟨w, 0, []⟩

/-- Hand out the permit with the ticket `s.taken`. -/
def acquire (s : Semaphore) : Semaphore := { s with value := s.value - 1, taken := s.taken + 1 }

def release (s : Semaphore) (ticket : Nat) : Semaphore := { s with value := s.value + 1, given := ticket :: s.given }

structure Balanced (w : Nat) (holders : List Nat) (s : Semaphore) : Prop where
  total : s.value + holders.length = w
  tickets : (holders ++ s.given).Perm (List.range s.taken)

variable {w t : Nat} {holders rest : List Nat} {s : Semaphore}

theorem balanced_new (w : Nat) : (new w).Balanced w [] := ⟨rfl, .refl _⟩

theorem Balanced.of_perm (h : s.Balanced w holders) (hperm : holders.Perm rest) : s.Balanced w rest where
  total := by
    rw [← hperm.length_eq]
    exact h.total
  tickets := (hperm.symm.append_right s.given).trans h.tickets

theorem Balanced.length_lt (h : s.Balanced w holders) (hfree : s.value ≠ 0) : holders.length < w := by
  have htotal := h.total
  omega

theorem Balanced.acquire (h : s.Balanced w holders) (hfree : s.value ≠ 0) :
    s.acquire.Balanced w (s.taken :: holders) where
  total := by
    have htotal := h.total
    simp only [Semaphore.acquire, List.length_cons]
    omega
  tickets := by
    simp only [Semaphore.acquire, List.range_succ, List.cons_append]
    exact (h.tickets.cons s.taken).trans (List.perm_append_singleton s.taken _).symm

theorem Balanced.release (h : s.Balanced w (t :: rest)) : (s.release t).Balanced w rest where
  total := by
    have htotal := h.total
    rw [List.length_cons] at htotal
    simp only [Semaphore.release]
    omega
  tickets := List.perm_middle.trans h.tickets

/-- **When nobody holds a permit, all are free and each came back exactly once.** -/
theorem Balanced.settled (h : s.Balanced w []) : s.value = w ∧ ∀ k, s.given.count k = if k < s.taken then 1 else 0 := by
  refine ⟨h.total, fun k => ?_⟩
  have hcount : s.given.count k = (List.range s.taken).count k := h.tickets.count_eq k
  rw [hcount]
  split_ifs with hk
  · exact List.count_eq_one_of_mem List.nodup_range (List.mem_range.mpr hk)
  · exact List.count_eq_zero_of_not_mem fun hmem => hk (List.mem_range.mp hmem)

end Semaphore

end NexusGrid.Lib

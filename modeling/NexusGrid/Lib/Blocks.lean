import Mathlib.Order.Monotone.Basic

/-! # A sequence from its blocks

A sequence that was cut into numbered blocks is put together again by reading the blocks in order.
-/

namespace NexusGrid.Lib

variable {α : Type}

/-- The first `n` blocks in order, if all of them can be read. -/
def reassemble (read : Nat → Option (List α)) (n : Nat) : Option (List α) := ((List.range n).mapM read).map List.flatten

theorem mapM_eq_some_map {ι β : Type} {f : ι → Option β} {g : ι → β} {l : List ι}
    (h : ∀ x ∈ l, f x = some (g x)) : l.mapM f = some (l.map g) := by
  induction l with
  | nil => rfl
  | cons x l ih =>
    rw [List.forall_mem_cons] at h
    rw [List.mapM_cons, h.1, ih h.2]
    rfl

theorem isSome_mapM {ι β : Type} {f : ι → Option β} {l : List ι} : (l.mapM f).isSome ↔ ∀ x ∈ l, (f x).isSome := by
  induction l with
  | nil => simp
  | cons x l ih =>
    rw [List.mapM_cons, List.forall_mem_cons, ← ih]
    cases f x with
    | none => simp
    | some b => cases l.mapM f <;> simp

theorem reassemble_eq_some {read : Nat → Option (List α)} {n : Nat} {block : Nat → List α}
    (h : ∀ i < n, read i = some (block i)) : reassemble read n = some ((List.range n).flatMap block) := by
  unfold reassemble
  rw [mapM_eq_some_map fun i hi => h i (List.mem_range.mp hi), Option.map_some, List.flatMap_def]

theorem isSome_reassemble {read : Nat → Option (List α)} {n : Nat} :
    (reassemble read n).isSome ↔ ∀ i < n, (read i).isSome := by
  unfold reassemble
  rw [Option.isSome_map, isSome_mapM]
  simp only [List.mem_range]

/-- The part from `lo` up to `hi`. -/
def slice (l : List α) (lo hi : Nat) : List α := (l.take hi).drop lo

theorem slice_append (l : List α) {a b c : Nat} (hab : a ≤ b) (hbc : b ≤ c) :
    slice l a b ++ slice l b c = slice l a c := by
  have hcut : l.take c = l.take b ++ (l.take c).drop b := by
    conv_lhs => rw [← List.take_append_drop b (l.take c)]
    rw [List.take_take, Nat.min_eq_left hbc]
  unfold slice
  by_cases hlen : b ≤ l.length
  · have hb : a ≤ (l.take b).length := by
      rw [List.length_take]
      omega
    conv_rhs => rw [hcut, List.drop_append_of_le_length hb]
  have hall : ∀ n, b ≤ n → l.take n = l := fun n hn => List.take_of_length_le (by omega)
  rw [hall b le_rfl, hall c hbc, List.drop_of_length_le (by omega : l.length ≤ b), List.append_nil]

theorem slice_slice (l : List α) (a b lo hi : Nat) : slice (slice l a b) lo hi = slice l (a + lo) (min (a + hi) b) := by
  unfold slice
  rw [List.take_drop, List.drop_drop, List.take_take]

theorem slice_to_length (l : List α) (a b lo : Nat) :
    slice (slice l a b) lo (slice l a b).length = slice l (a + lo) b := by
  unfold slice
  rw [List.take_length, List.drop_drop]

theorem flatMap_slice (l : List α) {cut : Nat → Nat} (hcut : ∀ i, cut i ≤ cut (i + 1)) (a k : Nat) :
    (List.range' a k).flatMap (fun i => slice l (cut i) (cut (i + 1))) = slice l (cut a) (cut (a + k)) := by
  induction k with
  | zero =>
    unfold slice
    rw [List.range'_zero, List.flatMap_nil, Nat.add_zero, List.drop_eq_nil_of_le (List.length_take_le _ _)]
  | succ k ih =>
    have hle : cut a ≤ cut (a + k) := monotone_nat_of_le_succ hcut (Nat.le_add_right a k)
    rw [List.range'_concat, List.flatMap_append, ih, Nat.one_mul, List.flatMap_singleton]
    exact slice_append l hle (hcut (a + k))

theorem flatMap_slice_all (l : List α) {size n : Nat} (h : l.length ≤ n * size) :
    (List.range n).flatMap (fun i => slice l (i * size) ((i + 1) * size)) = l := by
  have hmono (i : Nat) : i * size ≤ (i + 1) * size := Nat.mul_le_mul_right _ (Nat.le_succ i)
  have hslices := flatMap_slice l hmono 0 n
  rw [slice, Nat.zero_add, List.take_of_length_le h, Nat.zero_mul, List.drop_zero] at hslices
  rw [List.range_eq_range']
  exact hslices

/-- `n` blocks of `size` each; the last one may be shorter. -/
def recut (size : Nat) : Nat → List α → List (List α)
  | 0, _ => []
  | n + 1, l => l.take size :: recut size n (l.drop size)

end NexusGrid.Lib

import Mathlib.Data.List.Infix

/-! # Files written by appending

A file is written block by block.
-/

namespace NexusGrid.Lib

variable {α β : Type}

/-- The part from the last element with `p` on; all of it when there is none. -/
def fromLast (p : α → Bool) : List α → List α
  | [] => []
  | x :: xs => if xs.any p then fromLast p xs else x :: xs

/-- The elements up to and including the first `x`. -/
def upTo [DecidableEq α] (x : α) (xs : List α) : List α := xs.takeWhile (· ≠ x) ++ [x]

theorem fromLast_sublist (p : α → Bool) (xs : List α) : (fromLast p xs).Sublist xs := by
  induction xs with
  | nil => exact List.Sublist.slnil
  | cons x xs ih =>
    rw [fromLast]
    split_ifs
    · exact ih.cons x
    · exact .refl _

theorem mem_upTo [DecidableEq α] {x y : α} {xs : List α} (h : y ∈ upTo x xs) (hx : x ∈ xs) : y ∈ xs := by
  rcases List.mem_append.mp h with h | h
  · exact (List.takeWhile_sublist _).subset h
  rw [List.mem_singleton.mp h]
  exact hx

theorem upTo_cons_self [DecidableEq α] (x : α) (xs : List α) : upTo x (x :: xs) = [x] := by
  simp [upTo]

theorem upTo_cons_ne [DecidableEq α] {x y : α} (h : y ≠ x) (xs : List α) : upTo x (y :: xs) = y :: upTo x xs := by
  simp [upTo, h]

/-- Write the blocks one after the other; `none` is a file that does not exist. -/
def replay (truncates : α → Bool) (block : α → List β) (file : Option (List β)) (xs : List α) : Option (List β) :=
  xs.foldl (fun file x => some (if truncates x then block x else file.getD [] ++ block x)) file

section Replay

variable (truncates : α → Bool) (block : α → List β)

theorem replay_cons (file : Option (List β)) (x : α) (xs : List α) :
    replay truncates block file (x :: xs) = replay truncates block
      (some (if truncates x then block x else file.getD [] ++ block x)) xs := rfl

theorem replay_congr {block' : α → List β} {xs : List α} (h : ∀ x ∈ xs, block x = block' x) (file : Option (List β)) :
    replay truncates block file xs = replay truncates block' file xs := by
  induction xs generalizing file with
  | nil => rfl
  | cons x xs ih =>
    rw [replay_cons, replay_cons, h x (.head _), ih fun y hy => h y (List.mem_cons_of_mem x hy)]

theorem replay_of_not_any (content : List β) (xs : List α) (h : xs.any truncates = false) :
    replay truncates block (some content) xs = some (content ++ xs.flatMap block) := by
  induction xs generalizing content with
  | nil => simp [replay]
  | cons x xs ih =>
    simp only [List.any_cons, Bool.or_eq_false_iff] at h
    rw [replay_cons, h.1, if_neg Bool.false_ne_true, Option.getD_some, ih _ h.2, List.flatMap_cons, List.append_assoc]

theorem replay_of_any (file : Option (List β)) (xs : List α) (h : xs.any truncates = true) :
    replay truncates block file xs = some ((fromLast truncates xs).flatMap block) := by
  induction xs generalizing file with
  | nil => simp at h
  | cons x xs ih =>
    by_cases hxs : xs.any truncates = true
    · rw [fromLast, if_pos hxs]
      exact ih _ hxs
    have hx : truncates x = true := by simpa [hxs] using h
    rw [replay_cons, if_pos hx, replay_of_not_any truncates block _ xs (by simpa using hxs),
      fromLast, if_neg hxs, List.flatMap_cons]

theorem replay_none (xs : List α) (hne : xs ≠ []) (h : xs.any truncates = false) :
    replay truncates block none xs = some (xs.flatMap block) := by
  have heq : replay truncates block none xs = replay truncates block (some []) xs := by
    cases xs with
    | nil => exact absurd rfl hne
    | cons x xs => rfl
  rw [heq, replay_of_not_any truncates block [] xs h, List.nil_append]

end Replay

/-- `i` ones and a zero. -/
def unary (i : Nat) : List UInt8 := List.replicate i 1 ++ [0]

private theorem unary_append_inj {i j : Nat} {as bs : List UInt8}
    (h : unary i ++ as = unary j ++ bs) : i = j ∧ as = bs := by
  induction i generalizing j with
  | zero =>
    cases j with
    | zero => simpa [unary] using h
    | succ j => simp [unary, List.replicate_succ] at h
  | succ i ih =>
    cases j with
    | zero => simp [unary, List.replicate_succ] at h
    | succ j =>
      have htail : unary i ++ as = unary j ++ bs := by simpa [unary, List.replicate_succ] using h
      obtain ⟨hij, hab⟩ := ih htail
      exact ⟨congrArg Nat.succ hij, hab⟩

theorem flatMap_unary_injective {xs ys : List Nat} (h : xs.flatMap unary = ys.flatMap unary) : xs = ys := by
  induction xs generalizing ys with
  | nil =>
    cases ys with
    | nil => rfl
    | cons y ys => simp [unary] at h
  | cons x xs ih =>
    cases ys with
    | nil => simp [unary] at h
    | cons y ys =>
      obtain ⟨hxy, hrest⟩ := unary_append_inj h
      rw [hxy, ih hrest]

end NexusGrid.Lib

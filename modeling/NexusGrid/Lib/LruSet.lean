import Mathlib.Data.List.Dedup
import Mathlib.Data.List.Induction

/-! # A bounded set with least-recently-used eviction

`LruSet α cap` holds at most `cap` distinct elements, the most recently touched one first.
-/

namespace NexusGrid.Lib

/-- At most `cap` distinct elements, the most recently touched one first. -/
structure LruSet (α : Type) (cap : Nat) where
  items : List α
  nodup : items.Nodup
  length_le : items.length ≤ cap

namespace LruSet

variable {α : Type} [DecidableEq α] {cap : Nat}

def empty : LruSet α cap := ⟨[], List.nodup_nil, Nat.zero_le cap⟩

def touch (s : LruSet α cap) (a : α) : LruSet α cap where
  items := if a ∈ s.items then a :: s.items.erase a else (a :: s.items).take cap
  nodup := by
    split
    · exact List.nodup_cons.mpr ⟨fun h => (s.nodup.mem_erase_iff.mp h).1 rfl, s.nodup.erase a⟩
    next h => exact (List.nodup_cons.mpr ⟨h, s.nodup⟩).sublist (List.take_sublist _ _)
  length_le := by
    split
    next h =>
      have hlen : (s.items.erase a).length = s.items.length - 1 := List.length_erase_of_mem h
      have hpos : 0 < s.items.length := List.length_pos_of_mem h
      have hle := s.length_le
      rw [List.length_cons, hlen]
      omega
    · exact List.length_take_le _ _

def touchAll (as : List α) : LruSet α cap := as.foldl touch empty

@[simp] theorem touchAll_concat (as : List α) (a : α) :
    (touchAll (as ++ [a]) : LruSet α cap) = (touchAll as).touch a := by
  simp [touchAll]

def recency (as : List α) : List α := as.foldl (fun r a => a :: r.erase a) []

@[simp] theorem recency_concat (as : List α) (a : α) : recency (as ++ [a]) = a :: (recency as).erase a := by
  simp [recency]

theorem mem_recency (as : List α) (a : α) : a ∈ recency as ↔ a ∈ as := by
  induction as using List.reverseRecOn with
  | nil => simp [recency]
  | append_singleton as b ih =>
    rw [recency_concat, List.mem_cons, List.mem_append, List.mem_singleton]
    by_cases hab : a = b
    · simp [hab]
    rw [List.mem_erase_of_ne hab, ih]
    simp [hab]

theorem nodup_recency (as : List α) : (recency as).Nodup := by
  induction as using List.reverseRecOn with
  | nil => simp [recency]
  | append_singleton as b ih =>
    rw [recency_concat, List.nodup_cons]
    exact ⟨fun h => (ih.mem_erase_iff.mp h).1 rfl, ih.erase b⟩

theorem length_recency (as : List α) : (recency as).length = as.dedup.length := by
  refine List.Perm.length_eq ?_
  rw [List.perm_ext_iff_of_nodup (nodup_recency as) as.nodup_dedup]
  intro a
  rw [mem_recency, List.mem_dedup]

theorem recency_append_cons (pre : List α) {post : List α} {a : α} (ha : a ∉ post) :
    ∃ rest, recency (pre ++ a :: post) = recency post ++ a :: rest := by
  induction post using List.reverseRecOn with
  | nil => exact ⟨(recency pre).erase a, by simp [recency]⟩
  | append_singleton post b ih =>
    rw [List.mem_append, List.mem_singleton, not_or] at ha
    obtain ⟨rest, hrest⟩ := ih ha.1
    have hassoc : pre ++ a :: (post ++ [b]) = (pre ++ a :: post) ++ [b] := by simp
    rw [hassoc, recency_concat, hrest, recency_concat]
    by_cases hb : b ∈ recency post
    · exact ⟨rest, by rw [List.erase_append_left _ hb, List.cons_append]⟩
    refine ⟨rest.erase b, ?_⟩
    have hba : ¬(a == b) = true := by simpa using ha.2
    rw [List.erase_append_right _ hb, List.erase_cons_tail hba, List.erase_of_not_mem hb, List.cons_append]

theorem take_erase_of_mem {l : List α} {a : α} {n : Nat} (h : a ∈ l.take (n + 1)) :
    (l.erase a).take n = (l.take (n + 1)).erase a := by
  induction l generalizing n with
  | nil => simp at h
  | cons b l ih =>
    rw [List.take_succ_cons] at h ⊢
    by_cases hba : b = a
    · rw [hba, List.erase_cons_head, List.erase_cons_head]
    have hne : ¬(b == a) = true := by simpa using hba
    have hmem : a ∈ l.take n := by simpa [Ne.symm hba] using h
    rw [List.erase_cons_tail hne, List.erase_cons_tail hne]
    cases n with
    | zero => simp at hmem
    | succ n => rw [List.take_succ_cons, ih hmem]

theorem take_erase_of_not_mem {l : List α} {a : α} {n : Nat} (h : a ∉ l.take n) : (l.erase a).take n = l.take n := by
  induction l generalizing n with
  | nil => rfl
  | cons b l ih =>
    cases n with
    | zero => rfl
    | succ n =>
      rw [List.take_succ_cons, List.mem_cons, not_or] at h
      have hne : ¬(b == a) = true := by simpa using Ne.symm h.1
      rw [List.erase_cons_tail hne, List.take_succ_cons, List.take_succ_cons, ih h.2]

theorem items_touchAll (as : List α) : (touchAll as : LruSet α cap).items = (recency as).take cap := by
  induction as using List.reverseRecOn with
  | nil => simp [touchAll, empty, recency]
  | append_singleton as a ih =>
    rw [touchAll_concat, recency_concat]
    unfold touch
    dsimp only
    rw [ih]
    cases cap with
    | zero => simp
    | succ n =>
      rw [List.take_succ_cons, List.take_succ_cons]
      split
      next hmem => rw [take_erase_of_mem hmem]
      next hmem =>
        have hmem' : a ∉ (recency as).take n := fun h => hmem (List.take_subset_take_left _ (Nat.le_succ n) h)
        rw [take_erase_of_not_mem hmem', List.take_take, Nat.min_eq_left (Nat.le_succ n)]

/-- Fewer than `cap` other elements were touched since `a` was touched last. -/
def Recent (cap : Nat) (as : List α) (a : α) : Prop :=
  ∃ pre post, as = pre ++ a :: post ∧ a ∉ post ∧ post.dedup.length < cap

omit [DecidableEq α] in
theorem exists_last_occurrence {as : List α} {a : α} (h : a ∈ as) : ∃ pre post, as = pre ++ a :: post ∧ a ∉ post := by
  obtain ⟨l, r, hsplit, hl⟩ := List.eq_append_cons_of_mem (List.mem_reverse.mpr h)
  refine ⟨r.reverse, l.reverse, ?_, by simpa using hl⟩
  rw [← List.reverse_reverse as, hsplit]
  simp

/-- **The set holds exactly the recent elements.** -/
theorem mem_touchAll (as : List α) (a : α) : a ∈ (touchAll as : LruSet α cap).items ↔ Recent cap as a := by
  rw [items_touchAll]
  constructor
  · intro h
    have ha : a ∈ as := (mem_recency as a).mp (List.mem_of_mem_take h)
    obtain ⟨pre, post, rfl, hpost⟩ := exists_last_occurrence ha
    refine ⟨pre, post, rfl, hpost, ?_⟩
    rw [← length_recency]
    -- otherwise the later elements alone fill the set, and `a` is not one of them
    by_contra hle
    obtain ⟨rest, hrest⟩ := recency_append_cons pre hpost
    rw [hrest, List.take_append_of_le_length (by omega)] at h
    exact hpost ((mem_recency post a).mp (List.mem_of_mem_take h))
  · rintro ⟨pre, post, rfl, ha, hlt⟩
    obtain ⟨rest, hrest⟩ := recency_append_cons pre ha
    rw [← length_recency] at hlt
    rw [hrest, List.take_append]
    obtain ⟨k, hk⟩ : ∃ k, cap - (recency post).length = k + 1 := ⟨cap - (recency post).length - 1, by omega⟩
    rw [hk, List.take_succ_cons]
    simp

end LruSet

end NexusGrid.Lib

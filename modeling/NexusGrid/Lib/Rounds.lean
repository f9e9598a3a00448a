import Mathlib.Data.Finset.Max
import Mathlib.Order.Lattice.Nat

/-! # Working off dependencies in rounds

A plan is a finite set of items, each with the items it depends on. In a round every item is finished whose
dependencies were finished before it (`next`). All items get finished exactly if the dependencies can be ranked.
-/

namespace NexusGrid.Lib

structure Plan (α : Type*) where
  items : Finset α
  deps : α → Finset α

namespace Plan

variable {α : Type*} [DecidableEq α] (P : Plan α)

def next (done : Finset α) : Finset α := P.items.filter fun a => a ∈ done ∨ P.deps a ⊆ done

def Ranked (rank : α → ℕ) : Prop := ∀ a ∈ P.items, ∀ b ∈ P.deps a, b ∈ P.items ∧ rank b < rank a

variable {P}

theorem next_subset (done : Finset α) : P.next done ⊆ P.items := Finset.filter_subset _ _

theorem subset_next {done : Finset α} (h : done ⊆ P.items) : done ⊆ P.next done := by
  intro a ha
  exact Finset.mem_filter.mpr ⟨h ha, .inl ha⟩

theorem exists_ready {rank : α → ℕ} (hrank : P.Ranked rank) {done : Finset α} (hne : ¬ P.items ⊆ done) :
    ∃ a ∈ P.items, a ∉ done ∧ P.deps a ⊆ done := by
  have hleft : (P.items \ done).Nonempty := Finset.sdiff_nonempty.mpr hne
  obtain ⟨a, ha, hmin⟩ := Finset.exists_min_image (P.items \ done) rank hleft
  obtain ⟨hitem, hnot⟩ := Finset.mem_sdiff.mp ha
  refine ⟨a, hitem, hnot, ?_⟩
  intro b hb
  obtain ⟨hbitem, hlt⟩ := hrank a hitem b hb
  by_contra hbnot
  have hle := hmin b (Finset.mem_sdiff.mpr ⟨hbitem, hbnot⟩)
  omega

theorem card_lt_card_next {rank : α → ℕ} (hrank : P.Ranked rank) {done : Finset α} (hdone : done ⊆ P.items)
    (hne : ¬ P.items ⊆ done) : done.card < (P.next done).card := by
  obtain ⟨a, hitem, hnot, hready⟩ := exists_ready hrank hne
  have hmem : a ∈ P.next done := Finset.mem_filter.mpr ⟨hitem, .inr hready⟩
  apply Finset.card_lt_card
  exact ⟨subset_next hdone, fun hsub => hnot (hsub hmem)⟩

theorem next_items : P.next P.items = P.items :=
  Finset.Subset.antisymm (next_subset _) (subset_next (Finset.Subset.refl _))

theorem iterate_next_subset (k : ℕ) : P.next^[k] ∅ ⊆ P.items := by
  cases k with
  | zero => exact Finset.empty_subset _
  | succ k =>
    rw [Function.iterate_succ_apply']
    exact next_subset _

theorem iterate_next_card {rank : α → ℕ} (hrank : P.Ranked rank) (k : ℕ) :
    P.next^[k] ∅ = P.items ∨ k ≤ (P.next^[k] ∅).card := by
  induction k with
  | zero => exact .inr (Nat.zero_le _)
  | succ k ih =>
    rw [Function.iterate_succ_apply']
    rcases ih with hall | hcard
    · left
      rw [hall, next_items]
    by_cases hsub : P.items ⊆ P.next^[k] ∅
    · left
      rw [Finset.Subset.antisymm (iterate_next_subset k) hsub, next_items]
    right
    have hlt := card_lt_card_next hrank (iterate_next_subset k) hsub
    omega

/-- **All is finished** after as many rounds as there are items. -/
theorem iterate_next_eq_items {rank : α → ℕ} (hrank : P.Ranked rank) {k : ℕ} (hk : P.items.card ≤ k) :
    P.next^[k] ∅ = P.items := by
  rcases iterate_next_card hrank k with hall | hcard
  · exact hall
  · exact Finset.eq_of_subset_of_card_le (iterate_next_subset k) (by omega)

/-- What is finished in the end can be ranked, by the round in which it is. -/
theorem exists_ranked (hdeps : ∀ a ∈ P.items, P.deps a ⊆ P.items) {k : ℕ} (h : P.next^[k] ∅ = P.items) :
    ∃ rank, P.Ranked rank := by
  have hdone (a : α) (ha : a ∈ P.items) : {j | a ∈ P.next^[j] ∅}.Nonempty := ⟨k, by simpa [h] using ha⟩
  refine ⟨fun a => sInf {j | a ∈ P.next^[j] ∅}, fun a ha b hb => ⟨hdeps a ha hb, ?_⟩⟩
  have hround : a ∈ P.next^[sInf {j | a ∈ P.next^[j] ∅}] ∅ := Nat.sInf_mem (hdone a ha)
  cases hj : sInf {j | a ∈ P.next^[j] ∅} with
  | zero =>
    rw [hj] at hround
    exact absurd hround (Finset.notMem_empty a)
  | succ j =>
    rw [hj, Function.iterate_succ_apply'] at hround
    rcases (Finset.mem_filter.mp hround).2 with hearlier | hready
    · have hle : sInf {j | a ∈ P.next^[j] ∅} ≤ j := Nat.sInf_le hearlier
      omega
    · have hle : sInf {j | b ∈ P.next^[j] ∅} ≤ j := Nat.sInf_le (hready hb)
      show sInf {j | b ∈ P.next^[j] ∅} < sInf {j | a ∈ P.next^[j] ∅}
      omega

end Plan

end NexusGrid.Lib

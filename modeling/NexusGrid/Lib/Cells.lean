import NexusGrid.Lib.Run
import NexusGrid.Lib.Table

/-! # Actions on a family of cells

A state gives every cell a value.
-/

namespace NexusGrid.Lib

abbrev Action (ι : Type) (α : ι → Type) := (∀ i, α i) → (i : ι) → α i → α i

namespace Action

variable {ι : Type} {α : ι → Type} {a b : Action ι α}

def act (a : Action ι α) (s : ∀ i, α i) : ∀ i, α i := fun i => a s i (s i)

/-- What `a` does is the same before and after `b`. -/
def Blind (a b : Action ι α) : Prop := ∀ s, a (b.act s) = a s

/-- **Two actions commute** when neither sees the other and they commute on each cell. -/
theorem act_comm (hab : a.Blind b) (hba : b.Blind a) (hcell : ∀ s i x, a s i (b s i x) = b s i (a s i x))
    (s : ∀ i, α i) : a.act (b.act s) = b.act (a.act s) := by
  funext i
  calc a.act (b.act s) i
      _ = a s i (b s i (s i)) := by rw [act, hab s, act]
      _ = b s i (a s i (s i)) := hcell s i (s i)
      _ = b.act (a.act s) i := by rw [act, hba s, act]

end Action

def when {α : Type} (P : Prop) [Decidable P] (f : α → α) (x : α) : α := if P then f x else x

section When

variable {α : Type} {P Q : Prop} [Decidable P] [Decidable Q] {f g : α → α} {x : α}

@[simp] theorem when_pos (h : P) : when P f x = f x := if_pos h

@[simp] theorem when_neg (h : ¬ P) : when P f x = x := if_neg h

theorem when_comm (h : P → Q → f (g x) = g (f x)) : when P f (when Q g x) = when Q g (when P f x) := by
  by_cases hP : P
  · by_cases hQ : Q
    · rw [when_pos hP, when_pos hQ, when_pos hP, when_pos hQ, h hP hQ]
    · rw [when_pos hP, when_neg hQ, when_neg hQ, when_pos hP]
  · rw [when_neg hP, when_neg hP]

theorem when_self (h : P → f x = x) : when P f x = x := by
  by_cases hP : P
  · rw [when_pos hP, h hP]
  · exact when_neg hP

end When

section Rows

variable {κ ρ ν : Type} [DecidableEq κ] {t : Table κ ρ} {k k' : κ} {r : ρ} {P : Prop} [Decidable P]

theorem map_get_put_when {col : ρ → ν} {f : Option ν → Option ν} (hP : P ↔ k' = k)
    (hf : f ((t.get k).map col) = some (col r)) : ((t.put k r).get k').map col = when P f ((t.get k').map col) := by
  rw [Table.get_put]
  by_cases hk : k' = k
  · rw [if_pos hk, when_pos (hP.mpr hk), hk, hf]
    rfl
  · rw [if_neg hk, when_neg fun h => hk (hP.mp h)]

theorem get_put_when {f : Option ρ → Option ρ} (hP : P ↔ k' = k) (hf : f (t.get k) = some r) :
    (t.put k r).get k' = when P f (t.get k') := by
  have hcol : ((t.put k r).get k').map id = when P f ((t.get k').map id) := map_get_put_when hP (by rwa [Option.map_id])
  rwa [Option.map_id] at hcol

end Rows

def Commutes {σ ε : Type} (step : σ → ε → σ) (x y : ε) : Prop := ∀ s, step (step s x) y = step (step s y) x

instance Commutes.instSymm {σ ε : Type} (step : σ → ε → σ) : Std.Symm (Commutes step) where
  symm _ _ h s := (h s).symm

/-- **Events that commute pairwise** may be taken in any order. -/
theorem run_perm {σ ε : Type} {step : σ → ε → σ} {xs ys : List ε} (hperm : xs.Perm ys)
    (hcomm : xs.Pairwise (Commutes step)) (s : σ) : run step s xs = run step s ys := by
  have hall : ∀ x ∈ xs, ∀ y ∈ xs, Commutes step x y := by
    intro x hx y hy
    -- an event commutes with itself
    exact List.Pairwise.forall_of_forall (fun _ _ _ => rfl) hcomm hx hy
  exact hperm.foldl_eq' (fun x hx y hy s => hall x hx y hy s) s

end NexusGrid.Lib

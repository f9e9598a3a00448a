import Mathlib.Data.List.DropRight
import Mathlib.Data.List.Sort

/-! # A bounded table of first claims

A claim of a key that the table holds is refused; any other claim is entered.
-/

namespace NexusGrid.Lib

/-- A claim of `key`, made for `owner` at `time`. -/
structure Claim (κ α τ : Type) where
  key : κ
  owner : α
  time : τ
deriving DecidableEq

structure ClaimTable (κ α τ : Type) (cap : Nat) where
  entries : List (Claim κ α τ)
  nodup : (entries.map Claim.key).Nodup

namespace ClaimTable

variable {κ α τ : Type} [DecidableEq κ] [LinearOrder τ] {cap : Nat}

def empty : ClaimTable κ α τ cap := ⟨[], List.nodup_nil⟩

/-- The `n` entries with the smallest times; the sort is stable. -/
def oldest (n : Nat) (es : List (Claim κ α τ)) : List (Claim κ α τ) :=
  (es.insertionSort fun a b => a.time ≤ b.time).take n

/-- The entries without the `n` oldest. -/
def evict (n : Nat) (es : List (Claim κ α τ)) : List (Claim κ α τ) :=
  es.filter fun e => e.key ∉ (oldest n es).map Claim.key

/-- Enter a claim; `none` when it is refused. -/
def claim (t : ClaimTable κ α τ cap) (c : Claim κ α τ) : Option (ClaimTable κ α τ cap) :=
  if h : c.key ∈ t.entries.map Claim.key then none
  else
    let entries := t.entries ++ [c]
    have hnodup : (entries.map Claim.key).Nodup := by
      rw [List.map_append, List.nodup_append']
      exact ⟨t.nodup, by simp, by simpa using h⟩
    if cap < entries.length then
      some ⟨evict (entries.length - cap) entries, hnodup.sublist (List.filter_sublist.map _)⟩
    else some ⟨entries, hnodup⟩

def claimAll (cs : List (Claim κ α τ)) : ClaimTable κ α τ cap × List (Claim κ α τ) :=
  cs.foldl (fun s c => match s.1.claim c with
    | some t => (t, s.2 ++ [c])
    | none => s) (empty, [])

variable (cap) in
def granted (cs : List (Claim κ α τ)) : List (Claim κ α τ) := (claimAll cs : ClaimTable κ α τ cap × _).2

/-- The keys of the last `cap` claims of `log`. -/
def recentKeys (cap : Nat) (log : List (Claim κ α τ)) : List κ := (log.rtake cap).map Claim.key

omit [LinearOrder τ] in
theorem filter_key_notMem_take {es : List (Claim κ α τ)} (h : (es.map Claim.key).Nodup) (n : Nat) :
    es.filter (fun e => e.key ∉ (es.take n).map Claim.key) = es.drop n := by
  induction es generalizing n with
  | nil => simp
  | cons e es ih =>
    cases n with
    | zero => simp
    | succ n =>
      have hnd := List.nodup_cons.mp (List.map_cons ▸ h)
      -- the head goes; no entry after it has its key
      have htail : ∀ x ∈ es, x.key ≠ e.key := by
        intro x hx heq
        exact hnd.1 (heq ▸ List.mem_map_of_mem hx)
      rw [List.take_succ_cons, List.drop_succ_cons, List.filter_cons_of_neg (by simp), ← ih hnd.2 n]
      apply List.filter_congr
      intro x hx
      simp [htail x hx]

theorem evict_eq_drop {es : List (Claim κ α τ)} (hnodup : (es.map Claim.key).Nodup)
    (hclock : es.Pairwise fun a b => a.time ≤ b.time) (n : Nat) : evict n es = es.drop n := by
  have hsort : (es.insertionSort fun a b => a.time ≤ b.time) = es := hclock.insertionSort_eq
  rw [evict, oldest, hsort]
  exact filter_key_notMem_take hnodup n

theorem claim_eq_none_iff {t : ClaimTable κ α τ cap} {c : Claim κ α τ} :
    t.claim c = none ↔ c.key ∈ t.entries.map Claim.key := by
  rw [claim]
  split
  next h => exact iff_of_true rfl h
  next h =>
    refine iff_of_false ?_ h
    dsimp only
    split <;> simp

theorem entries_of_claim {t t' : ClaimTable κ α τ cap} {c : Claim κ α τ}
    (hclock : (t.entries ++ [c]).Pairwise fun a b => a.time ≤ b.time) (h : t.claim c = some t') :
    t'.entries = (t.entries ++ [c]).rtake cap := by
  rw [claim] at h
  split at h
  · cases h
  next hkey =>
    have hnodup : ((t.entries ++ [c]).map Claim.key).Nodup := by
      rw [List.map_append, List.nodup_append']
      exact ⟨t.nodup, by simp, by simpa using hkey⟩
    dsimp only at h
    split at h
    · cases h
      exact evict_eq_drop hnodup hclock _
    next hlen =>
      cases h
      have hdrop : (t.entries ++ [c]).length - cap = 0 := by omega
      simp only [List.rtake, hdrop, List.drop_zero]

theorem rtake_concat_rtake {β : Type} (l : List β) (x : β) (n : Nat) :
    (l.rtake n ++ [x]).rtake n = (l ++ [x]).rtake n := by
  cases n with
  | zero => simp [List.rtake]
  | succ n =>
    rw [List.rtake_concat_succ, List.rtake_concat_succ]
    simp only [List.rtake, List.drop_drop, List.length_drop]
    congr 2
    omega

@[simp] theorem claimAll_nil : (claimAll [] : ClaimTable κ α τ cap × List (Claim κ α τ)) = (empty, []) := rfl

theorem claimAll_concat (cs : List (Claim κ α τ)) (c : Claim κ α τ) :
    (claimAll (cs ++ [c]) : ClaimTable κ α τ cap × List (Claim κ α τ)) =
      match (claimAll cs : ClaimTable κ α τ cap × List (Claim κ α τ)).1.claim c with
      | some t => (t, granted cap cs ++ [c])
      | none => claimAll cs := by
  rw [claimAll, List.foldl_append]
  rfl

theorem granted_sublist (cs : List (Claim κ α τ)) : (granted cap cs).Sublist cs := by
  induction cs using List.reverseRecOn with
  | nil => exact List.Sublist.slnil
  | append_singleton cs c ih =>
    rw [granted, claimAll_concat]
    split
    · exact ih.append (.refl [c])
    · exact ih.trans (List.sublist_append_left cs [c])

/-- **The table holds the last `cap` granted claims.** -/
theorem entries_claimAll {cs : List (Claim κ α τ)} (hclock : cs.Pairwise fun a b => a.time ≤ b.time) :
    (claimAll cs : ClaimTable κ α τ cap × List (Claim κ α τ)).1.entries = (granted cap cs).rtake cap := by
  induction cs using List.reverseRecOn with
  | nil => simp [granted, empty]
  | append_singleton cs c ih =>
    have hentries := ih (List.pairwise_append.mp hclock).1
    cases hclaim : (claimAll cs : ClaimTable κ α τ cap × List (Claim κ α τ)).1.claim c with
    | none => rw [granted, claimAll_concat, hclaim]; exact hentries
    | some t =>
      -- the entries and the new claim are in the order of the clock, as a part of `cs ++ [c]`
      have hsub : ((claimAll cs : ClaimTable κ α τ cap × List (Claim κ α τ)).1.entries ++ [c]).Sublist
          (cs ++ [c]) := by
        rw [hentries]
        exact ((List.drop_sublist _ _).trans (granted_sublist cs)).append (.refl [c])
      rw [granted, claimAll_concat, hclaim]
      rw [entries_of_claim (hclock.sublist hsub) hclaim, hentries]
      exact rtake_concat_rtake _ _ _

/-- **When a claim is granted**: none of the last `cap` granted ones has its key. -/
theorem granted_concat {cs : List (Claim κ α τ)} {c : Claim κ α τ} (hclock : cs.Pairwise fun a b => a.time ≤ b.time) :
    granted cap (cs ++ [c]) = if c.key ∈ recentKeys cap (granted cap cs) then granted cap cs
      else granted cap cs ++ [c] := by
  have hkey := claim_eq_none_iff (t := (claimAll cs : ClaimTable κ α τ cap × _).1) (c := c)
  rw [entries_claimAll hclock, ← recentKeys] at hkey
  rw [granted, claimAll_concat]
  split
  next t ht => rw [if_neg fun h => Option.some_ne_none t (ht.symm.trans (hkey.mpr h))]
  next hnone => rw [if_pos (hkey.mp hnone)]; rfl

end ClaimTable

end NexusGrid.Lib

import Mathlib.Data.List.AList
import Mathlib.Data.List.Perm.Subperm

/-! # Tables keyed by a primary key

A database table is an association list without duplicate keys (`AList`), so two rows with one primary key cannot be
built.
-/

namespace NexusGrid.Lib

/-- A table with primary key `κ` and rows `ρ`. -/
abbrev Table (κ ρ : Type) := AList (fun _ : κ => ρ)

namespace Table

variable {κ ρ : Type} [DecidableEq κ]

/-- The row with primary key `k`. -/
def get (t : Table κ ρ) (k : κ) : Option ρ := t.lookup k

/-- Store `r` under the primary key `k`. -/
def put (t : Table κ ρ) (k : κ) (r : ρ) : Table κ ρ := t.insert k r

/-- Delete the row with primary key `k`. -/
def delete (t : Table κ ρ) (k : κ) : Table κ ρ := t.erase k

/-- Delete the rows that satisfy `p`. -/
def deleteWhere (t : Table κ ρ) (p : κ → ρ → Bool) : Table κ ρ :=
  ⟨t.entries.filter (fun e => !p e.1 e.2), t.nodupKeys.sublist List.filter_sublist⟩

def mapRows (t : Table κ ρ) (f : κ → ρ → ρ) : Table κ ρ := ⟨t.entries.map (fun e => ⟨e.1, f e.1 e.2⟩), by
    have hkeys : (t.entries.map (fun e => (⟨e.1, f e.1 e.2⟩ : (_ : κ) × ρ))).keys
        = t.entries.keys := by
      simp [List.keys]
    rw [List.NodupKeys, hkeys]
    exact t.nodupKeys⟩

/-- Add a row; `none` when its primary key is taken. -/
def insertNew (t : Table κ ρ) (k : κ) (r : ρ) : Option (Table κ ρ) :=
  match t.get k with
  | none => some (t.put k r)
  | some _ => none

def putAll (t : Table κ ρ) (new : List (κ × ρ)) : Table κ ρ := new.foldl (fun t e => t.put e.1 e.2) t

def rows (t : Table κ ρ) : List (κ × ρ) := t.entries.map (fun e => (e.1, e.2))

@[simp] theorem get_empty (k : κ) : get (∅ : Table κ ρ) k = none := AList.lookup_empty k

theorem get_put (t : Table κ ρ) (k k' : κ) (r : ρ) : (t.put k r).get k' = if k' = k then some r else t.get k' := by
  by_cases h : k' = k
  · subst h
    rw [if_pos rfl]
    exact AList.lookup_insert t
  rw [if_neg h]
  exact AList.lookup_insert_ne h

@[simp] theorem get_put_self (t : Table κ ρ) (k : κ) (r : ρ) : (t.put k r).get k = some r := by
  rw [get_put, if_pos rfl]

variable {k : κ} {r : ρ} {t : Table κ ρ}

theorem get_put_ne (t : Table κ ρ) {k' : κ} (r : ρ) (h : k' ≠ k) : (t.put k r).get k' = t.get k' := by
  rw [get_put, if_neg h]

/-- When a write leaves the keys of a set alone. -/
theorem put_spares_iff (t : Table κ ρ) (k : κ) (r : ρ) (s : κ → Prop) :
    (∀ k', s k' → (t.put k r).get k' = t.get k') ↔ (s k → t.get k = some r) := by
  constructor
  · intro h hk
    rw [← h k hk, get_put_self]
  intro h k' hk'
  by_cases heq : k' = k
  · subst heq
    rw [get_put_self, h hk']
  · exact get_put_ne t r heq

theorem isSome_get_put (h : (t.get k).isSome) (k' : κ) (r : ρ) : ((t.put k' r).get k).isSome := by
  rw [get_put]
  by_cases hk : k = k'
  · rw [if_pos hk]
    rfl
  rw [if_neg hk]
  exact h

theorem map_get_put {β : Type} {r' : ρ} (col : ρ → β) (hr : t.get k = some r) (hcol : col r' = col r) (k' : κ) :
    ((t.put k r').get k').map col = (t.get k').map col := by
  rw [get_put]
  by_cases h : k' = k
  · subst h
    rw [if_pos rfl, hr, Option.map_some, Option.map_some, hcol]
  · rw [if_neg h]

theorem insertNew_eq_some {t' : Table κ ρ} : t.insertNew k r = some t' ↔ t.get k = none ∧ t' = t.put k r := by
  unfold insertNew
  cases t.get k with
  | none => simp [eq_comm]
  | some _ => simp

theorem get_insertNew_ne {t' : Table κ ρ} {k' : κ} (h : t.insertNew k r = some t')
    (hk : k' ≠ k) : t'.get k' = t.get k' := by
  obtain ⟨-, rfl⟩ := insertNew_eq_some.mp h
  exact get_put_ne t r hk

theorem get_delete (t : Table κ ρ) (k k' : κ) : (t.delete k).get k' = if k' = k then none else t.get k' := by
  by_cases h : k' = k
  · subst h
    rw [if_pos rfl]
    exact AList.lookup_erase k' t
  rw [if_neg h]
  exact AList.lookup_erase_ne h

theorem mem_rows (t : Table κ ρ) (k : κ) (r : ρ) : (k, r) ∈ t.rows ↔ t.get k = some r := by
  unfold rows get
  rw [← Option.mem_def, AList.mem_lookup_iff, List.mem_map]
  constructor
  · rintro ⟨e, he, heq⟩
    cases heq
    exact he
  intro h
  exact ⟨⟨k, r⟩, h, rfl⟩

theorem get_deleteWhere (t : Table κ ρ) (p : κ → ρ → Bool) (k : κ) :
    (t.deleteWhere p).get k = (t.get k).filter (fun r => !p k r) := by
  ext r
  rw [← mem_rows, Option.filter_eq_some_iff, ← mem_rows]
  simp only [rows, deleteWhere, List.mem_map, List.mem_filter]
  constructor
  · rintro ⟨e, ⟨he, hp⟩, heq⟩
    cases heq
    exact ⟨⟨e, he, rfl⟩, hp⟩
  rintro ⟨⟨e, he, heq⟩, hp⟩
  cases heq
  exact ⟨e, ⟨he, hp⟩, rfl⟩

theorem rows_put_of_new (hk : t.get k = none) (r : ρ) : (t.put k r).rows = (k, r) :: t.rows := by
  unfold rows put
  rw [AList.entries_insert_of_notMem (AList.lookup_eq_none.mp hk), List.map_cons]

theorem countP_rows_put (hk : t.get k = none) (r : ρ) (q : κ × ρ → Bool) :
    (t.put k r).rows.countP q = t.rows.countP q + if q (k, r) then 1 else 0 := by
  rw [rows_put_of_new hk, List.countP_cons]

theorem get_mapRows (t : Table κ ρ) (f : κ → ρ → ρ) (k : κ) : (t.mapRows f).get k = (t.get k).map (f k) := by
  ext r
  rw [← mem_rows, Option.map_eq_some_iff]
  simp only [← mem_rows, rows, mapRows, List.mem_map]
  constructor
  · rintro ⟨e', ⟨e, he, rfl⟩, heq⟩
    cases heq
    exact ⟨e.2, ⟨e, he, rfl⟩, rfl⟩
  rintro ⟨r', ⟨e, he, heq⟩, rfl⟩
  cases heq
  exact ⟨_, ⟨e, he, rfl⟩, rfl⟩

theorem get_putAll {new : List (κ × ρ)} (h : (t.putAll new).get k = some r) : t.get k = some r ∨ (k, r) ∈ new := by
  induction new generalizing t with
  | nil => exact .inl h
  | cons e new ih =>
    rcases ih h with hget | hmem
    · rw [get_put] at hget
      by_cases hk : k = e.1
      · rw [if_pos hk] at hget
        have hrow : e = (k, r) := Prod.ext hk.symm (Option.some.inj hget)
        exact .inr (hrow ▸ (.head _))
      rw [if_neg hk] at hget
      exact .inl hget
    · exact .inr (List.mem_cons_of_mem e hmem)

theorem get_putAll_const (t : Table κ ρ) (ks : List κ) (r : ρ) (k : κ) :
    (t.putAll (ks.map fun k => (k, r))).get k = if k ∈ ks then some r else t.get k := by
  induction ks generalizing t with
  | nil => simp [putAll]
  | cons k' ks ih =>
    refine (ih (t.put k' r)).trans ?_
    by_cases hmem : k ∈ ks
    · rw [if_pos hmem, if_pos (List.mem_cons_of_mem k' hmem)]
    rw [if_neg hmem, get_put]
    simp only [List.mem_cons, hmem, or_false]

theorem isSome_get_putAll (new : List (κ × ρ)) (h : (t.get k).isSome) : ((t.putAll new).get k).isSome := by
  induction new generalizing t with
  | nil => exact h
  | cons e new ih => exact ih (isSome_get_put h e.1 e.2)

theorem isSome_get_putAll_of_mem {new : List (κ × ρ)} {e : κ × ρ} (he : e ∈ new) : ((t.putAll new).get e.1).isSome := by
  induction new generalizing t with
  | nil => cases he
  | cons e' new ih =>
    rcases List.mem_cons.mp he with rfl | hmem
    · refine isSome_get_putAll new ?_
      rw [get_put_self]
      rfl
    · exact ih hmem

omit [DecidableEq κ] in
theorem nodup_rows_keys (t : Table κ ρ) : (t.rows.map Prod.fst).Nodup := by
  have hkeys : t.rows.map Prod.fst = t.entries.keys := by simp [rows, List.keys]
  rw [hkeys]
  exact t.nodupKeys

omit [DecidableEq κ] in
theorem nodup_filter_keys (t : Table κ ρ) (q : κ × ρ → Bool) : ((t.rows.filter q).map Prod.fst).Nodup :=
  (nodup_rows_keys t).sublist (List.filter_sublist.map Prod.fst)

/-- As many rows as keys: every key has its row, and none is asked for twice. -/
theorem perm_of_length_eq (t : Table κ ρ) (ks : List κ) (h : (t.rows.filter (fun e => e.1 ∈ ks)).length = ks.length) :
    ((t.rows.filter (fun e => e.1 ∈ ks)).map Prod.fst).Perm ks := by
  have hsub : (t.rows.filter (fun e => e.1 ∈ ks)).map Prod.fst ⊆ ks := by
    intro k' hk'
    obtain ⟨e, he, rfl⟩ := List.mem_map.mp hk'
    exact of_decide_eq_true (List.mem_filter.mp he).2
  refine ((nodup_filter_keys t _).subperm hsub).perm_of_length_le ?_
  rw [List.length_map, h]

end Table

end NexusGrid.Lib

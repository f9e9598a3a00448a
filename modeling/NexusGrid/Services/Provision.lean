import NexusGrid.Lib.Run

/-! # The database of a grant

`provision_for_grant` and `revoke_grant` set a password in the database engine and in a row, with
awaits in between. A `DbGrant` is the state that the calls for one grant share, `advance` what one call
does between two awaits, and `step` lets any call that runs go on.
-/

namespace NexusGrid.Services

open Lib

/-- Where a call for the grant is between two awaits. -/
inductive DbCall
  | create
  | recheck (password : String)
  | add (password : String)
  | deprovision
  | drop
  | delete
deriving DecidableEq

/-- The call is one of a revocation, which deletes the row that it finds. -/
def DbCall.drops : DbCall → Bool
  | .deprovision | .drop | .delete => true
  | _ => false

/-- The grant, its row, the password in the engine, and the calls that run. -/
structure DbGrant where
  revoked : Bool := false
  row : Option String := none
  engine : Option String := none
  calls : List DbCall := []
deriving DecidableEq

inductive DbEvent
  | provision
  | revoke
  /-- The engine draws `password` and may fail. -/
  | resume (i : Nat) (password : String) (works : Bool)
deriving DecidableEq

namespace DbGrant

/-- What a call does next, and where it is then; `none` when it has returned or raised. -/
def advance (s : DbGrant) (password : String) (works : Bool) : DbCall → DbGrant × Option DbCall
  | .create => if works then ({ s with engine := some password }, some (.recheck password)) else (s, none)
  | .recheck pw => (s, if s.row.isSome then none else some (.add pw))
  -- the primary key of a row that is there by now raises
  | .add pw => (if s.row.isSome then s else { s with row := some pw }, none)
  | .deprovision => (s, if s.row.isNone then none else some .drop)
  | .drop => (if works then { s with engine := none } else s, some .delete)
  | .delete => ({ s with row := none }, none)

def step (s : DbGrant) : DbEvent → DbGrant
  | .provision => if s.revoked ∨ s.row.isSome then s else { s with calls := s.calls ++ [.create] }
  | .revoke => { s with revoked := true, calls := s.calls ++ [.deprovision] }
  | .resume i password works =>
    match s.calls[i]? with
    | none => s
    | some c =>
      let (s', next) := s.advance password works c
      { s' with calls := match next with
        | none => s.calls.eraseIdx i
        | some c' => s.calls.set i c' }

/-- A revoked grant has no row, and the row of another has the engine's password. -/
def Consistent (s : DbGrant) : Prop := if s.revoked then s.row = none else ∀ pw, s.row = some pw → s.engine = some pw

/-! ## Calls that may overlap

Calls may start at any time. What must not happen is that the engine gets another password under a
stored row, and that a row is stored whose password is not the engine's, or that nothing will delete
after a revocation. -/

/-- The checks that `provision_for_grant` leaves out, on the state before the step. -/
def Checked (s : DbGrant) : DbEvent → Prop
  | .resume i _ works =>
    match s.calls[i]? with
    | some .create => works = true → s.revoked = true ∨ s.row = none
    | some (.add pw) => s.row = none →
      if s.revoked then ∃ c ∈ s.calls, c.drops = true else s.engine = some pw
    | _ => True
  | _ => True

instance (s : DbGrant) (e : DbEvent) : Decidable (s.Checked e) := by
  cases e with
  | resume i password works =>
    unfold Checked
    dsimp only
    split <;> infer_instance
  | _ => exact .isTrue trivial

structure Inv (s : DbGrant) : Prop where
  same : s.revoked = false → ∀ pw, s.row = some pw → s.engine = some pw
  dropped : s.revoked = true → s.row = none ∨ ∃ c ∈ s.calls, c.drops = true
  revoked : ∀ c ∈ s.calls, c.drops = true → s.revoked = true

variable {s : DbGrant} {i : Nat} {c : DbCall}

theorem mem_eraseIdx_of_ne {l : List DbCall} {x : DbCall} (hc : l[i]? = some c) (hx : x ∈ l) (hne : x ≠ c) :
    x ∈ l.eraseIdx i := by
  obtain ⟨j, hj⟩ := List.mem_iff_getElem?.mp hx
  refine List.mem_eraseIdx_iff_getElem?.mpr ⟨j, ?_, hj⟩
  rintro rfl
  rw [hc] at hj
  exact hne (Option.some.inj hj).symm

/-- A call that is not one of a revocation returns. -/
theorem Inv.erase (h : s.Inv) (hc : s.calls[i]? = some c) (hdrops : c.drops = false) :
    ({ s with calls := s.calls.eraseIdx i } : DbGrant).Inv := by
  refine ⟨h.same, fun hrev => (h.dropped hrev).imp_right ?_, fun x hx => h.revoked x (List.mem_of_mem_eraseIdx hx)⟩
  rintro ⟨x, hx, hxdrops⟩
  refine ⟨x, mem_eraseIdx_of_ne hc hx ?_, hxdrops⟩
  rintro rfl
  rw [hdrops] at hxdrops
  cases hxdrops

/-- A call goes on, as one of the same kind. -/
theorem Inv.set (h : s.Inv) (hc : s.calls[i]? = some c) {d : DbCall} (hsame : d.drops = c.drops) :
    ({ s with calls := s.calls.set i d } : DbGrant).Inv := by
  have hmem : c ∈ s.calls := List.mem_of_getElem? hc
  obtain ⟨hi, -⟩ := List.getElem?_eq_some_iff.mp hc
  refine ⟨h.same, fun hrev => (h.dropped hrev).imp_right ?_, fun x hx hxdrops => ?_⟩
  · rintro ⟨x, hx, hxdrops⟩
    by_cases hxc : x = c
    · exact ⟨d, List.mem_set hi d, by rw [hsame, ← hxc, hxdrops]⟩
    obtain ⟨j, hj⟩ := List.mem_iff_getElem?.mp hx
    have hij : i ≠ j := by
      rintro rfl
      exact hxc (Option.some.inj (hj.symm.trans hc))
    exact ⟨x, List.mem_iff_getElem?.mpr ⟨j, by rw [List.getElem?_set_ne hij, hj]⟩, hxdrops⟩
  · rcases List.mem_or_eq_of_mem_set hx with hx | rfl
    · exact h.revoked x hx hxdrops
    · exact h.revoked c hmem (hsame ▸ hxdrops)

theorem Inv.resume (h : s.Inv) {password : String} {works : Bool} (hc : s.calls[i]? = some c)
    (hchecked : s.Checked (.resume i password works)) : (s.step (.resume i password works)).Inv := by
  have hmem : c ∈ s.calls := List.mem_of_getElem? hc
  simp only [Checked, hc] at hchecked
  simp only [DbGrant.step, hc]
  cases c with
  | create =>
    cases works with
    | false => exact h.erase hc rfl
    | true =>
      have hset := h.set hc (d := .recheck password) rfl
      refine ⟨fun hrev pw hrow => ?_, hset.dropped, hset.revoked⟩
      rcases hchecked rfl with hrev' | hnone
      · exact absurd (hrev.symm.trans hrev') (by decide)
      · exact absurd (hnone.symm.trans hrow) (by simp)
  | recheck pw =>
    cases hrow : s.row.isSome
    · simpa [advance, hrow] using h.set hc (d := .add pw) rfl
    · simpa [advance, hrow] using h.erase hc rfl
  | add pw =>
    have herase := h.erase hc rfl
    cases hrow : s.row with
    | some old => simpa [advance, hrow] using herase
    | none =>
      have hstored := hchecked hrow
      simp only [advance, hrow, Option.isSome_none, Bool.false_eq_true, if_false]
      refine ⟨fun hrev pw' hpw => ?_, fun hrev => .inr ?_, herase.revoked⟩
      · cases hpw
        simpa [show s.revoked = false from hrev] using hstored
      · rw [if_pos (show s.revoked = true from hrev)] at hstored
        obtain ⟨x, hx, hxdrops⟩ := hstored
        refine ⟨x, mem_eraseIdx_of_ne hc hx ?_, hxdrops⟩
        rintro rfl
        cases hxdrops
  | deprovision =>
    have hrev := h.revoked _ hmem rfl
    cases hrow : s.row with
    | some pw => simpa [advance, hrow] using h.set hc (d := .drop) rfl
    | none =>
      simp only [advance, hrow, Option.isNone_none, if_true]
      exact ⟨fun hno => absurd (hrev.symm.trans hno) (by decide), fun _ => .inl rfl,
        fun x hx => h.revoked x (List.mem_of_mem_eraseIdx hx)⟩
  | drop =>
    have hrev := h.revoked _ hmem rfl
    have hset := h.set hc (d := .delete) rfl
    cases works with
    | false => exact hset
    | true => exact ⟨fun hno => absurd (hrev.symm.trans hno) (by decide), hset.dropped, hset.revoked⟩
  | delete =>
    exact ⟨fun _ pw hpw => (by cases hpw), fun _ => .inl rfl,
      fun x hx => h.revoked x (List.mem_of_mem_eraseIdx hx)⟩

theorem Inv.step {e : DbEvent} (hchecked : s.Checked e) (h : s.Inv) : (s.step e).Inv := by
  cases e with
  | provision =>
    unfold DbGrant.step
    split_ifs
    · exact h
    refine ⟨h.same, fun hrev => (h.dropped hrev).imp_right ?_, fun x hx hdrops => ?_⟩
    · rintro ⟨x, hx, hdrops⟩
      exact ⟨x, List.mem_append_left _ hx, hdrops⟩
    · rcases List.mem_append.mp hx with hx | hx
      · exact h.revoked x hx hdrops
      · rw [List.mem_singleton.mp hx] at hdrops
        cases hdrops
  | revoke => exact ⟨nofun, fun _ => .inr ⟨.deprovision, by simp [DbGrant.step], rfl⟩, fun _ _ _ => rfl⟩
  | resume i password works =>
    cases hc : s.calls[i]? with
    | none => simpa [DbGrant.step, hc] using h
    | some c => exact h.resume hc hchecked

/-- **Overlapping calls agree**, whenever they start and wherever they are cut, if every step makes the checks
that the code leaves out. -/
theorem provision_consistent (es : List DbEvent) (hchecked : Along step Checked {} es)
    (hdone : (run step {} es).calls = []) : (run step {} es).Consistent := by
  have hinit : Inv {} := ⟨fun _ _ h => (by cases h), fun h => (by cases h), fun _ h => (by cases h)⟩
  have hinv := run_invariant (fun s e hc h => h.step hc) hinit hchecked
  unfold Consistent
  split_ifs with hrev
  · refine (hinv.dropped hrev).resolve_right ?_
    rw [hdone]
    rintro ⟨x, hx, -⟩
    cases hx
  · exact hinv.same (by simpa using hrev)

def exampleProvision (i : Nat) (password : String) : List DbEvent :=
  [.resume i password true, .resume i "" true, .resume i "" true]

/-- A provision stores its row while the revocation that has overtaken it still runs. -/
theorem provision_consistent_overtaken :
    (run step {} ([.provision, .resume 0 "p" true, .revoke, .resume 0 "" true, .resume 0 "" true] ++
      exampleProvision 0 "")).Consistent :=
  provision_consistent _ (by decide) (by decide)

/-- **Calls that overlap.** -/
theorem overlapping_calls_disagree :
    run step {} [.provision, .provision, .resume 0 "p" true, .resume 1 "q" true, .resume 0 "" true, .resume 0 "" true,
      .resume 0 "" true] = { row := some "p", engine := some "q" } ∧
    run step {} ([.provision, .revoke, .resume 1 "" true] ++ exampleProvision 0 "p") =
      { revoked := true, row := some "p", engine := some "p" } := by
  decide

end DbGrant

end NexusGrid.Services

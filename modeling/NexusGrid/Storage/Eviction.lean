import NexusGrid.Storage.Purge

/-! # The days of an eviction

A host evicts a deposit (`foreign_storage_eviction`) or the lifecycle pass does when its time is over.
-/

namespace NexusGrid.Storage

open Lib

/-- A number of days from a setting or a request, where `0` stands for the default. -/
def atLeastOneDay (days : Int) : Int := max 1 (if days = 0 then 3 else days)

/-- One row in `foreign_storage_lifecycle_pass`. -/
def lifecyclePass (start stamp : Int) (setting : Option Int) (clock : String) (row : DepositRow) : DepositRow :=
  if row.status = .evictionRequested then
    if elapsed start row.evictionRequestedAt row.responseWindow then
      { row with status := .inDbGrace, dbGraceAt := some stamp }
    else row
  else if row.status = .inDbGrace then
    if elapsed start row.dbGraceAt row.graceDays then { row with status := .purged, purgedAt := clock } else row
  else if row.status = .stored ∧ elapsed start row.ttlAt 0 then
    -- Without a number the exception comes after the first two columns, and the loop goes on.
    { row with
      status := .evictionRequested
      evictionRequestedAt := some stamp
      evictionTotalDays := (setting.map atLeastOneDay).getD row.evictionTotalDays }
  else row

/-- `foreign_storage_eviction`; `asked` is a numeric `total_days`. -/
def foreignStorageEviction (now : Int) (asked : Option Int) (setting : Int) (row : DepositRow) : Option DepositRow :=
  let requested := if asked.getD 0 ≤ 0 then (if setting = 0 then 3 else setting) else asked.getD 0
  if row.status = .stored ∨ row.status = .transferring then
    some { row with
      status := .evictionRequested
      evictionRequestedAt := some now
      evictionTotalDays := max 1 requested }
  else none

def foreignStorageCancelEviction (row : DepositRow) : Option DepositRow :=
  if row.status = .evictionRequested then
    some { row with
      status := .stored
      evictionRequestedAt := none
      dbGraceAt := none
      evictionTotalDays := 0 }
  else none

/-- The row, and the time and days of the eviction in effect. -/
structure Life where
  row : DepositRow
  eviction : Option (Int × Int)

inductive LifeEvent
  | pass (start stamp : Int) (setting : Option Int) (clock : String) (committed : Bool)
  | evict (now : Int) (asked : Option Int) (setting : Int)
  | cancel

namespace Life

variable {l : Life} {row : DepositRow}

def step (l : Life) : LifeEvent → Life
  | .pass start stamp setting clock committed =>
    if committed then
      let row := lifecyclePass start stamp setting clock l.row
      let evicts := l.row.status = .stored ∧ row.status = .evictionRequested
      ⟨row, if evicts then some (stamp, row.totalDays) else l.eviction⟩
    else l
  | .evict now asked setting =>
    match foreignStorageEviction now asked setting l.row with
    | none => l
    | some row => ⟨row, some (now, row.totalDays)⟩
  | .cancel =>
    match foreignStorageCancelEviction l.row with
    | none => l
    | some row => ⟨row, none⟩

def start (row : DepositRow) : Life :=
  ⟨row, if row.status = .evictionRequested then row.evictionRequestedAt.map (·, row.totalDays) else none⟩

def Ticks (_ : Life) : LifeEvent → Prop
  | .pass start stamp _ _ _ => start ≤ stamp
  | _ => True

/-- The stamps are those of the eviction, after the response window. -/
structure Timed (l : Life) : Prop where
  requested : l.row.status = .evictionRequested → l.eviction = l.row.evictionRequestedAt.map (·, l.row.totalDays)
  graced : l.row.status = .inDbGrace → ∃ r g, l.eviction = some (r, l.row.totalDays) ∧ l.row.dbGraceAt = some g ∧
    r + l.row.responseWindow * 86400000 ≤ g

theorem le_of_elapsed {now days : Int} {since : Option Int} (h : elapsed now since days = true) :
    ∃ t, since = some t ∧ t + days * 86400000 ≤ now := by
  cases since with
  | none => simp [elapsed] at h
  | some t =>
    refine ⟨t, rfl, ?_⟩
    cases hadd : addDays t days with
    | none => simp [elapsed, hadd] at h
    | some c =>
      have hc : t + days * 86400000 = c := by
        simp only [addDays] at hadd
        split_ifs at hadd
        exact Option.some.inj hadd
      simpa [elapsed, hadd, hc] using h

theorem days_split (row : DepositRow) : row.responseWindow + row.graceDays = row.totalDays := by
  have hone : 1 ≤ row.totalDays := le_max_left _ _
  unfold DepositRow.graceDays DepositRow.responseWindow
  split <;> omega

theorem timed_start (hrow : row.status ≠ .inDbGrace) : Timed (start row) where
  requested h := if_pos h
  graced h := absurd h hrow

theorem timed_of_not (h1 : l.row.status ≠ .evictionRequested) (h2 : l.row.status ≠ .inDbGrace) : Timed l :=
  ⟨fun h => absurd h h1, fun h => absurd h h2⟩

theorem lifecyclePass_cases (start stamp : Int) (setting : Option Int) (clock : String) (row : DepositRow) :
    lifecyclePass start stamp setting clock row = row ∨
    (∃ r, row.status = .evictionRequested ∧ row.evictionRequestedAt = some r ∧
      r + row.responseWindow * 86400000 ≤ start ∧
      lifecyclePass start stamp setting clock row = { row with status := .inDbGrace, dbGraceAt := some stamp }) ∨
    (∃ g, row.status = .inDbGrace ∧ row.dbGraceAt = some g ∧ g + row.graceDays * 86400000 ≤ start ∧
      lifecyclePass start stamp setting clock row = { row with status := .purged, purgedAt := clock }) ∨
    (∃ days, row.status = .stored ∧ lifecyclePass start stamp setting clock row = { row with
      status := .evictionRequested, evictionRequestedAt := some stamp, evictionTotalDays := days }) := by
  unfold lifecyclePass
  split_ifs with hreq hwin hgrace hdue httl
  · obtain ⟨r, hr, hle⟩ := le_of_elapsed hwin
    exact .inr (.inl ⟨r, hreq, hr, hle, rfl⟩)
  · exact .inl rfl
  · obtain ⟨g, hg, hle⟩ := le_of_elapsed hdue
    exact .inr (.inr (.inl ⟨g, hgrace, hg, hle, rfl⟩))
  · exact .inl rfl
  · exact .inr (.inr (.inr ⟨_, httl.1, rfl⟩))
  · exact .inl rfl

theorem timed_pass {start stamp : Int} {setting : Option Int} {clock : String} (hl : Timed l) (htick : start ≤ stamp) :
    Timed (l.step (.pass start stamp setting clock true)) := by
  obtain heq | ⟨r, hreq, hr, hle, heq⟩ | ⟨g, hgrace, -, -, heq⟩ | ⟨days, hstored, heq⟩ :=
    lifecyclePass_cases start stamp setting clock l.row
  all_goals simp only [step, heq, if_true]
  · rwa [if_neg fun h => by simp [h.1] at h]
  · rw [if_neg fun h => by simp at h]
    have hev : l.eviction = some (r, l.row.totalDays) := by rw [hl.requested hreq, hr]; rfl
    exact ⟨nofun, fun _ => ⟨r, stamp, hev, rfl, hle.trans htick⟩⟩
  · exact timed_of_not nofun nofun
  simp only [hstored, and_self, if_true]
  exact ⟨fun _ => rfl, nofun⟩

theorem timed_step {ev : LifeEvent} (htick : Ticks l ev) (hl : Timed l) : Timed (l.step ev) := by
  cases ev with
  | pass start stamp setting clock committed =>
    cases committed with
    | false => exact hl
    | true => exact timed_pass hl htick
  | evict now asked setting =>
    unfold step foreignStorageEviction
    split_ifs
    · exact ⟨fun _ => rfl, nofun⟩
    · exact hl
  | cancel =>
    unfold step foreignStorageCancelEviction
    split_ifs
    · exact timed_of_not nofun nofun
    · exact hl

end Life

/-- **The days of an eviction.** -/
theorem purged_after_total_days (row : DepositRow) (hrow : row.status ≠ .inDbGrace) (es : List LifeEvent)
    (hes : Along Life.step Life.Ticks (Life.start row) es) (start stamp : Int) (setting : Option Int) (clock : String)
    (committed : Bool) (hbefore : (run Life.step (Life.start row) es).row.status ≠ .purged)
    (hpurged : (run Life.step (Life.start row) (es ++ [.pass start stamp setting clock committed])).row.status =
      .purged) :
    ∃ requestedAt totalDays, (run Life.step (Life.start row) es).eviction = some (requestedAt, totalDays) ∧
      1 ≤ totalDays ∧ requestedAt + totalDays * 86400000 ≤ start := by
  have hl : Life.Timed (run Life.step (Life.start row) es) :=
    run_invariant (fun _ _ htick hl => Life.timed_step htick hl) (Life.timed_start hrow) hes
  rw [run_concat] at hpurged
  generalize run Life.step (Life.start row) es = l at *
  cases committed with
  | false => exact absurd hpurged hbefore
  | true =>
    obtain heq | ⟨r, -, -, -, heq⟩ | ⟨g, hgrace, hg, hle, -⟩ | ⟨days, -, heq⟩ :=
      Life.lifecyclePass_cases start stamp setting clock l.row
    · simp only [Life.step, heq, if_true] at hpurged
      exact absurd hpurged hbefore
    · simp [Life.step, heq] at hpurged
    · obtain ⟨r, g', hev, hg', hwin⟩ := hl.graced hgrace
      cases hg'.symm.trans hg
      have hdays := Life.days_split l.row
      refine ⟨r, l.row.totalDays, hev, le_max_left _ _, ?_⟩
      rw [← hdays]
      omega
    · simp [Life.step, heq] at hpurged

/-- Two evictions, the first called off, and a purge. -/
def twoEvictions : List LifeEvent :=
  [.evict 0 (some 2) 3, .cancel, .evict 1000 none 3, .pass 86401000 86401007 none "" true]

theorem purged_after_total_days_second : (run Life.step (Life.start (.plain .host .stored))
      (twoEvictions ++ [.pass 259201007 259201007 none "" true])).row.status = .purged ∧
    ∃ requestedAt totalDays, (run Life.step (Life.start (.plain .host .stored)) twoEvictions).eviction =
      some (requestedAt, totalDays) ∧ 1 ≤ totalDays ∧ requestedAt + totalDays * 86400000 ≤ 259201007 :=
  ⟨by decide, purged_after_total_days (.plain .host .stored) (by decide) twoEvictions
    ⟨trivial, trivial, trivial, (by decide : (86401000 : Int) ≤ 86401007), trivial⟩ 259201007 259201007 none "" true
    (by decide) (by decide)⟩

end NexusGrid.Storage

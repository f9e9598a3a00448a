import NexusGrid.Lib.Run

/-! # The health pass of a service

`service_health_pass` decides on a copy of the record and writes after two awaits.
-/

namespace NexusGrid.Services

open Lib

inductive HealthStatus
  | unset
  | running
  | unhealthy
  | failed
  | stopped
deriving DecidableEq

/-- What the pass reads of a service's record. -/
structure HealthRecord where
  workerId : String := ""
  standbys : List String := []
  status : HealthStatus := .unset
deriving DecidableEq

/-- Where the pass is with the service. -/
inductive HealthPass
  | idle
  /-- `service_primary_lost` is being recorded. -/
  | audit (copy : HealthRecord)
  | fail
  /-- `new_primary` is being sent its promotion. -/
  | promote (newPrimary : String)
deriving DecidableEq

/-- A service at its master, and the workers `_worker_online` holds for. -/
structure WatchedService where
  record : Option HealthRecord := none
  online : List String := []
  pass : HealthPass := .idle
deriving DecidableEq

inductive HealthEvent
  /-- Heartbeats arrive, or do not for a while. -/
  | presence (online : List String)
  | stop
  /-- The watchdog's probe. -/
  | probe (healthy : Bool)
  /-- The first snapshot allocates standbys. -/
  | allocate (standbys : List String)
  /-- The service runner starts the service here. -/
  | start
  /-- `setdefault` for a tunnel. -/
  | openTunnel (worker : String)
  | snapshot
  | audited
  | write
deriving DecidableEq

/-- The recorded primary is online. -/
def HealthRecord.Up (r : HealthRecord) (online : List String) : Prop := r.workerId ≠ "" ∧ r.workerId ∈ online

instance (r : HealthRecord) (online : List String) : Decidable (r.Up online) := by
  unfold HealthRecord.Up
  infer_instance

namespace WatchedService

def step (s : WatchedService) : HealthEvent → WatchedService
  | .presence online => { s with online }
  | .stop => { s with record := s.record.map fun r => { r with status := .stopped } }
  | .probe healthy =>
    { s with record := s.record.map fun r => { r with status := if healthy then .running else .unhealthy } }
  | .allocate standbys => { s with record := s.record.map fun r => { r with standbys } }
  | .start => { s with record := some { status := .running } }
  | .openTunnel worker => { s with record := some (s.record.getD { workerId := worker }) }
  | .snapshot =>
    match s.pass, s.record with
    | .idle, some r =>
      if r.status = .failed ∨ r.status = .stopped ∨ r.Up s.online then s else { s with pass := .audit r }
    | _, _ => s
  | .audited =>
    match s.pass with
    | .audit copy =>
      match copy.standbys.filter (· ∈ s.online) with
      | [] => { s with pass := .fail }
      | newPrimary :: _ => { s with pass := .promote newPrimary }
    | _ => s
  | .write =>
    match s.pass with
    | .fail => { s with record := s.record.map fun r => { r with status := .failed, workerId := "" }, pass := .idle }
    | .promote newPrimary =>
      { s with
        record := s.record.map fun r =>
          { workerId := newPrimary, standbys := r.standbys.filter (· ≠ newPrimary), status := .running }
        pass := .idle }
    | _ => s

/-- The primary is not one of its standbys. -/
def Apart (s : WatchedService) : Prop := ∀ r ∈ s.record, r.workerId ≠ "" → r.workerId ∉ r.standbys

/-- The service is down and was not stopped. -/
def Lost (s : WatchedService) : Prop := ∀ r ∈ s.record, ¬ r.Up s.online ∧ r.status ≠ .stopped

/-- Meanwhile no stop and no return of the primary; standbys leave the primary out. -/
def Calm (s : WatchedService) : HealthEvent → Prop
  | .presence online => s.pass ≠ .idle → ∀ r ∈ s.record, ¬ r.Up online
  | .stop => s.pass = .idle
  | .allocate standbys => ∀ r ∈ s.record, r.workerId ≠ "" → r.workerId ∉ standbys
  | .openTunnel worker => s.pass = .idle ∨ s.record ≠ none ∨ worker ∉ s.online
  | _ => True

def Inv (s : WatchedService) : Prop := s.Apart ∧ (s.pass ≠ .idle → s.Lost)

/-- Only the record and the workers online matter. -/
theorem Lost.of_map {s t : WatchedService} {f : HealthRecord → HealthRecord} (h : s.Lost)
    (honline : t.online = s.online)
    (hrecord : t.record = s.record.map f)
    (hf : ∀ r, (f r).workerId = r.workerId ∧ (r.status ≠ .stopped → (f r).status ≠ .stopped)) : t.Lost := by
  intro r hr
  rw [hrecord, Option.mem_def, Option.map_eq_some_iff] at hr
  obtain ⟨r₀, hr₀, rfl⟩ := hr
  obtain ⟨hdown, hstatus⟩ := h r₀ hr₀
  refine ⟨?_, (hf r₀).2 hstatus⟩
  rw [HealthRecord.Up, (hf r₀).1, honline]
  exact hdown

theorem Apart.of_map {s t : WatchedService} {f : HealthRecord → HealthRecord} (hrecord : t.record = s.record.map f)
    (hf : ∀ r ∈ s.record, (f r).workerId ≠ "" → (f r).workerId ∉ (f r).standbys) : t.Apart := by
  intro r hr
  rw [hrecord, Option.mem_def, Option.map_eq_some_iff] at hr
  obtain ⟨r₀, hr₀, rfl⟩ := hr
  exact hf r₀ hr₀

theorem Inv.step {s : WatchedService} {e : HealthEvent} (hcalm : s.Calm e) (h : s.Inv) : (s.step e).Inv := by
  obtain ⟨hapart, hlost⟩ := h
  cases e with
  | presence online => exact ⟨hapart, fun hpass r hr => ⟨hcalm hpass r hr, (hlost hpass r hr).2⟩⟩
  | stop => exact ⟨.of_map rfl hapart, fun hpass => absurd hcalm hpass⟩
  | probe healthy =>
    refine ⟨.of_map rfl hapart, fun hpass => (hlost hpass).of_map rfl rfl fun r => ⟨rfl, fun _ => ?_⟩⟩
    cases healthy <;> nofun
  | allocate standbys => exact ⟨.of_map rfl hcalm, fun hpass => (hlost hpass).of_map rfl rfl fun _ => ⟨rfl, id⟩⟩
  | start =>
    refine ⟨fun r hr => ?_, fun _ r hr => ?_⟩ <;> obtain rfl := Option.some.inj hr
    · exact fun hne => absurd rfl hne
    · exact ⟨fun hup => hup.1 rfl, nofun⟩
  | openTunnel worker =>
    cases hrecord : s.record with
    | some r =>
      have hsame : s.step (.openTunnel worker) = s := by
        rw [WatchedService.step, hrecord, Option.getD_some, ← hrecord]
      rw [hsame]
      exact ⟨hapart, hlost⟩
    | none =>
      refine ⟨fun r hr => ?_, fun hpass r hr => ?_⟩ <;> rw [WatchedService.step, hrecord] at hr <;>
        cases hr
      · exact fun _ => List.not_mem_nil
      have hoff : worker ∉ s.online := (hcalm.resolve_left hpass).resolve_left (absurd hrecord)
      exact ⟨fun hup => hoff hup.2, nofun⟩
  | snapshot =>
    simp only [WatchedService.step]
    split
    · rename_i r _ hrecord
      split_ifs with hskip
      · exact ⟨hapart, hlost⟩
      refine ⟨hapart, fun _ r' hr' => ?_⟩
      cases hrecord.symm.trans hr'
      simp only [not_or] at hskip
      exact ⟨hskip.2.2, hskip.2.1⟩
    · exact ⟨hapart, hlost⟩
  | audited =>
    simp only [WatchedService.step]
    split
    · rename_i copy hpass
      have hlost' := hlost (by rw [hpass]; nofun)
      split <;> exact ⟨hapart, fun _ => hlost'⟩
    · exact ⟨hapart, hlost⟩
  | write =>
    simp only [WatchedService.step]
    split
    · exact ⟨.of_map rfl fun _ _ hne => absurd rfl hne, fun hpass => absurd rfl hpass⟩
    · exact ⟨.of_map rfl fun _ _ _ hmem => by simp at hmem, fun hpass => absurd rfl hpass⟩
    · exact ⟨hapart, hlost⟩

/-- **The pass and its service.** -/
theorem health_pass_safe (es : List HealthEvent) (hcalm : Along step Calm {} es) :
    let s := run step {} es
    (s.step .write ≠ s → s.Lost) ∧ s.Apart := by
  intro s
  have hinit : Inv {} := ⟨fun r hr => (nomatch hr), fun hpass => absurd rfl hpass⟩
  have hinv : s.Inv := run_invariant (fun s e hc h => h.step hc) hinit hcalm
  refine ⟨fun hwrite => hinv.2 fun hidle => hwrite ?_, hinv.1⟩
  simp only [WatchedService.step, hidle]

/-- The run of a primary that is lost, up to the pass's write. -/
def lostPrimary : List HealthEvent := [.openTunnel "w", .allocate ["v"], .presence ["v"], .snapshot, .audited]

theorem health_pass_safe_promote :
    (run step {} lostPrimary).step .write ≠ run step {} lostPrimary ∧ (run step {} lostPrimary).Lost :=
  ⟨by decide +kernel, (health_pass_safe lostPrimary (by
    simp [lostPrimary, Along, Calm, step, HealthRecord.Up])).1 (by decide +kernel)⟩

/-- Heartbeats, stops and standbys that the pass does not see. -/
theorem stale_pass_overwrites : run step {} (lostPrimary ++ [.presence ["v", "w"], .write]) =
        { record := some { workerId := "v", status := .running }, online := ["v", "w"] } ∧
      run step {} (lostPrimary ++ [.stop, .write]) =
        { record := some { workerId := "v", status := .running }, online := ["v"] } ∧
      run step {} (lostPrimary ++ [.write, .allocate ["v"]]) =
        { record := some { workerId := "v", standbys := ["v"], status := .running }, online := ["v"] } := by
  decide +kernel

end WatchedService

end NexusGrid.Services

import NexusGrid.Lib.Json
import NexusGrid.Lib.Run
import NexusGrid.Lib.Table

/-! # Connections of peers

A trusted peer keeps a WebSocket open to this node (`/peer/ws` in `api/websocket.py`).
-/

namespace NexusGrid.Networking

open Lib

/-- What the handler reads of a row of `peers`. -/
structure PeerRow where
  ip : String
  myAuthToken : Option String
  status : String
  signingKey : String
deriving DecidableEq

/-- The peer of a connection; `none` without exactly one trusted row. -/
def authenticate (peers : List PeerRow) (token : Option String) : Option PeerRow :=
  if token.getD "" = "" then none
  else
    match peers.filter fun p => p.myAuthToken = token ∧ p.status = "trusted" with
    | [p] => some p
    | _ => none

/-- Where a handler is: before `ws.accept()` returns, in the receive loop, or done. -/
inductive Stage
  | accepting
  | serving
  | ended
deriving DecidableEq

structure PeerHandler where
  workerId : String
  signingKey : String
  stage : Stage
deriving DecidableEq

/-- An entry of `STATE.active_workers`. -/
structure ActiveWorker where
  stats : List (String × Json)
  lastSeen : Nat

/-- The handlers, the registries, and the latest connection of every peer. -/
structure PeerSockets where
  handlers : Table Nat PeerHandler := ∅
  activeConnections : Table String Nat := ∅
  inboundPeerWs : Table String Nat := ∅
  activeWorkers : Table String ActiveWorker := ∅
  latest : Table String Nat := ∅

inductive SocketEvent
  | arrive (c : Nat) (token : Option String)
  /-- `ws.accept()` returns. -/
  | accepted (c : Nat)
  /-- A frame, read at the given time. -/
  | frame (c : Nat) (data : List (String × Json)) (now : Nat)
  /-- The receive loop ends with an exception. -/
  | closed (c : Nat)

/-- What the handlers read: the rows of `peers`, and `verify_bye` under a signing key. -/
structure SocketEnv where
  peers : List PeerRow
  verifyBye : String → List (String × Json) → Bool

def isHeartbeat (data : List (String × Json)) : Bool := (Json.get data "type").isText "heartbeat"

/-- The `stats` of a heartbeat; `none` when they are no dict. -/
def statsOf (data : List (String × Json)) : Option (List (String × Json)) :=
  match (data.lookup "stats").getD (.obj []) with
  | .obj stats => some stats
  | _ => none

/-- A `bye` with a valid signature, or a heartbeat that raises. -/
def endsLoop (env : SocketEnv) (h : PeerHandler) (data : List (String × Json)) : Bool :=
  ((Json.get data "type").isText "bye" && env.verifyBye h.signingKey data) ||
    (isHeartbeat data && (statsOf data).isNone)

/-- `stats["connection_type"] = "lan"`. -/
def lanStats (stats : List (String × Json)) : List (String × Json) :=
  stats.filter (fun f => f.1 ≠ "connection_type") ++ [("connection_type", .str "lan")]

namespace PeerSockets

/-- The registration after `ws.accept()`. -/
def register (s : PeerSockets) (c : Nat) (h : PeerHandler) : PeerSockets where
  handlers := s.handlers.put c { h with stage := .serving }
  activeConnections := s.activeConnections.put h.workerId c
  inboundPeerWs := s.inboundPeerWs.put h.workerId c
  activeWorkers := s.activeWorkers
  latest := s.latest.put h.workerId c

/-- The `finally` clause. -/
def cleanup (s : PeerSockets) (c : Nat) (h : PeerHandler) : PeerSockets where
  handlers := s.handlers.put c { h with stage := .ended }
  activeConnections := s.activeConnections.delete h.workerId
  inboundPeerWs := s.inboundPeerWs.delete h.workerId
  activeWorkers := s.activeWorkers.delete h.workerId
  latest := s.latest

def step (env : SocketEnv) (s : PeerSockets) : SocketEvent → PeerSockets
  | .arrive c token =>
    match s.handlers.get c, authenticate env.peers token with
    | none, some p => { s with handlers := s.handlers.put c ⟨p.ip, p.signingKey, .accepting⟩ }
    | _, _ => s
  | .accepted c =>
    match s.handlers.get c with
    | some ⟨w, key, .accepting⟩ => s.register c ⟨w, key, .accepting⟩
    | _ => s
  | .frame c data now =>
    match s.handlers.get c with
    | some ⟨w, key, .serving⟩ =>
      if endsLoop env ⟨w, key, .serving⟩ data then s.cleanup c ⟨w, key, .serving⟩
      else if isHeartbeat data then
        { s with activeWorkers := s.activeWorkers.put w ⟨lanStats ((statsOf data).getD []), now⟩ }
      -- the other frames go to the tunnels, the services and the storage
      else s
    | _ => s
  | .closed c =>
    match s.handlers.get c with
    | some ⟨w, key, .serving⟩ => s.cleanup c ⟨w, key, .serving⟩
    | some ⟨w, key, .accepting⟩ => { s with handlers := s.handlers.put c ⟨w, key, .ended⟩ }
    | _ => s

/-- The connection is in its receive loop, for the peer `w`. -/
def Live (s : PeerSockets) (w : String) (c : Nat) : Prop := ∃ key, s.handlers.get c = some ⟨w, key, .serving⟩

def Registered (s : PeerSockets) : Prop :=
  ∀ w c, s.latest.get w = some c → s.Live w c → s.activeConnections.get w = some c ∧ s.inboundPeerWs.get w = some c

/-- The connection that runs its `finally` clause in the event, with its peer. -/
def ending (env : SocketEnv) (s : PeerSockets) : SocketEvent → Option (Nat × String)
  | .frame c data _ =>
    match s.handlers.get c with
    | some ⟨w, key, .serving⟩ => if endsLoop env ⟨w, key, .serving⟩ data then some (c, w) else none
    | _ => none
  | .closed c =>
    match s.handlers.get c with
    | some ⟨w, _, .serving⟩ => some (c, w)
    | _ => none
  | _ => none

def EndsAsLatest (env : SocketEnv) (s : PeerSockets) (e : SocketEvent) : Prop :=
  ∀ c w, s.ending env e = some (c, w) → ∀ c', s.latest.get w = some c' → s.Live w c' → c' = c

/-- What an event does to handlers and registries. -/
inductive Effect (env : SocketEnv) (s : PeerSockets) (e : SocketEvent) : PeerSockets → Prop
  | enter (c : Nat) (h : PeerHandler) (hstage : h.stage ≠ .serving)
      (hold : ∀ h', s.handlers.get c = some h' → h'.stage = .accepting) (hend : s.ending env e = none) :
      Effect env s e { s with handlers := s.handlers.put c h }
  | register (c : Nat) (h : PeerHandler) (hget : s.handlers.get c = some h) (hstage : h.stage = .accepting)
      (hend : s.ending env e = none) : Effect env s e (s.register c h)
  | cleanup (c : Nat) (w key : String) (hget : s.handlers.get c = some ⟨w, key, .serving⟩)
      (hend : s.ending env e = some (c, w)) : Effect env s e (s.cleanup c ⟨w, key, .serving⟩)
  | other (workers : Table String ActiveWorker) (hend : s.ending env e = none) :
      Effect env s e { s with activeWorkers := workers }

theorem step_effect (env : SocketEnv) (s : PeerSockets) (e : SocketEvent) : Effect env s e (s.step env e) := by
  have hsame : s.ending env e = none → Effect env s e s := .other s.activeWorkers
  cases e with
  | arrive c token =>
    simp only [step]
    split
    next p hnone _ =>
      refine .enter c _ (by simp) ?_ rfl
      intro h' hget
      rw [hnone] at hget
      cases hget
    · exact hsame rfl
  | accepted c =>
    simp only [step]
    split
    next w key hget => exact .register c _ hget rfl rfl
    · exact hsame rfl
  | frame c data now =>
    simp only [step]
    split
    next w key hget =>
      split
      next hends => exact .cleanup c w key hget (by simp [ending, hget, hends])
      next hends =>
        have hend : s.ending env (.frame c data now) = none := by simp [ending, hget, hends]
        split
        · exact .other _ hend
        · exact hsame hend
    · refine hsame ?_
      simp only [ending]
  | closed c =>
    simp only [step]
    split
    next w key hget => exact .cleanup c w key hget (by simp [ending, hget])
    next w key hget =>
      refine .enter c _ (by simp) ?_ (by simp [ending, hget])
      intro h' hget'
      rw [hget] at hget'
      exact Option.some.inj hget' ▸ rfl
    · refine hsame ?_
      simp only [ending]

/-- The latest connection of a peer is registered, and of that peer. -/
structure Ok (s : PeerSockets) : Prop where
  registered : s.Registered
  latest : ∀ w c, s.latest.get w = some c → ∃ h, s.handlers.get c = some h ∧ h.workerId = w ∧ h.stage ≠ .accepting

/-- A live connection was live before, and is another one. -/
theorem live_put {s t : PeerSockets} {c : Nat} {h : PeerHandler} (ht : t.handlers = s.handlers.put c h)
    (hstage : h.stage ≠ .serving) {w : String} {c' : Nat} (hlive : t.Live w c') : c' ≠ c ∧ s.Live w c' := by
  obtain ⟨key, hget⟩ := hlive
  rw [ht, Table.get_put] at hget
  split_ifs at hget with heq
  · cases hget
    exact absurd rfl hstage
  · exact ⟨heq, key, hget⟩

theorem Ok.step {env : SocketEnv} {s : PeerSockets} {e : SocketEvent} (hok : s.Ok)
    (hC : s.EndsAsLatest env e) : (s.step env e).Ok := by
  have heff := step_effect env s e
  generalize s.step env e = t at heff ⊢
  cases heff with
  | enter c h hstage hold hend =>
    -- the handler that is entered was never registered, so it is the latest of no peer
    have hne : ∀ w c', s.latest.get w = some c' → c' ≠ c := by
      rintro w c' hlatest rfl
      obtain ⟨h', hget, -, hstage'⟩ := hok.latest w c' hlatest
      exact hstage' (hold h' hget)
    constructor
    · intro w c' hlatest hlive
      exact hok.registered w c' hlatest (live_put rfl hstage hlive).2
    intro w c' hlatest
    obtain ⟨h', hget, hrest⟩ := hok.latest w c' hlatest
    exact ⟨h', by rw [Table.get_put_ne _ _ (hne w c' hlatest), hget], hrest⟩
  | register c h hget hstage hend =>
    constructor
    · intro w c' hlatest hlive
      simp only [PeerSockets.register] at hlatest ⊢
      by_cases hw : w = h.workerId
      · subst hw
        rw [Table.get_put, if_pos rfl] at hlatest ⊢
        exact ⟨hlatest, by rw [Table.get_put, if_pos rfl, hlatest]⟩
      rw [Table.get_put_ne _ _ hw] at hlatest ⊢
      rw [Table.get_put_ne _ _ hw]
      obtain ⟨key, hlive⟩ := hlive
      simp only [PeerSockets.register, Table.get_put] at hlive
      split_ifs at hlive with hc
      · exact absurd (congrArg PeerHandler.workerId (Option.some.inj hlive)).symm hw
      · exact hok.registered w c' hlatest ⟨key, hlive⟩
    · intro w c' hlatest
      simp only [PeerSockets.register, Table.get_put] at hlatest ⊢
      split_ifs at hlatest with hw
      · cases hlatest
        exact ⟨_, if_pos rfl, hw.symm, by simp⟩
      obtain ⟨h', hget', hw', hstage'⟩ := hok.latest w c' hlatest
      have hc : c' ≠ c := by
        rintro rfl
        rw [hget] at hget'
        exact hstage' (Option.some.inj hget' ▸ hstage)
      exact ⟨h', by rw [if_neg hc, hget'], hw', hstage'⟩
  | cleanup c w key hget hend =>
    constructor
    · intro w' c' hlatest hlive
      have hstage : (⟨w, key, .ended⟩ : PeerHandler).stage ≠ .serving := by simp
      obtain ⟨hc, hlive'⟩ := live_put rfl hstage hlive
      have hw : w' ≠ w := by
        rintro rfl
        exact hc (hC c w' hend c' hlatest hlive')
      simp only [PeerSockets.cleanup, Table.get_delete, if_neg hw]
      exact hok.registered w' c' hlatest hlive'
    intro w' c' hlatest
    obtain ⟨h', hget', hw', hstage'⟩ := hok.latest w' c' hlatest
    simp only [PeerSockets.cleanup, Table.get_put]
    split_ifs with hc
    · subst hc
      rw [hget] at hget'
      exact ⟨_, rfl, (congrArg PeerHandler.workerId (Option.some.inj hget')).trans hw', by simp⟩
    · exact ⟨h', hget', hw', hstage'⟩
  | other workers hend => exact ⟨hok.registered, hok.latest⟩

theorem endsAsLatest_of_registered {env : SocketEnv} {s : PeerSockets} {e : SocketEvent}
    (hreg : (s.step env e).Registered) : s.EndsAsLatest env e := by
  intro c w hend c' hlatest hlive
  have heff := step_effect env s e
  generalize s.step env e = t at hreg heff
  cases heff with
  | enter _ _ _ _ hnone | register _ _ _ _ hnone | other _ hnone => rw [hnone] at hend; cases hend
  | cleanup c₀ w₀ key hget hend₀ =>
    rw [hend₀] at hend
    obtain ⟨rfl, rfl⟩ := Prod.mk.inj (Option.some.inj hend)
    by_contra hne
    have hlive' : (s.cleanup c₀ ⟨w₀, key, .serving⟩).Live w₀ c' := by
      obtain ⟨key', hget'⟩ := hlive
      exact ⟨key', by rw [cleanup, Table.get_put_ne _ _ hne, hget']⟩
    have hgone := (hreg w₀ c' hlatest hlive').1
    rw [cleanup, Table.get_delete, if_pos rfl] at hgone
    cases hgone

/-- **Reconnects.** -/
theorem registered_iff_along (env : SocketEnv) (es : List SocketEvent) :
    (∀ pre, pre <+: es → (run (step env) {} pre).Registered) ↔ Along (step env) (EndsAsLatest env) {} es := by
  refine always_iff_along (P := Ok) (Q := Registered) (fun _ hok => hok.registered)
    (fun s e hok hC => hok.step hC) (fun s e _ hreg => endsAsLatest_of_registered hreg) ⟨?_, ?_⟩ es
  · intro w c hlatest
    cases hlatest
  intro w c hlatest
  cases hlatest

end PeerSockets

/-- A node that trusts the peer `p`. -/
def exampleEnv : SocketEnv := ⟨[⟨"p", some "t", "trusted", ""⟩], fun _ _ => false⟩

def exampleReconnect : List SocketEvent :=
  [.arrive 1 (some "t"), .accepted 1, .arrive 2 (some "t"), .accepted 2, .closed 1]

/-- The second connection is live and registered nowhere. -/
theorem old_cleanup_removes_new :
    ¬ ∀ (env : SocketEnv) (es : List SocketEvent), (run (PeerSockets.step env) {} es).Registered := by
  intro h
  have hreg := h exampleEnv exampleReconnect "p" 2 (by decide +kernel) ⟨"", by decide +kernel⟩
  exact absurd hreg.1 (by decide +kernel)

end NexusGrid.Networking

import Mathlib.Data.Finset.Card
import NexusGrid.Lib.Json
import NexusGrid.Lib.PyStr
import NexusGrid.Lib.Run
import NexusGrid.Lib.Table

/-! # Grid keys and broadcasts at the relay

Every node keeps one connection to the relay (`relay_ws` in `relay/server.py`).
-/

namespace NexusGrid.Relay

open Lib

/-! ## Registrations and keys -/

/-- The settings that `relay_ws` reads, and Python's `repr`. -/
structure Config where
  /-- `GRID_KEY`. -/
  gridKey : String
  maxGridKeysPerNode : Nat
  /-- `_payload_size_ok`. -/
  payloadSizeOk : Json → Bool
  repr : Json → String

/-- `_GRID_KEY_RE.fullmatch`. -/
def isGridKey (s : String) : Bool := s.length = 32 && s.toList.all fun c => c.isDigit || ('a' ≤ c && c ≤ 'f')

def normalizeGridKeys (cfg : Config) : Json → Option (Finset String)
  | .arr raw =>
    if cfg.maxGridKeysPerNode < raw.length then none
    else
      let keys := raw.map fun item => PyStr.lower (PyStr.strip (if item.truthy then item.text cfg.repr else ""))
      if keys.all isGridKey then some keys.toFinset else none
  | _ => none

/-- The keys of a registration that is accepted; `none` when the connection is closed. -/
def readRegistration (cfg : Config) : Option Json → Option (Finset String)
  | some (.obj reg) =>
    if ¬ (Json.get reg "type").isText "register" then none
    -- `hmac.compare_digest` raises on a text outside ASCII, and then the handler ends too
    else if cfg.gridKey ≠ "" ∧ (Json.textAt cfg.repr reg "grid_key" ≠ cfg.gridKey ∨
        cfg.gridKey.toList.any fun c => 128 ≤ c.toNat) then none
    else normalizeGridKeys cfg ((reg.lookup "grid_keys").getD (.arr []))
  | _ => none

/-! ## The hub and its lock -/

inductive Phase
  /-- For the lock, to register. -/
  | joining
  /-- For the next frame. -/
  | idle
  /-- For the lock and then in it, to send a broadcast out. -/
  | broadcasting (key : String) (payload : Json)
  /-- For the lock, to add keys. -/
  | adding (keys : Finset String)
  /-- For the lock, to remove keys. -/
  | removing (keys : Finset String)
  /-- For the lock, in the `finally` clause. -/
  | leaving
  | done

/-- A `ConnectedNode` and its handler. -/
structure Conn where
  nodeId : String
  gridKeys : Finset String
  phase : Phase

/-- Where the holder of `_lock` waits. -/
inductive Critical
  /-- For `old.ws.close` in the registration of a connection. -/
  | registering (c : Nat)
  /-- For a send: the nodes still to visit, and the failed ones. -/
  | fanOut (c : Nat) (key : String) (payload : Json) (todo : List (String × Nat)) (dead : List String)
  /-- For the send of an error in `add_grid_keys`. -/
  | refusing (c : Nat)
  /-- For a send of `_broadcast_peer_list`. -/
  | peerList (todo : List (String × Nat)) (dead : List String)
  /-- For the `close` of an evicted connection. -/
  | evicting (todo : List (String × Nat))

def Critical.owner : Critical → Option Nat
  | .registering c => some c
  | .fanOut c _ _ _ _ => some c
  | .refusing c => some c
  | .peerList _ _ => none
  | .evicting _ => none

/-- The connections, `connected_nodes` and the lock. -/
structure Hub where
  conns : Table Nat Conn := ∅
  connectedNodes : Table String Nat := ∅
  lock : Option Critical := none

def Hub.items (s : Hub) : List (String × Nat) := s.connectedNodes.rows.reverse

/-- What `_check_rate_limit` returns. -/
inductive Rate
  | ok
  | limited
  | disconnect

inductive Event
  | connect (c : Nat) (nodeId : String) (reg : Option Json)
  /-- A frame; `none` when it is no JSON. -/
  | receive (c : Nat) (data : Option Json) (rate : Rate)
  | drop (c : Nat)
  /-- The handler gets the lock. -/
  | acquire (c : Nat)
  /-- `_broadcast_peer_list` gets the lock. -/
  | peerList
  /-- `_evict_stale_nodes` gets the lock. -/
  | evict (stale : Nat → Bool)
  /-- `sent` is what the last send returned. -/
  | advance (sent : Bool)
  /-- The holder of the lock is cancelled. -/
  | cancel

def readBroadcast (cfg : Config) (n : Conn) (data : List (String × Json)) : Phase :=
  let payload := (data.lookup "payload").getD (.obj [])
  let key := PyStr.lower (PyStr.strip (Json.textDefault cfg.repr data "grid_key"))
  if ¬ isGridKey key then .idle
  else if key ∉ n.gridKeys then .idle
  else if ¬ cfg.payloadSizeOk payload then .idle
  else .broadcasting key payload

/-- The keys of an `add_grid_keys` or `remove_grid_keys` frame. -/
def readKeys (cfg : Config) (data : List (String × Json)) (next : Finset String → Phase) : Phase :=
  match normalizeGridKeys cfg ((data.lookup "grid_keys").getD (.arr [])) with
  | none => .idle
  | some keys => next keys

def readFrame (cfg : Config) (n : Conn) (data : Option Json) (rate : Rate) : Phase :=
  match data, rate with
  | none, _ => .idle
  | some (.obj _), .disconnect => .leaving
  | some (.obj _), .limited => .idle
  | some (.obj data), .ok =>
    let type := PyStr.strip (Json.textDefault cfg.repr data "type")
    if type = "bye" then .leaving
    else if type = "broadcast" then readBroadcast cfg n data
    else if type = "add_grid_keys" then readKeys cfg data .adding
    else if type = "remove_grid_keys" then readKeys cfg data .removing
    -- "heartbeat", "relay", "pair_reply" and unknown types change no keys and no registration
    else .idle
  -- `data.get` raises
  | some _, _ => .leaving

def Hub.setPhase (s : Hub) (c : Nat) (n : Conn) (phase : Phase) : Hub :=
  { s with conns := s.conns.put c { n with phase := phase } }

def Hub.enter (cfg : Config) (s : Hub) (c : Nat) (n : Conn) : Hub :=
  match n.phase with
  | .joining =>
    match s.connectedNodes.get n.nodeId with
    | some _ => { s with connectedNodes := s.connectedNodes.delete n.nodeId, lock := some (.registering c) }
    | none => { s.setPhase c n .idle with connectedNodes := s.connectedNodes.put n.nodeId c }
  | .broadcasting key payload => { s with lock := some (.fanOut c key payload s.items []) }
  | .adding keys =>
    let merged := n.gridKeys ∪ keys
    if cfg.maxGridKeysPerNode < merged.card then { s with lock := some (.refusing c) }
    else { s with conns := s.conns.put c { n with gridKeys := merged, phase := .idle } }
  | .removing keys => { s with conns := s.conns.put c { n with gridKeys := n.gridKeys \ keys, phase := .idle } }
  | .leaving =>
    if s.connectedNodes.get n.nodeId = some c then
      { s.setPhase c n .done with connectedNodes := s.connectedNodes.delete n.nodeId }
    else s.setPhase c n .done
  | .idle => s
  | .done => s

/-- The broadcast of `c` under `key` is sent to `target`. -/
def Hub.reaches (s : Hub) (c : Nat) (key : String) (target : String × Nat) : Bool :=
  match s.conns.get c, s.conns.get target.2 with
  | some sender, some receiver => target.1 ≠ sender.nodeId && key ∈ receiver.gridKeys
  | _, _ => false

def Hub.setOwnerPhase (s : Hub) (c : Nat) (phase : Phase) : Hub :=
  match s.conns.get c with
  | none => s
  | some n => s.setPhase c n phase

/-- `connected_nodes.pop(nid, None)` for every node of a list. -/
def Hub.popAll (s : Hub) (dead : List String) : Hub :=
  { s with connectedNodes := dead.foldl Table.delete s.connectedNodes }

def Hub.advance (s : Hub) (sent : Bool) : Critical → Hub
  | .registering c =>
    match s.conns.get c with
    | none => { s with lock := none }
    | some n => { s.setPhase c n .idle with connectedNodes := s.connectedNodes.put n.nodeId c, lock := none }
  | .fanOut c key payload (target :: todo) dead =>
    let failed := s.reaches c key target && !sent
    { s with lock := some (.fanOut c key payload todo (if failed then dead ++ [target.1] else dead)) }
  | .fanOut c _ _ [] dead => { (s.popAll dead).setOwnerPhase c .idle with lock := none }
  | .refusing c => { s.setOwnerPhase c .idle with lock := none }
  | .peerList (target :: todo) dead =>
    { s with lock := some (.peerList todo (if sent then dead else dead ++ [target.1])) }
  | .peerList [] dead => { s.popAll dead with lock := none }
  | .evicting (target :: todo) => { s.popAll [target.1] with lock := some (.evicting todo) }
  | .evicting [] => { s with lock := none }

/-- Where a handler goes when an exception reaches it. -/
def Phase.interrupted : Phase → Phase
  | .joining => .done
  | .leaving => .done
  | .done => .done
  | _ => .leaving

def Hub.step (cfg : Config) (s : Hub) : Event → Hub
  | .connect c nodeId reg =>
    match s.conns.get c, readRegistration cfg reg with
    | none, some keys => { s with conns := s.conns.put c ⟨nodeId, keys, .joining⟩ }
    | _, _ => s
  | .receive c data rate =>
    match s.conns.get c with
    | some ⟨nodeId, keys, .idle⟩ => s.setPhase c ⟨nodeId, keys, .idle⟩ (readFrame cfg ⟨nodeId, keys, .idle⟩ data rate)
    | _ => s
  | .drop c =>
    match s.conns.get c with
    | some n => if s.lock.bind Critical.owner = some c then s else s.setPhase c n n.phase.interrupted
    | none => s
  | .acquire c =>
    match s.conns.get c, s.lock with
    | some n, none => s.enter cfg c n
    | _, _ => s
  | .peerList => if s.lock.isSome then s else { s with lock := some (.peerList s.items []) }
  | .evict stale =>
    if s.lock.isSome then s else { s with lock := some (.evicting (s.items.filter fun i => stale i.2)) }
  | .advance sent =>
    match s.lock with
    | some critical => s.advance sent critical
    | none => s
  | .cancel =>
    match s.lock.bind Critical.owner with
    | none => { s with lock := none }
    | some c =>
      match s.conns.get c with
      | none => { s with lock := none }
      | some n => { s.setPhase c n n.phase.interrupted with lock := none }

/-- A `relayed_broadcast`: from where to where, under which key. -/
structure Delivery where
  sender : Nat
  target : Nat
  key : String
  frame : List (String × Json)

def Hub.delivery (s : Hub) : Event → Option Delivery
  | .advance _ =>
    match s.lock with
    | some (.fanOut c key payload (target :: _) _) =>
      if s.reaches c key target then
        (s.conns.get c).map fun sender => ⟨c, target.2, key,
          [("type", .str "relayed_broadcast"), ("from", .str sender.nodeId), ("grid_key", .str key),
            ("payload", payload)]⟩
      else none
    | _ => none
  | _ => none

variable {cfg : Config} {n : Conn} {payload : Json} {key : String}

theorem card_normalizeGridKeys {raw : Json} {keys : Finset String}
    (h : normalizeGridKeys cfg raw = some keys) : keys.card ≤ cfg.maxGridKeysPerNode := by
  cases raw with
  | arr raw =>
    simp only [normalizeGridKeys] at h
    split_ifs at h with hlen hall
    cases h
    calc (raw.map fun item => PyStr.lower (PyStr.strip (if item.truthy then item.text cfg.repr else ""))).toFinset.card
        ≤ (raw.map fun item => PyStr.lower (PyStr.strip (if item.truthy then item.text cfg.repr else ""))).length :=
          List.toFinset_card_le _
      _ = raw.length := List.length_map _
      _ ≤ cfg.maxGridKeysPerNode := Nat.le_of_not_lt hlen
  | null | bool | int | float | str | obj => simp [normalizeGridKeys] at h

theorem card_readRegistration {reg : Option Json} {keys : Finset String}
    (h : readRegistration cfg reg = some keys) : keys.card ≤ cfg.maxGridKeysPerNode := by
  rw [readRegistration.eq_def] at h
  split at h
  · split_ifs at h
    exact card_normalizeGridKeys h
  · cases h

theorem readBroadcast_eq {data : List (String × Json)}
     (h : readBroadcast cfg n data = .broadcasting key payload) : key ∈ n.gridKeys := by
  dsimp only [readBroadcast] at h
  split at h
  · cases h
  split at h
  · cases h
  next hkey =>
    split at h
    · cases h
    rw [Phase.broadcasting.injEq] at h
    exact h.1 ▸ not_not.mp hkey

theorem readKeys_ne_broadcasting (cfg : Config) (data : List (String × Json)) {next : Finset String → Phase}
      (hnext : ∀ keys, next keys ≠ .broadcasting key payload) : readKeys cfg data next ≠ .broadcasting key payload := by
  rw [readKeys]
  split
  · nofun
  · exact hnext _

theorem readFrame_broadcasting {data : Option Json} {rate : Rate}
     (h : readFrame cfg n data rate = .broadcasting key payload) : key ∈ n.gridKeys := by
  rw [readFrame.eq_def] at h
  split at h
  · cases h
  · cases h
  · cases h
  · dsimp only at h
    split at h
    · cases h
    split at h
    · exact readBroadcast_eq h
    split at h
    · exact absurd h (readKeys_ne_broadcasting cfg _ nofun)
    split at h
    · exact absurd h (readKeys_ne_broadcasting cfg _ nofun)
    · cases h
  · cases h

/-! ## Connections in order -/

/-- A connection has few keys, and the key of a broadcast it is sending is one of them. -/
structure Conn.Ok (max : Nat) (n : Conn) : Prop where
  bounded : n.gridKeys.card ≤ max
  subscribed : ∀ key payload, n.phase = .broadcasting key payload → key ∈ n.gridKeys

/-- The handler of a broadcast is at it, and who is left is registered. -/
def LockOk (conns : Table Nat Conn) (connectedNodes : Table String Nat) : Option Critical → Prop
  | some (.fanOut c key payload todo _) =>
    (∃ n, conns.get c = some n ∧ n.phase = .broadcasting key payload) ∧
      ∀ target ∈ todo, connectedNodes.get target.1 = some target.2
  | _ => True

structure Hub.Ok (max : Nat) (s : Hub) : Prop where
  conns : ∀ c n, s.conns.get c = some n → n.Ok max
  lock : LockOk s.conns s.connectedNodes s.lock

theorem conns_ok_put {max : Nat} {conns : Table Nat Conn} (h : ∀ c n, conns.get c = some n → n.Ok max)
    {c : Nat} (hn : n.Ok max) : ∀ c' n', (conns.put c n).get c' = some n' → n'.Ok max := by
  intro c' n' hget
  rw [Table.get_put] at hget
  split_ifs at hget with heq
  · exact Option.some.inj hget ▸ hn
  · exact h c' n' hget

theorem lockOk_put {conns : Table Nat Conn} {connectedNodes : Table String Nat} {lock : Option Critical}
    (h : LockOk conns connectedNodes lock) {c : Nat}
    (hc : ∀ key payload todo dead, lock ≠ some (.fanOut c key payload todo dead)) :
    LockOk (conns.put c n) connectedNodes lock := by
  match lock with
  | none => trivial
  | some (.registering _) => trivial
  | some (.refusing _) => trivial
  | some (.peerList _ _) => trivial
  | some (.evicting _) => trivial
  | some (.fanOut c' key payload todo dead) =>
    obtain ⟨⟨n', hget, hphase⟩, htodo⟩ := h
    have hne : c' ≠ c := by
      rintro rfl
      exact hc key payload todo dead rfl
    exact ⟨⟨n', by rw [Table.get_put_ne _ _ hne, hget], hphase⟩, htodo⟩

theorem mem_items {s : Hub} {target : String × Nat} (h : target ∈ s.items) :
    s.connectedNodes.get target.1 = some target.2 :=
  (Table.mem_rows _ _ _).mp (List.mem_reverse.mp h)

theorem Conn.Ok.withPhase {max : Nat} (h : n.Ok max) {phase : Phase}
    (hphase : ∀ key payload, phase = .broadcasting key payload → key ∈ n.gridKeys) :
    ({ n with phase := phase } : Conn).Ok max := ⟨h.bounded, hphase⟩

theorem interrupted_ne_broadcasting (phase : Phase) (key : String) (payload : Json) :
    phase.interrupted ≠ .broadcasting key payload := by
  cases phase <;> simp [Phase.interrupted]

section Steps

variable {max : Nat} {s : Hub}

theorem Hub.Ok.setPhase (h : s.Ok max) {c : Nat} {n : Conn} (hget : s.conns.get c = some n) {phase : Phase}
    (hphase : ∀ key payload, phase = .broadcasting key payload → key ∈ n.gridKeys)
    (hc : ∀ key payload todo dead, s.lock ≠ some (.fanOut c key payload todo dead)) : (s.setPhase c n phase).Ok max :=
  ⟨conns_ok_put h.conns ((h.conns c n hget).withPhase hphase), lockOk_put h.lock hc⟩

theorem conns_ok_setOwnerPhase (h : ∀ c n, s.conns.get c = some n → n.Ok max) (c : Nat) {phase : Phase}
    (hphase : ∀ key payload, phase ≠ .broadcasting key payload) :
    ∀ c' n', (s.setOwnerPhase c phase).conns.get c' = some n' → n'.Ok max := by
  rw [Hub.setOwnerPhase]
  split
  · exact h
  next n hget => exact conns_ok_put h ((h c n hget).withPhase fun k p hk => absurd hk (hphase k p))

theorem enter_ok {cfg : Config} (h : s.Ok cfg.maxGridKeysPerNode) {c : Nat} {n : Conn}
    (hget : s.conns.get c = some n) (hlock : s.lock = none) : (s.enter cfg c n).Ok cfg.maxGridKeysPerNode := by
  have hn : n.Ok cfg.maxGridKeysPerNode := h.conns c n hget
  have hfree : ∀ key payload todo dead, s.lock ≠ some (.fanOut c key payload todo dead) := by
    intro key payload todo dead
    rw [hlock]
    simp
  rw [Hub.enter]
  split
  · -- joining
    split
    · exact ⟨h.conns, trivial⟩
    have hset : (s.setPhase c n .idle).Ok cfg.maxGridKeysPerNode := h.setPhase hget (by simp) hfree
    refine ⟨hset.conns, ?_⟩
    show LockOk _ _ s.lock
    rw [hlock]
    trivial
  · -- broadcasting
    next key payload hphase => exact ⟨h.conns, ⟨n, hget, hphase⟩, fun target htarget => mem_items htarget⟩
  · -- adding
    dsimp only
    split
    · exact ⟨h.conns, trivial⟩
    next hcard => exact ⟨conns_ok_put h.conns ⟨Nat.le_of_not_lt hcard, by simp⟩, lockOk_put h.lock hfree⟩
  · -- removing
    next keys _ =>
      have hcard : (n.gridKeys \ keys).card ≤ cfg.maxGridKeysPerNode :=
        (Finset.card_le_card Finset.sdiff_subset).trans hn.bounded
      exact ⟨conns_ok_put h.conns ⟨hcard, by simp⟩, lockOk_put h.lock hfree⟩
  · -- leaving
    split
    · have hset : (s.setPhase c n .done).Ok cfg.maxGridKeysPerNode := h.setPhase hget (by simp) hfree
      refine ⟨hset.conns, ?_⟩
      show LockOk _ _ s.lock
      rw [hlock]
      trivial
    · exact h.setPhase hget (by simp) hfree
  · exact h
  · exact h

theorem advance_ok (h : s.Ok max) {critical : Critical} (hlock : s.lock = some critical) (sent : Bool) :
    (s.advance sent critical).Ok max := by
  have hcrit : LockOk s.conns s.connectedNodes (some critical) := hlock ▸ h.lock
  rw [Hub.advance.eq_def]
  split
  · split
    · exact ⟨h.conns, trivial⟩
    next n hget => exact ⟨conns_ok_put h.conns ((h.conns _ n hget).withPhase nofun), trivial⟩
  · -- one node of a broadcast: the others are still to visit
    obtain ⟨hsender, htodo⟩ := hcrit
    exact ⟨h.conns, hsender, fun target htarget => htodo target (.tail _ htarget)⟩
  next c _ _ dead => exact ⟨conns_ok_setOwnerPhase (s := s.popAll dead) h.conns c nofun, trivial⟩
  next c => exact ⟨conns_ok_setOwnerPhase h.conns c nofun, trivial⟩
  · exact ⟨h.conns, trivial⟩
  · exact ⟨h.conns, trivial⟩
  · exact ⟨h.conns, trivial⟩
  · exact ⟨h.conns, trivial⟩

theorem step_ok {cfg : Config} (h : s.Ok cfg.maxGridKeysPerNode) (e : Event) :
    (s.step cfg e).Ok cfg.maxGridKeysPerNode := by
  -- the handler that sends a broadcast out is in that phase, and is the owner of the lock
  have hfan : ∀ {c n}, s.conns.get c = some n → ∀ key payload todo dead,
      s.lock = some (.fanOut c key payload todo dead) → n.phase = .broadcasting key payload := by
    intro c n hget key payload todo dead hlock
    have hok := h.lock
    rw [hlock] at hok
    obtain ⟨⟨n', hget', hphase⟩, -⟩ := hok
    rw [hget] at hget'
    rwa [Option.some.inj hget']
  cases e with
  | connect c nodeId reg =>
    simp only [Hub.step]
    split
    next keys hnone hreg =>
      refine ⟨conns_ok_put h.conns ⟨card_readRegistration hreg, by simp⟩, lockOk_put h.lock ?_⟩
      intro key payload todo dead hlock
      have hok := h.lock
      rw [hlock] at hok
      obtain ⟨⟨n', hget', -⟩, -⟩ := hok
      rw [hnone] at hget'
      cases hget'
    · exact h
  | receive c data rate =>
    simp only [Hub.step]
    split
    next nodeId keys hget =>
      refine h.setPhase hget (fun key payload hphase => readFrame_broadcasting hphase) ?_
      intro key payload todo dead hlock
      cases hfan hget key payload todo dead hlock
    · exact h
  | drop c =>
    simp only [Hub.step]
    split
    next n hget =>
      split
      · exact h
      next howner =>
        refine h.setPhase hget (fun key payload hphase =>
          absurd hphase (interrupted_ne_broadcasting n.phase key payload)) ?_
        intro key payload todo dead hlock
        rw [hlock] at howner
        exact howner rfl
    · exact h
  | acquire c =>
    simp only [Hub.step]
    split
    next n hget hlock => exact enter_ok h hget hlock
    · exact h
  | peerList =>
    simp only [Hub.step]
    split
    · exact h
    · exact ⟨h.conns, trivial⟩
  | evict stale =>
    simp only [Hub.step]
    split
    · exact h
    · exact ⟨h.conns, trivial⟩
  | advance sent =>
    simp only [Hub.step]
    split
    next critical hlock => exact advance_ok h hlock sent
    · exact h
  | cancel =>
    simp only [Hub.step]
    split
    · exact ⟨h.conns, trivial⟩
    next c _ =>
      split
      · exact ⟨h.conns, trivial⟩
      next n hget =>
        exact ⟨conns_ok_put h.conns ((h.conns c n hget).withPhase fun key payload hphase =>
          absurd hphase (interrupted_ne_broadcasting n.phase key payload)), trivial⟩

theorem delivery_shared (h : s.Ok max) {e : Event} {d : Delivery} (hd : s.delivery e = some d) :
    ∃ sender target nodeId, s.conns.get d.sender = some sender ∧ s.conns.get d.target = some target ∧
      s.connectedNodes.get nodeId = some d.target ∧ d.key ∈ sender.gridKeys ∧ d.key ∈ target.gridKeys := by
  cases e with
  | advance sent =>
    simp only [Hub.delivery] at hd
    split at hd
    next c key payload target todo dead hlock =>
      have hok := h.lock
      rw [hlock] at hok
      obtain ⟨⟨sender, hsender, hphase⟩, htodo⟩ := hok
      split at hd
      next hreach =>
        rw [hsender] at hd
        cases hd
        rw [Hub.reaches, hsender] at hreach
        split at hreach
        next s' receiver _ hreceiver =>
          rw [Bool.and_eq_true, decide_eq_true_eq] at hreach
          exact ⟨sender, receiver, target.1, hsender, hreceiver, htodo target (.head _),
            (h.conns c sender hsender).subscribed key payload hphase, of_decide_eq_true hreach.2⟩
        · cases hreach
      · cases hd
    · cases hd
  | connect | receive | drop | acquire | peerList | evict | cancel => simp [Hub.delivery] at hd

end Steps

/-- **Broadcasts stay within their key.** -/
theorem broadcasts_shared_and_keys_bounded (cfg : Config) (es : List Event) :
    (∀ c n, (run (Hub.step cfg) {} es).conns.get c = some n → n.gridKeys.card ≤ cfg.maxGridKeysPerNode) ∧
    ∀ pre e post, es = pre ++ e :: post → ∀ d, (run (Hub.step cfg) {} pre).delivery e = some d →
      ∃ sender target nodeId, (run (Hub.step cfg) {} pre).conns.get d.sender = some sender ∧
        (run (Hub.step cfg) {} pre).conns.get d.target = some target ∧
        (run (Hub.step cfg) {} pre).connectedNodes.get nodeId = some d.target ∧
        d.key ∈ sender.gridKeys ∧ d.key ∈ target.gridKeys := by
  have hstart : ({} : Hub).Ok cfg.maxGridKeysPerNode := by
    refine ⟨fun c n hget => ?_, trivial⟩
    cases hget
  have hok : ∀ fs, (run (Hub.step cfg) {} fs).Ok cfg.maxGridKeysPerNode :=
    fun fs => run_invariant_of_step (P := Hub.Ok cfg.maxGridKeysPerNode) (fun _ e h => step_ok h e) hstart fs
  refine ⟨fun c n hget => ((hok es).conns c n hget).bounded, ?_⟩
  intro pre e post _ d hd
  exact delivery_shared (hok pre) hd

end NexusGrid.Relay

import NexusGrid.Services.Access

/-! # The data plane of services

A consumer's local connection is carried to the provider's service by frames `svc_open`, `svc_data` and `svc_close`.
-/

namespace NexusGrid.Services

open Lib

inductive StreamRole
  | consumer
  | provider
deriving DecidableEq

/-- An entry of `_streams`, without the writer. -/
structure TunnelStream where
  role : StreamRole
  grantId : String
  peerId : String
  /-- The name of the `transform`, for the stream of a provider. -/
  pump : String
deriving DecidableEq

/-- An entry of `_consumer`. -/
structure ConsumerRecord where
  providerUuid : String
  bytes : Nat
  tunnelIds : List String
  /-- `listeners` is not empty. -/
  listening : Bool
deriving DecidableEq

/-- A call of `writer.write`. -/
structure SocketWrite where
  tunnelId : String
  stream : TunnelStream
  chunk : List UInt8
deriving DecidableEq

/-- A `svc_close` frame that was sent to a peer. -/
structure CloseNotice where
  peerId : String
  tunnelId : String
  reason : String
deriving DecidableEq

structure Tunnels where
  /-- `_streams`. -/
  streams : Table String TunnelStream
  /-- `_consumer`. -/
  consumers : Table String ConsumerRecord
  /-- Overwritten while their connection was open. -/
  orphans : List TunnelStream
  /-- What was written to local sockets so far. -/
  writes : List SocketWrite
  sent : List CloseNotice

namespace Tunnels

/-- `rec["tunnel_ids"].discard(tunnel_id)`. -/
def discard (consumers : Table String ConsumerRecord) (grantId tunnelId : String) : Table String ConsumerRecord :=
  match consumers.get grantId with
  | none => consumers
  | some rec => consumers.put grantId { rec with tunnelIds := rec.tunnelIds.erase tunnelId }

def shutdownStream (s : Tunnels) (tunnelId reason : String) (notify : Bool) : Tunnels :=
  match s.streams.get tunnelId with
  | none => s
  | some st =>
    { s with
      streams := s.streams.delete tunnelId
      consumers := discard s.consumers st.grantId tunnelId
      sent := if notify then s.sent ++ [⟨st.peerId, tunnelId, reason⟩] else s.sent }

/-- `_streams[tunnel_id] = ...`. -/
def register (s : Tunnels) (tunnelId : String) (st : TunnelStream) : Tunnels :=
  { s with
    streams := s.streams.put tunnelId st
    orphans := s.orphans ++ (s.streams.get tunnelId).toList }

/-- A `svc_close` frame to a peer that has no stream. -/
def refuse (s : Tunnels) (peerId tunnelId reason : String) : Tunnels :=
  { s with sent := s.sent ++ [⟨peerId, tunnelId, reason⟩] }

end Tunnels

/-- Where a service or a component of it listens. -/
structure Target where
  localHost : String
  localPort : Nat
  pump : String
deriving DecidableEq

/-- An item of `hosted_services`. -/
structure HostedService where
  name : String
  target : Target
  components : List (String × Target)
deriving DecidableEq

structure TunnelNode where
  host : Host
  hostedServices : List HostedService
  /-- `base64.b64decode`; `none` when it raises. -/
  b64decode : String → Option (List UInt8)
  /-- `transform("to_provider", chunk)`, `[]` for `None` too; `none` when it raises. -/
  transform : String → List UInt8 → Option (List UInt8)

inductive ServiceFrame
  | svcOpen (tunnelId grantId component : String)
  | svcData (tunnelId b64 : String)
  | svcClose (tunnelId reason : String)
deriving DecidableEq

section Handlers

variable (node : TunnelNode) (h : Holdings) (s : Tunnels)

/-- `_handle_open` up to the dial: the target to dial, or the reason of the refusal. -/
def openTarget (peerId grantId component : String) : Except String Target :=
  match h.grants.get grantId with
  | none => .error "denied"
  | some g =>
    if g.providerPubkey ≠ node.host.pubkey ∨ g.status ≠ "approved" ∨
        ((h.addresses.get grantId).getD {}).consumerUuid ≠ peerId then .error "denied"
    else match node.hostedServices.find? (·.name = g.serviceName) with
      | none => .error "no_target"
      | some svc =>
        match if component = "" then some svc.target else svc.components.lookup component with
        | none => .error "no_component"
        | some target =>
          if target.localPort = 0 then .error "no_target"
          else .ok {
            localHost := if target.localHost = "" then "127.0.0.1" else target.localHost
            localPort := target.localPort
            pump := if target.pump = "" then svc.target.pump else target.pump }

/-- `_handle_open` from the end of the dial on. -/
def openDialed (peerId tunnelId grantId : String) (target : Target) (connected : Bool) : Tunnels :=
  if connected then s.register tunnelId ⟨.provider, grantId, peerId, target.pump⟩
  else s.refuse peerId tunnelId "dial_failed"

/-- `_handle_open`, when nothing comes between the gate and the end of the dial. -/
def handleOpen (peerId tunnelId grantId component : String) (connected : Bool) : Tunnels :=
  if tunnelId = "" ∨ grantId = "" then s
  else match openTarget node h peerId grantId component with
    | .error reason => s.refuse peerId tunnelId reason
    | .ok target => openDialed s peerId tunnelId grantId target connected

/-- The bytes of a `svc_data` frame; `none` when decoding or the pump raises. -/
def payload (st : TunnelStream) (b64 : String) : Option (List UInt8) := (node.b64decode b64).bind fun chunk =>
    if st.role = .provider then node.transform st.pump chunk else some chunk

/-- `rec["bytes"] += len(chunk)`, for the stream of a consumer. -/
def Tunnels.countBytes (st : TunnelStream) (size : Nat) : Tunnels :=
  match st.role, s.consumers.get st.grantId with
  | .consumer, some rec => { s with consumers := s.consumers.put st.grantId { rec with bytes := rec.bytes + size } }
  | _, _ => s

/-- The branch `svc_data`. -/
def handleData (tunnelId b64 : String) (drains : Bool) : Tunnels :=
  match s.streams.get tunnelId with
  | none => s
  | some st =>
    match payload node st b64 with
    | none => s.shutdownStream tunnelId "write_err" true
    | some chunk =>
      -- only a provider's pump can drop a chunk
      if chunk = [] ∧ st.role = .provider then s
      else
        let s : Tunnels := { s with writes := s.writes ++ [⟨tunnelId, st, chunk⟩] }
        if drains then s.countBytes st chunk.length
        else s.shutdownStream tunnelId "write_err" true

def dispatchServiceFrame (peerId : String) (frame : ServiceFrame) (works : Bool) : Tunnels :=
  match frame with
  | .svcOpen tunnelId grantId component => handleOpen node h s peerId tunnelId grantId component works
  | .svcData tunnelId b64 => handleData node s tunnelId b64 works
  | .svcClose tunnelId _ => s.shutdownStream tunnelId "remote_close" false

end Handlers

section Registry

variable {node : TunnelNode} {s : Tunnels} {tunnelId tid : String}
  {st : TunnelStream}

theorem get_shutdownStream (s : Tunnels) (tunnelId reason : String) (notify : Bool) (tid : String) :
    (s.shutdownStream tunnelId reason notify).streams.get tid = if tid = tunnelId then none else s.streams.get tid := by
  unfold Tunnels.shutdownStream
  split
  case h_1 hnone =>
    split
    case isTrue heq => rw [heq, hnone]
    case isFalse => rfl
  case h_2 => exact Table.get_delete _ _ _

@[simp] theorem shutdownStream_writes (s : Tunnels) (tunnelId reason : String) (notify : Bool) :
    (s.shutdownStream tunnelId reason notify).writes = s.writes := by
  unfold Tunnels.shutdownStream
  split <;> rfl

@[simp] theorem shutdownStream_orphans (s : Tunnels) (tunnelId reason : String) (notify : Bool) :
    (s.shutdownStream tunnelId reason notify).orphans = s.orphans := by
  unfold Tunnels.shutdownStream
  split <;> rfl

@[simp] theorem countBytes_keeps (s : Tunnels) (st : TunnelStream) (size : Nat) :
    (s.countBytes st size).streams = s.streams ∧ (s.countBytes st size).writes = s.writes ∧
      (s.countBytes st size).orphans = s.orphans := by
  unfold Tunnels.countBytes
  split <;> exact ⟨rfl, rfl, rfl⟩

/-- A `svc_data` frame touches the stream of its id only. -/
theorem handleData_spec (node : TunnelNode) (s : Tunnels) (tunnelId b64 : String) (drains : Bool) :
    (handleData node s tunnelId b64 drains).orphans = s.orphans ∧
      (∀ tid st, (handleData node s tunnelId b64 drains).streams.get tid = some st → s.streams.get tid = some st) ∧
      (∀ tid, tid ≠ tunnelId → (handleData node s tunnelId b64 drains).streams.get tid = s.streams.get tid) ∧
      ((handleData node s tunnelId b64 drains).writes = s.writes ∨ ∃ st chunk, s.streams.get tunnelId = some st ∧
          (handleData node s tunnelId b64 drains).writes = s.writes ++ [⟨tunnelId, st, chunk⟩]) := by
  have hshut (s' : Tunnels) (hstreams : s'.streams = s.streams) :
      (∀ tid st, (s'.shutdownStream tunnelId "write_err" true).streams.get tid = some st →
        s.streams.get tid = some st) ∧
      (∀ tid, tid ≠ tunnelId → (s'.shutdownStream tunnelId "write_err" true).streams.get tid = s.streams.get tid) := by
    refine ⟨fun tid st hst => ?_, fun tid hne => ?_⟩
    · rw [get_shutdownStream, hstreams] at hst
      split at hst
      · cases hst
      · exact hst
    · rw [get_shutdownStream, if_neg hne, hstreams]
  unfold handleData
  split
  case h_1 => exact ⟨rfl, fun _ _ hst => hst, fun _ _ => rfl, .inl rfl⟩
  case h_2 st hst =>
    split
    case h_1 =>
      obtain ⟨hsub, hrest⟩ := hshut s rfl
      exact ⟨shutdownStream_orphans .., hsub, hrest, .inl (shutdownStream_writes ..)⟩
    case h_2 chunk _ =>
      split
      · exact ⟨rfl, fun _ _ hst => hst, fun _ _ => rfl, .inl rfl⟩
      split
      · rw [(countBytes_keeps ..).2.2, (countBytes_keeps ..).1, (countBytes_keeps ..).2.1]
        exact ⟨rfl, fun _ _ hst => hst, fun _ _ => rfl, .inr ⟨st, chunk, hst, rfl⟩⟩
      obtain ⟨hsub, hrest⟩ := hshut { s with writes := s.writes ++ [⟨tunnelId, st, chunk⟩] } rfl
      rw [shutdownStream_orphans, shutdownStream_writes]
      exact ⟨rfl, hsub, hrest, .inr ⟨st, chunk, hst, rfl⟩⟩

end Registry

/-- No stream of a peer other than `q` was written to, closed or replaced. -/
def Spares (q : String) (s s' : Tunnels) : Prop :=
  (∀ tid st, s.streams.get tid = some st → st.peerId ≠ q → s'.streams.get tid = some st) ∧
    ∃ new, s'.writes = s.writes ++ new ∧ ∀ w ∈ new, w.stream.peerId = q

/-- The id is free or of a stream with the sender, or the frame does nothing. -/
def FindsOwnStream (node : TunnelNode) (h : Holdings) (s : Tunnels) (q : String) (works : Bool) : ServiceFrame → Prop
  | .svcOpen tunnelId grantId component =>
    (∀ st ∈ s.streams.get tunnelId, st.peerId = q) ∨ tunnelId = "" ∨ grantId = "" ∨
      works = false ∨ (openTarget node h q grantId component).isOk = false
  | .svcData tunnelId b64 =>
    ∀ st ∈ s.streams.get tunnelId, st.peerId = q ∨ payload node st b64 = some [] ∧ st.role = .provider
  | .svcClose tunnelId _ => ∀ st ∈ s.streams.get tunnelId, st.peerId = q

section Isolation

variable {node : TunnelNode} {h : Holdings} {s s' : Tunnels} {q tunnelId : String} {works : Bool}

theorem Spares.of_eq (hstreams : s'.streams = s.streams) (hwrites : s'.writes = s.writes) : Spares q s s' := by
  refine ⟨fun tid st hst _ => ?_, [], ?_, ?_⟩
  · rw [hstreams, hst]
  · rw [hwrites, List.append_nil]
  · exact fun w hw => absurd hw List.not_mem_nil

theorem Spares.of_own (hown : ∀ st ∈ s.streams.get tunnelId, st.peerId = q)
    (hrest : ∀ tid, tid ≠ tunnelId → s'.streams.get tid = s.streams.get tid) (hwrites : s'.writes = s.writes ∨
      ∃ st chunk, s.streams.get tunnelId = some st ∧
        s'.writes = s.writes ++ [⟨tunnelId, st, chunk⟩]) : Spares q s s' := by
  refine ⟨fun tid st hst hother => ?_, ?_⟩
  · by_cases htid : tid = tunnelId
    · subst htid
      exact absurd (hown st hst) hother
    · rw [hrest tid htid, hst]
  rcases hwrites with hsame | ⟨st, chunk, hst, hnew⟩
  · exact ⟨[], by rw [hsame, List.append_nil], fun w hw => absurd hw List.not_mem_nil⟩
  refine ⟨_, hnew, fun w hw => ?_⟩
  rw [List.mem_singleton.mp hw]
  exact hown st hst

theorem Spares.peer_of_gone (hspares : Spares q s s') {st : TunnelStream}
    (hst : s.streams.get tunnelId = some st) (hgone : s'.streams.get tunnelId ≠ some st) : st.peerId = q := by
  by_contra hother
  exact hgone (hspares.1 tunnelId st hst hother)

theorem Spares.peer_of_written (hspares : Spares q s s') {w : SocketWrite}
    (hw : s'.writes = s.writes ++ [w]) : w.stream.peerId = q := by
  obtain ⟨new, hnew, hall⟩ := hspares.2
  rw [hw] at hnew
  rw [← List.append_cancel_left hnew] at hall
  exact hall w (List.mem_singleton_self w)

theorem shutdownStream_spares_iff (reason : String) (notify : Bool) :
    Spares q s (s.shutdownStream tunnelId reason notify) ↔ ∀ st ∈ s.streams.get tunnelId, st.peerId = q := by
  constructor
  · intro hspares st hst
    refine hspares.peer_of_gone hst ?_
    rw [get_shutdownStream, if_pos rfl]
    exact nofun
  intro hown
  refine .of_own hown (fun tid hne => ?_) (.inl (shutdownStream_writes ..))
  rw [get_shutdownStream, if_neg hne]

theorem register_spares_iff {st : TunnelStream} (hst : st.peerId = q) :
    Spares q s (s.register tunnelId st) ↔ ∀ old ∈ s.streams.get tunnelId, old.peerId = q := by
  constructor
  · intro hspares old hold
    by_contra hother
    have hkept : (s.streams.put tunnelId st).get tunnelId = some old := hspares.1 tunnelId old hold hother
    rw [Table.get_put_self] at hkept
    exact hother (Option.some.inj hkept ▸ hst)
  · intro hown
    exact .of_own hown (fun tid hne => Table.get_put_ne _ _ hne) (.inl rfl)

theorem handleOpen_spares_iff (grantId component : String) :
    Spares q s (handleOpen node h s q tunnelId grantId component works) ↔
      FindsOwnStream node h s q works (.svcOpen tunnelId grantId component) := by
  unfold handleOpen
  dsimp only [FindsOwnStream]
  split
  case isTrue hempty =>
    refine iff_of_true (.of_eq rfl rfl) (.inr ?_)
    exact hempty.elim .inl fun hgrant => .inr (.inl hgrant)
  case isFalse hnames =>
    rw [not_or] at hnames
    split
    case h_1 reason hrefused =>
      refine iff_of_true (.of_eq rfl rfl) ?_
      rw [hrefused]
      exact .inr (.inr (.inr (.inr rfl)))
    case h_2 target haccepted =>
      cases works with
      | false => exact iff_of_true (.of_eq rfl rfl) (.inr (.inr (.inr (.inl rfl))))
      | true =>
        rw [openDialed, if_pos rfl, register_spares_iff (q := q) rfl, haccepted]
        simp [hnames, Except.isOk, Except.toBool]

theorem handleData_spares_iff (b64 : String) : Spares q s (handleData node s tunnelId b64 works) ↔
      FindsOwnStream node h s q works (.svcData tunnelId b64) := by
  obtain ⟨-, -, hrest, hwrites⟩ := handleData_spec node s tunnelId b64 works
  constructor
  · intro hspares st hst
    have hst' : s.streams.get tunnelId = some st := hst
    unfold handleData at hspares
    simp only [hst'] at hspares
    split at hspares
    case h_1 => exact .inl ((shutdownStream_spares_iff ..).mp hspares st hst)
    case h_2 chunk hchunk =>
      split at hspares
      case isTrue hdropped => exact .inr ⟨hdropped.1 ▸ hchunk, hdropped.2⟩
      case isFalse =>
        refine .inl (hspares.peer_of_written (w := ⟨tunnelId, st, chunk⟩) ?_)
        split
        · exact (countBytes_keeps ..).2.1
        · exact shutdownStream_writes ..
  · intro hcond
    cases hst : s.streams.get tunnelId with
    | none =>
      refine .of_own (fun st hmem => ?_) hrest hwrites
      rw [hst] at hmem
      cases hmem
    | some st =>
      rcases hcond st hst with hown | ⟨hempty, hrole⟩
      · refine .of_own (fun st' hmem => ?_) hrest hwrites
        cases hst.symm.trans hmem
        exact hown
      have hdropped : handleData node s tunnelId b64 works = s := by
        simp only [handleData, hst, hempty, hrole, and_self, if_true]
      rw [hdropped]
      exact .of_eq rfl rfl

end Isolation

/-- **Which frames spare the streams of other peers.** -/
theorem service_frame_spares_iff (node : TunnelNode) (h : Holdings) (s : Tunnels) (q : String)
    (frame : ServiceFrame) (works : Bool) : Spares q s (dispatchServiceFrame node h s q frame works) ↔
      FindsOwnStream node h s q works frame := by
  cases frame with
  | svcOpen tunnelId grantId component => exact handleOpen_spares_iff grantId component
  | svcData tunnelId b64 => exact handleData_spares_iff b64
  | svcClose tunnelId reason => exact shutdownStream_spares_iff ..

/-- The node of `alice` with its service `db`, and no pump of its own. -/
def exampleNode : TunnelNode where
  host := ⟨"alice", "a", fun _ _ => true, fun _ => some "free"⟩
  hostedServices := [⟨"db", ⟨"", 5432, ""⟩, []⟩]
  b64decode := fun b64 => some (b64.toList.map fun c => UInt8.ofNat c.toNat)
  transform := fun _ chunk => some chunk

def exampleHoldings : Holdings :=
  ⟨Table.put ∅ "g" ⟨"db", "alice", "bob", "approved", "2026-01-01"⟩, Table.put ∅ "g" ⟨"a", "b", "free", "2026-01-01"⟩⟩

/-- **Any peer can write into a stream and close it.** -/
theorem stranger_writes_and_closes :
    let st : TunnelStream := ⟨.provider, "g", "b", ""⟩
    let s : Tunnels := ⟨Table.put ∅ "t" st, ∅, [], [], []⟩
    let s₁ := dispatchServiceFrame exampleNode exampleHoldings s "m" (.svcData "t" "x") true
    let s₂ := dispatchServiceFrame exampleNode exampleHoldings s "m" (.svcClose "t" "") true
    s₁.writes = [⟨"t", st, [120]⟩] ∧ s₂.streams.get "t" = none ∧ ¬Spares "m" s s₁ ∧ ¬Spares "m" s s₂ := by
  intro st s s₁ s₂
  refine ⟨by decide +kernel, by decide +kernel, fun hspares => ?_, fun hspares => ?_⟩
  · have hpeer := hspares.peer_of_written (w := ⟨"t", st, [120]⟩) (by decide +kernel)
    exact absurd hpeer (by decide)
  have hst : s.streams.get "t" = some st := rfl
  have hpeer := hspares.peer_of_gone hst (by decide +kernel)
  exact absurd hpeer (by decide)

end NexusGrid.Services

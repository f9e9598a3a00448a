import NexusGrid.Networking.Tunnel

/-! # Service tasks on a worker

A worker runs a service task for the master it pulled the task from, and keeps a record of it in
`STATE.service_records`.

Frames come over the connections of `recv_dispatch` and over the relay. They start, stop and promote
services and open tunnels to them, and each is checked against the master on record or against none.
-/

namespace NexusGrid.Networking

open Lib

/-! ## The state of a worker -/

structure Manifest where
  exposePorts : List Int
  sharedTunnel : Bool
deriving DecidableEq

/-- An entry of `STATE.service_records`. -/
structure ServiceRecord where
  masterIp : String
  exposePorts : List Int
  sharedTunnel : Bool
  /-- `stop_reason`, once the status is `stopped`. -/
  stopReason : Option String
deriving DecidableEq

/-- An entry of `STATE.service_standbys`. -/
structure Standby where
  manifest : Manifest
  masterIp : String
deriving DecidableEq

/-- A `start_service` under way. -/
structure Starting where
  taskId : String
  manifest : Manifest
  masterIp : String
  /-- Whether `promote_standby` has called it. -/
  promotion : Bool
deriving DecidableEq

/-- A `handle_worker_tunnel_open` that waits for its connection to the container. -/
structure TaskDial where
  peerId : String
  tunnelId : String
  taskId : String
  hostPort : Nat
deriving DecidableEq

structure Datagram where
  peerId : String
  taskId : String
  hostPort : Nat
  payload : List UInt8
deriving DecidableEq

structure Worker where
  records : Table String ServiceRecord
  portMappings : Table String (Table Int Nat)
  standbys : Table String Standby
  depGrants : List (String × String)
  /-- The keys of `STATE.running_task_containers`. -/
  containers : List String
  starting : List Starting
  dialing : List TaskDial
  registry : Registry
  datagrams : List Datagram

namespace Worker

def init : Worker where
  records := ∅
  portMappings := ∅
  standbys := ∅
  depGrants := []
  containers := []
  starting := []
  dialing := []
  registry := ⟨[], [], [], []⟩
  datagrams := []

def peerOwnsService (w : Worker) (peerId taskId : String) : Bool :=
  match w.records.get taskId with
  | none => false
  | some record => record.masterIp = peerId || w.depGrants.contains (taskId, peerId) || record.sharedTunnel

def hostPort (w : Worker) (taskId : String) (port : Int) : Option Nat :=
  ((w.portMappings.get taskId).bind (·.get port)).filter (· ≠ 0)

/-! ## The handlers -/

/-- `handle_worker_tunnel_open` up to the dial. -/
def handleWorkerTunnelOpen (w : Worker) (peerId tunnelId taskId : String) (port : Int) : Worker :=
  if !w.peerOwnsService peerId taskId then
    { w with registry := w.registry.sendClose peerId tunnelId "unauthorized_owner" }
  else match w.hostPort taskId port with
    | none => { w with registry := w.registry.sendClose peerId tunnelId "no_port" }
    | some hostPort => { w with dialing := w.dialing ++ [⟨peerId, tunnelId, taskId, hostPort⟩] }

def registerStream (tunnels : List TaskTunnel) (tunnelId : String) (st : TaskStream) : List TaskTunnel :=
  if tunnels.any (·.taskId = st.taskId) then
    tunnels.map fun t =>
      if t.taskId = st.taskId then { t with streams := t.streams.put tunnelId st } else t
  else tunnels ++ [⟨st.taskId, st.peerId, Table.put ∅ tunnelId st, none⟩]

/-- The rest of `handle_worker_tunnel_open`. -/
def tunnelDialed (w : Worker) (d : TaskDial) (connected : Bool) : Worker :=
  if connected then
    { w with registry := { w.registry with
        tunnels := registerStream w.registry.tunnels d.tunnelId ⟨.worker, d.taskId, d.peerId, true⟩ } }
  else { w with registry := w.registry.sendClose d.peerId d.tunnelId "dial_failed" }

/-- `handle_worker_tunnel_udp_send`, without the reply. -/
def handleWorkerTunnelUdpSend (b64decode : String → Option (List UInt8)) (w : Worker)
    (peerId udpId taskId : String) (port : Int) (b64 : String) : Worker :=
  if udpId = "" ∨ taskId = "" ∨ port = 0 then w
  else if !w.peerOwnsService peerId taskId then w
  else match w.hostPort taskId port, decodeDataFrame b64decode b64 with
    | some hostPort, some payload => { w with datagrams := w.datagrams ++ [⟨peerId, taskId, hostPort, payload⟩] }
    | _, _ => w

def stopService (w : Worker) (taskId reason : String) : Worker :=
  match w.records.get taskId with
  | none => w
  | some record =>
    { w with
      records := w.records.put taskId { record with stopReason := some reason }
      portMappings := w.portMappings.delete taskId
      containers := w.containers.filter (· ≠ taskId) }

/-- `prepare_standby`, without the image. -/
def prepareStandby (w : Worker) (taskId : String) (manifest : Manifest) (masterIp : String) : Worker :=
  { w with standbys := w.standbys.put taskId ⟨manifest, masterIp⟩ }

/-- `promote_standby` up to `start_with_snapshot`. -/
def promoteStandby (w : Worker) (taskId : String) : Worker :=
  match w.standbys.get taskId with
  | none => w
  | some standby => { w with starting := w.starting ++ [⟨taskId, standby.manifest, standby.masterIp, true⟩] }

/-- The end of `start_service`: the port map that Docker has bound, or an error. -/
def serviceStarted (w : Worker) (st : Starting) (ports : Option (Table Int Nat)) : Worker :=
  match ports with
  | none => w
  | some ports =>
    { w with
      records := w.records.put st.taskId
        ⟨st.masterIp, st.manifest.exposePorts, st.manifest.sharedTunnel, none⟩
      portMappings := w.portMappings.put st.taskId ports
      containers := st.taskId :: w.containers.filter (· ≠ st.taskId)
      standbys := if st.promotion then w.standbys.delete st.taskId else w.standbys }

/-- `service_dep_grant`. -/
def depGrant (w : Worker) (taskId : String) (peers : List String) : Worker :=
  let new := peers.filter fun p => p ≠ "" ∧ (taskId, p) ∉ w.depGrants
  { w with depGrants := w.depGrants ++ new.map (taskId, ·) }

/-- `reroute_tunnel` on one entry: the streams go, and their old peer is told. -/
def rerouteTunnel (s : Registry) (old : TaskTunnel) (newPeerId : String) : Registry :=
  let tunnels := s.tunnels.map fun t =>
    if t.taskId = old.taskId then { t with peerId := newPeerId, streams := ∅ } else t
  old.streams.rows.foldl (fun s row =>
    let s := if old.peerId = "" then s else s.sendClose old.peerId row.1 "rerouted"
    s.closeStream row.1 row.2.side row.2 "rerouted") { s with tunnels }

/-- `ensure_local_listeners` for one port: `bound` is the port of the new listener. -/
def listen (tunnels : List TaskTunnel) (taskId peerId : String) (bound : Nat) : List TaskTunnel :=
  if tunnels.any (·.taskId = taskId) then
    tunnels.map fun t => if t.taskId = taskId then { t with peerId, server := some bound } else t
  else tunnels ++ [⟨taskId, peerId, ∅, some bound⟩]

def ensureDependencyTunnel (w : Worker) (taskId primary : String) (port : Int) (bound : Option Nat) : Worker :=
  let record := (w.records.get taskId).getD ⟨"", [port], false, none⟩
  let w := { w with records := w.records.put taskId { record with exposePorts := [port] } }
  match w.registry.tunnels.find? fun t => t.taskId = taskId ∧ t.server.isSome with
  | some old =>
    if old.peerId = primary then w
    else { w with registry := rerouteTunnel w.registry old primary }
  | none =>
    match bound with
    | none => w
    | some bound =>
      { w with registry := { w.registry with
          tunnels := listen w.registry.tunnels taskId primary bound } }

/-- `_master_handle_local_client`: a local program connects to a listener of this node. -/
def localClient (w : Worker) (taskId peerId tunnelId : String) : Worker :=
  if w.registry.tunnels.any (·.taskId = taskId) then
    { w with registry := { w.registry with
        tunnels := registerStream w.registry.tunnels tunnelId ⟨.master, taskId, peerId, true⟩ } }
  else w

end Worker

/-! ## Dispatch and steps -/

inductive WorkerFrame
  | tunnelOpen (tunnelId taskId : String) (port : Int)
  | tunnelUdpSend (udpId taskId : String) (port : Int) (b64 : String)
  | stream (frame : StreamFrame)
  | serviceStop (taskId reason : String)
  | servicePrepareStandby (taskId : String) (manifest : Manifest)
  | servicePromoteWithSnapshot (taskId : String)
  | serviceDepGrant (taskId : String) (peers : List String)
  | serviceDepChanged (taskId primary : String) (port : Int)
deriving DecidableEq

structure Sockets where
  drains : Bool
  bound : Option Nat
deriving DecidableEq

namespace Worker

/-- The branches of `recv_dispatch`, which `_handle_relay_message` repeats. -/
def recvDispatch (b64decode : String → Option (List UInt8)) (w : Worker) (peerId : String)
    (io : Sockets) : WorkerFrame → Worker
  | .stream _ => w
  | .tunnelOpen tunnelId taskId port => w.handleWorkerTunnelOpen peerId tunnelId taskId port
  | .tunnelUdpSend udpId taskId port b64 => handleWorkerTunnelUdpSend b64decode w peerId udpId taskId port b64
  | .serviceStop taskId reason => if taskId = "" then w else w.stopService taskId reason
  | .servicePrepareStandby taskId manifest =>
    if taskId = "" then w else w.prepareStandby taskId manifest peerId
  | .servicePromoteWithSnapshot taskId => if taskId = "" then w else w.promoteStandby taskId
  | .serviceDepGrant taskId peers => if taskId = "" then w else w.depGrant taskId peers
  | .serviceDepChanged taskId primary port =>
    if taskId = "" ∨ primary = "" ∨ port = 0 then w
    else w.ensureDependencyTunnel taskId primary port io.bound

/-- One frame. -/
def dispatch (b64decode : String → Option (List UInt8)) (w : Worker) (via : Transport)
    (peerId : String) (frame : WorkerFrame) (io : Sockets) : Worker :=
  match frame with
  | .stream frame => { w with registry := dispatchStreamFrame b64decode w.registry via frame io.drains }
  | frame => if via = .inbound then w else recvDispatch b64decode w peerId io frame

inductive Event
  | frame (via : Transport) (peerId : String) (frame : WorkerFrame) (io : Sockets)
  | execute (taskId : String) (manifest : Manifest) (masterIp : String)
  /-- Start number `i` ends. -/
  | started (i : Nat) (ports : Option (Table Int Nat))
  /-- Dial number `i` ends. -/
  | dialed (i : Nat) (connected : Bool)
  /-- `service_watchdog` stops a service. -/
  | watchdog (taskId reason : String)
  | localClient (taskId peerId tunnelId : String)
  | pumpEnd (side : Side) (tunnelId : String)

def step (b64decode : String → Option (List UInt8)) (w : Worker) : Event → Worker
  | .frame via peerId frame io => dispatch b64decode w via peerId frame io
  | .execute taskId manifest masterIp => { w with starting := w.starting ++ [⟨taskId, manifest, masterIp, false⟩] }
  | .started i ports =>
    match w.starting[i]? with
    | none => w
    | some st => serviceStarted { w with starting := w.starting.eraseIdx i } st ports
  | .dialed i connected =>
    match w.dialing[i]? with
    | none => w
    | some d => tunnelDialed { w with dialing := w.dialing.eraseIdx i } d connected
  | .watchdog taskId reason => w.stopService taskId reason
  | .localClient taskId peerId tunnelId => w.localClient taskId peerId tunnelId
  | .pumpEnd side tunnelId =>
    { w with registry := { w.registry with tunnels := dropStream tunnelId side w.registry.tunnels } }

/-! ## Who is let in -/

def Event.AsksFor (p t : String) : Event → Prop
  | .frame via q (.tunnelOpen _ taskId _) _ => via ≠ .inbound ∧ q = p ∧ taskId = t
  | .frame via q (.tunnelUdpSend _ taskId _ _) _ => via ≠ .inbound ∧ q = p ∧ taskId = t
  | _ => False

/-- The master has sent a grant for `p`. -/
def GrantSent (M t p : String) (es : List Event) : Prop :=
  ∃ via peers io, .frame via M (.serviceDepGrant t peers) io ∈ es ∧ p ∈ peers

/-- `p` has a tunnel to the container of the service, or has sent it a datagram. -/
def Reached (w : Worker) (p t : String) : Prop :=
  (∃ i tid st, streamAt w.registry.tunnels i tid = some st ∧ st.side = .worker ∧ st.taskId = t ∧ st.peerId = p) ∨
  ∃ d ∈ w.datagrams, d.taskId = t ∧ d.peerId = p

def Shared (w : Worker) (t : String) : Prop := ∃ r ∈ w.records.get t, r.sharedTunnel = true

section Run

variable (b64decode : String → Option (List UInt8))

/-- `p` asked to be let in when it was granted, or the service was shared. -/
def LetIn (M t : String) (es : List Event) (p : String) : Prop := ∃ pre e post, es = pre ++ e :: post ∧ e.AsksFor p t ∧
    (GrantSent M t p pre ∨ Shared (run (step b64decode) init pre) t)

end Run

/-- `t` runs for `M`, and others' stops and grants find nothing to change. -/
def Proper (M t : String) (w : Worker) : Event → Prop
  | .frame via q (.serviceStop taskId _) _ => via ≠ .inbound → taskId = t → q = M ∨ w.records.get t = none
  | .frame via q (.serviceDepGrant taskId peers) _ =>
    via ≠ .inbound → taskId = t → q = M ∨ ∀ p ∈ peers, p ≠ "" → (t, p) ∈ w.depGrants
  | .frame via _ (.servicePromoteWithSnapshot taskId) _ =>
    via ≠ .inbound → taskId = t → ∀ sb ∈ w.standbys.get t, sb.masterIp = M
  | .execute taskId _ masterIp => taskId = t → masterIp = M
  | _ => True

/-! ## Steps that let nobody in -/

/-- Every stream of the registry is a `P`. -/
def AllStreams (P : TaskStream → Prop) (tunnels : List TaskTunnel) : Prop :=
  ∀ i tid st, streamAt tunnels i tid = some st → P st

section Streams

variable {P : TaskStream → Prop} {tunnels : List TaskTunnel}

theorem AllStreams.dropStream (h : AllStreams P tunnels) (tunnelId : String) (side : Side) :
    AllStreams P (dropStream tunnelId side tunnels) :=
  fun i tid st hst => h i tid st (streamAt_of_dropStream hst)

theorem AllStreams.map (h : AllStreams P tunnels) {f : TaskTunnel → TaskTunnel}
    (hf : ∀ t tid st, (f t).streams.get tid = some st → P st ∨ t.streams.get tid = some st) :
    AllStreams P (tunnels.map f) := by
  intro i tid st hst
  unfold streamAt at hst
  rw [List.getElem?_map] at hst
  cases ht : tunnels[i]? with
  | none =>
    rw [ht] at hst
    cases hst
  | some t =>
    rw [ht] at hst
    rcases hf t tid st hst with hP | hold
    · exact hP
    · exact h i tid st (by rw [streamAt, ht]; exact hold)

theorem AllStreams.concat (h : AllStreams P tunnels) {t : TaskTunnel}
    (ht : ∀ tid st, t.streams.get tid = some st → P st) : AllStreams P (tunnels ++ [t]) := by
  intro i tid st hst
  unfold streamAt at hst
  rw [List.getElem?_append] at hst
  split at hst
  · exact h i tid st hst
  rw [List.getElem?_singleton] at hst
  split at hst
  · exact ht tid st hst
  · cases hst

theorem AllStreams.registerStream (h : AllStreams P tunnels) {st : TaskStream} (hst : P st)
    (tunnelId : String) : AllStreams P (registerStream tunnels tunnelId st) := by
  have hput (streams : Table String TaskStream) (tid : String) (st' : TaskStream)
      (hget : (streams.put tunnelId st).get tid = some st') : P st' ∨ streams.get tid = some st' := by
    rw [Table.get_put] at hget
    split at hget
    · left
      rwa [← Option.some.inj hget]
    · exact .inr hget
  unfold Worker.registerStream
  split
  · refine h.map fun t tid st' hget => ?_
    split at hget
    · exact hput t.streams tid st' hget
    · exact .inr hget
  refine h.concat fun tid st' hget => ?_
  rcases hput ∅ tid st' hget with hP | hnone
  · exact hP
  rw [Table.get_empty] at hnone
  cases hnone

variable {s : Registry}

section

variable (h : AllStreams P s.tunnels)
include h

theorem AllStreams.closeStream (tunnelId : String) (side : Side) (st : TaskStream) (reason : String) :
    AllStreams P (s.closeStream tunnelId side st reason).tunnels := by
  unfold Registry.closeStream
  split
  · exact h.dropStream tunnelId side
  · exact h

theorem AllStreams.close (tunnelId : String)
    (side : Side) (st : TaskStream) (reason : String) : AllStreams P (s.close tunnelId side st reason).tunnels :=
  (h.closeStream tunnelId side st reason).dropStream tunnelId side

theorem AllStreams.handleTunnelClose (side : Side) (tunnelId reason : String) :
    AllStreams P (s.handleTunnelClose side tunnelId reason).tunnels := by
  unfold Registry.handleTunnelClose
  split
  · exact h
  · exact h.close _ _ _ _

theorem AllStreams.handleTunnelData (b64decode : String → Option (List UInt8)) (side : Side)
    (tunnelId b64 : String) (drains : Bool) :
    AllStreams P (Registry.handleTunnelData b64decode s side tunnelId b64 drains).tunnels := by
  unfold Registry.handleTunnelData
  split
  · split
    · exact h
    · exact AllStreams.close h _ _ _ "write_error"
  · exact h

theorem AllStreams.dispatchStreamFrame (b64decode : String → Option (List UInt8)) (via : Transport)
    (frame : StreamFrame) (drains : Bool) :
    AllStreams P (dispatchStreamFrame b64decode s via frame drains).tunnels := by
  unfold Networking.dispatchStreamFrame
  split
  · exact h.handleTunnelData b64decode _ _ _ _
  · exact h.handleTunnelClose _ _ _
  · exact h.handleTunnelData b64decode _ _ _ _
  · exact h.handleTunnelClose _ _ _
  · split
    · exact h.handleTunnelData b64decode _ _ _ _
    · exact h.handleTunnelData b64decode _ _ _ _
  · exact (h.handleTunnelClose _ _ _).handleTunnelClose _ _ _

theorem AllStreams.rerouteTunnel (old : TaskTunnel)
    (newPeerId : String) : AllStreams P (rerouteTunnel s old newPeerId).tunnels := by
  have hcleared : AllStreams P (s.tunnels.map fun t =>
      if t.taskId = old.taskId then { t with peerId := newPeerId, streams := ∅ } else t) := by
    refine h.map fun t tid st hget => ?_
    split at hget
    · rw [Table.get_empty] at hget
      cases hget
    · exact .inr hget
  -- one stream of the old entry is closed after the other
  refine run_invariant_of_step (P := fun s : Registry => AllStreams P s.tunnels) (fun s row hs => ?_) hcleared
    old.streams.rows
  apply AllStreams.closeStream
  split
  · exact hs
  · exact hs

end

theorem AllStreams.listen (h : AllStreams P tunnels) (taskId peerId : String) (bound : Nat) :
    AllStreams P (listen tunnels taskId peerId bound) := by
  unfold Worker.listen
  split
  · refine h.map fun t tid st hget => ?_
    split at hget
    · exact .inr hget
    · exact .inr hget
  refine h.concat fun tid st hget => ?_
  cases hget

end Streams

/-- Nothing was added that bears on who gets to the service `t`. -/
structure Keeps (t : String) (w w' : Worker) : Prop where
  ports : (w'.portMappings.get t).isSome → (w.portMappings.get t).isSome
  records : ∀ r ∈ w.records.get t, ∃ r' ∈ w'.records.get t, r'.masterIp = r.masterIp
  starting : w'.starting ⊆ w.starting
  grants : ∀ p, (t, p) ∈ w'.depGrants → (t, p) ∈ w.depGrants
  dialing : w'.dialing ⊆ w.dialing
  streams : ∀ P : TaskStream → Prop, (∀ st, st.side = .master → P st) →
    AllStreams P w.registry.tunnels → AllStreams P w'.registry.tunnels
  datagrams : w'.datagrams ⊆ w.datagrams

section Keeps

variable {t : String} {w : Worker}

theorem Keeps.refl (t : String) (w : Worker) : Keeps t w w where
  ports h := h
  records r hr := ⟨r, hr, rfl⟩
  starting := .refl _
  grants _ h := h
  dialing := .refl _
  streams _ _ h := h
  datagrams := .refl _

theorem keeps_registry {registry : Registry} (h : ∀ P : TaskStream → Prop, (∀ st, st.side = .master → P st) →
      AllStreams P w.registry.tunnels → AllStreams P registry.tunnels) : Keeps t w { w with registry } :=
  { Keeps.refl t w with streams := h }

theorem sendClose_keeps (t : String) (w : Worker) (peerId tunnelId reason : String) :
    Keeps t w { w with registry := w.registry.sendClose peerId tunnelId reason } :=
  keeps_registry fun _ _ h => h

theorem stopService_keeps (t : String) (w : Worker) (taskId reason : String) :
    Keeps t w (w.stopService taskId reason) := by
  unfold stopService
  split
  case h_1 => exact .refl t w
  case h_2 record hrecord =>
    refine { Keeps.refl t w with ports := fun h => ?_, records := fun r hr => ?_ }
    · rw [Table.get_delete] at h
      split at h
      · cases h
      · exact h
    rw [Table.get_put]
    split
    case isTrue heq =>
      rw [heq, Option.mem_def, hrecord] at hr
      cases hr
      exact ⟨_, rfl, rfl⟩
    case isFalse => exact ⟨r, hr, rfl⟩

theorem ensureDependencyTunnel_keeps (t : String) (w : Worker) (taskId primary : String) (port : Int)
    (bound : Option Nat) : Keeps t w (w.ensureDependencyTunnel taskId primary port bound) := by
  -- the record keeps its master, whatever the ports
  have hrecords (r : ServiceRecord) (hr : r ∈ w.records.get t) : ∃ r' ∈ (w.records.put taskId
      { (w.records.get taskId).getD ⟨"", [port], false, none⟩ with exposePorts := [port] }).get t,
      r'.masterIp = r.masterIp := by
    rw [Table.get_put]
    split
    case isTrue heq =>
      rw [heq, Option.mem_def] at hr
      refine ⟨_, rfl, ?_⟩
      rw [hr, Option.getD_some]
    case isFalse => exact ⟨r, hr, rfl⟩
  unfold ensureDependencyTunnel
  dsimp only
  split
  · split
    · exact { Keeps.refl t w with records := hrecords }
    exact { Keeps.refl t w with
      records := hrecords
      streams := fun _ _ h => h.rerouteTunnel _ primary }
  split
  · exact { Keeps.refl t w with records := hrecords }
  exact { Keeps.refl t w with
    records := hrecords
    streams := fun _ _ h => h.listen taskId primary _ }

theorem localClient_keeps (t : String) (w : Worker) (taskId peerId tunnelId : String) :
    Keeps t w (w.localClient taskId peerId tunnelId) := by
  unfold localClient
  split
  · exact keeps_registry fun P hmaster h => h.registerStream (hmaster _ rfl) tunnelId
  · exact .refl t w

theorem depGrant_keeps {taskId : String} {peers : List String}
    (h : taskId = t → ∀ p ∈ peers, p ≠ "" → (t, p) ∈ w.depGrants) : Keeps t w (w.depGrant taskId peers) := by
  refine { Keeps.refl t w with grants := fun p hp => ?_ }
  unfold depGrant at hp
  simp only [List.mem_append, List.mem_map, List.mem_filter, decide_eq_true_eq, Prod.mk.injEq] at hp
  rcases hp with hold | ⟨p', ⟨hmem, hne, hnew⟩, htask, rfl⟩
  · exact hold
  subst htask
  exact h rfl p' hmem hne

end Keeps

/-! ## Whole runs -/

section Run

variable {b64decode : String → Option (List UInt8)} {M t p : String} {es : List Event} {w w' : Worker}
  {e : Event}

/-- What ties a worker to the frames it has got, for the service `t` of `M`. -/
structure Ruled (b64decode : String → Option (List UInt8)) (M t : String) (es : List Event)
    (w : Worker) : Prop where
  ports : (w.portMappings.get t).isSome → ∃ r ∈ w.records.get t, r.masterIp = M
  starting : ∀ st ∈ w.starting, st.taskId = t → st.masterIp = M
  grants : ∀ p, (t, p) ∈ w.depGrants → GrantSent M t p es
  dialing : ∀ d ∈ w.dialing, d.taskId = t → d.peerId ≠ M → LetIn b64decode M t es d.peerId
  streams : AllStreams (fun st => st.side = .worker → st.taskId = t → st.peerId ≠ M →
    LetIn b64decode M t es st.peerId) w.registry.tunnels
  datagrams : ∀ d ∈ w.datagrams, d.taskId = t → d.peerId ≠ M → LetIn b64decode M t es d.peerId

theorem GrantSent.concat (h : GrantSent M t p es) (e : Event) : GrantSent M t p (es ++ [e]) := by
  obtain ⟨via, peers, io, hmem, hp⟩ := h
  exact ⟨via, peers, io, List.mem_append_left _ hmem, hp⟩

theorem LetIn.concat (h : LetIn b64decode M t es p) (e : Event) : LetIn b64decode M t (es ++ [e]) p := by
  obtain ⟨pre, asked, post, rfl, hasks, hwhy⟩ := h
  exact ⟨pre, asked, post ++ [e], by simp, hasks, hwhy⟩

theorem Ruled.of_keeps (h : Ruled b64decode M t es w) (hkeeps : Keeps t w w') (e : Event) :
    Ruled b64decode M t (es ++ [e]) w' where
  ports hports := by
    obtain ⟨r, hr, hM⟩ := h.ports (hkeeps.ports hports)
    obtain ⟨r', hr', heq⟩ := hkeeps.records r hr
    exact ⟨r', hr', heq.trans hM⟩
  starting st hst := h.starting st (hkeeps.starting hst)
  grants p hp := (h.grants p (hkeeps.grants p hp)).concat e
  dialing d hd htask hother := (h.dialing d (hkeeps.dialing hd) htask hother).concat e
  streams := by
    refine hkeeps.streams _ (fun st hmaster hworker => ?_) fun i tid st hst hside htask hother => ?_
    · rw [hmaster] at hworker
      cases hworker
    · exact (h.streams i tid st hst hside htask hother).concat e
  datagrams d hd htask hother := (h.datagrams d (hkeeps.datagrams hd) htask hother).concat e

/-- **Who passes the check.** -/
theorem Ruled.owns (h : Ruled b64decode M t es w) (howns : w.peerOwnsService p t = true)
    {port : Int} {hostPort : Nat} (hport : w.hostPort t port = some hostPort) (hother : p ≠ M) :
    GrantSent M t p es ∨ Shared w t := by
  have hports : (w.portMappings.get t).isSome := by
    cases hget : w.portMappings.get t with
    | none =>
      rw [Worker.hostPort, hget] at hport
      cases hport
    | some ports => rfl
  obtain ⟨r, hr, hM⟩ := h.ports hports
  unfold peerOwnsService at howns
  rw [hr] at howns
  simp only [Bool.or_eq_true, decide_eq_true_eq, List.contains_iff_mem] at howns
  rcases howns with (hmaster | hgrant) | hshared
  · exact absurd (hmaster.symm.trans hM) hother
  · exact .inl (h.grants p hgrant)
  · exact .inr ⟨r, hr, hshared⟩

theorem letIn_concat (hasks : e.AsksFor p t) (hwhy : GrantSent M t p es ∨ Shared (run (step b64decode) init es) t) :
    LetIn b64decode M t (es ++ [e]) p :=
  ⟨es, e, [], rfl, hasks, hwhy⟩

variable {taskId : String} {via : Transport}

section

variable (h : Ruled b64decode M t es (run (step b64decode) init es))
include h

theorem Ruled.tunnelOpen (hvia : via ≠ .inbound) (q tunnelId taskId : String) (port : Int) (io : Sockets) :
    Ruled b64decode M t (es ++ [.frame via q (.tunnelOpen tunnelId taskId port) io])
      ((run (step b64decode) init es).handleWorkerTunnelOpen q tunnelId taskId port) := by
  unfold handleWorkerTunnelOpen
  split
  · exact h.of_keeps (sendClose_keeps t _ q tunnelId _) _
  rename_i howns
  split
  · exact h.of_keeps (sendClose_keeps t _ q tunnelId _) _
  rename_i hostPort hport
  refine { h.of_keeps (.refl t _) _ with dialing := fun d hd htask hother => ?_ }
  rw [List.mem_append, List.mem_singleton] at hd
  rcases hd with hd | rfl
  · exact (h.dialing d hd htask hother).concat _
  subst htask
  exact letIn_concat ⟨hvia, rfl, rfl⟩ (h.owns (by simpa using howns) hport hother)

theorem Ruled.udpSend (hvia : via ≠ .inbound) (q udpId taskId : String) (port : Int) (b64 : String) (io : Sockets) :
    Ruled b64decode M t (es ++ [.frame via q (.tunnelUdpSend udpId taskId port b64) io])
      (handleWorkerTunnelUdpSend b64decode (run (step b64decode) init es) q udpId taskId port b64) := by
  unfold handleWorkerTunnelUdpSend
  split
  · exact h.of_keeps (.refl t _) _
  split
  · exact h.of_keeps (.refl t _) _
  rename_i howns
  split
  · rename_i hostPort payload hport _
    refine { h.of_keeps (.refl t _) _ with datagrams := fun d hd htask hother => ?_ }
    rw [List.mem_append, List.mem_singleton] at hd
    rcases hd with hd | rfl
    · exact (h.datagrams d hd htask hother).concat _
    subst htask
    exact letIn_concat ⟨hvia, rfl, rfl⟩ (h.owns (by simpa using howns) hport hother)
  · exact h.of_keeps (.refl t _) _

omit h in
theorem Ruled.depGrant (h : Ruled b64decode M t es w) {q : String} {peers : List String} {io : Sockets}
    (hproper : taskId = t → q = M ∨ ∀ p ∈ peers, p ≠ "" → (t, p) ∈ w.depGrants) :
    Ruled b64decode M t (es ++ [.frame via q (.serviceDepGrant taskId peers) io]) (w.depGrant taskId peers) := by
  by_cases hmaster : taskId = t ∧ q = M
  · obtain ⟨rfl, rfl⟩ := hmaster
    refine { h.of_keeps (.refl taskId w) _ with grants := fun p hp => ?_ }
    unfold Worker.depGrant at hp
    simp only [List.mem_append, List.mem_map, List.mem_filter, decide_eq_true_eq, Prod.mk.injEq, true_and] at hp
    rcases hp with hold | ⟨p', ⟨hmem, -⟩, rfl⟩
    · exact (h.grants p hold).concat _
    · exact ⟨via, peers, io, by simp, hmem⟩
  · refine h.of_keeps (depGrant_keeps fun htask => ?_) _
    exact (hproper htask).resolve_left fun hq => hmaster ⟨htask, hq⟩

omit h in
theorem Ruled.starting_concat (h : Ruled b64decode M t es w) {st : Starting}
    (hst : st.taskId = t → st.masterIp = M) (e : Event) :
    Ruled b64decode M t (es ++ [e]) { w with starting := w.starting ++ [st] } := by
  refine { h.of_keeps (.refl t w) e with starting := fun st' hst' => ?_ }
  rw [List.mem_append, List.mem_singleton] at hst'
  rcases hst' with hold | rfl
  · exact h.starting st' hold
  · exact hst

omit h in
theorem Ruled.promote (h : Ruled b64decode M t es w)
    (hproper : taskId = t → ∀ sb ∈ w.standbys.get t, sb.masterIp = M) (e : Event) :
    Ruled b64decode M t (es ++ [e]) (w.promoteStandby taskId) := by
  unfold promoteStandby
  split
  case h_1 => exact h.of_keeps (.refl t w) e
  case h_2 standby hstandby =>
    refine h.starting_concat (fun htask => ?_) e
    subst htask
    exact hproper rfl standby hstandby

omit h in
theorem Ruled.started (h : Ruled b64decode M t es w) (i : Nat) (ports : Option (Table Int Nat)) :
    Ruled b64decode M t (es ++ [.started i ports]) (step b64decode w (.started i ports)) := by
  unfold step
  dsimp only
  split
  case h_1 => exact h.of_keeps (.refl t w) _
  case h_2 st hst =>
    have hkeeps : Keeps t w { w with starting := w.starting.eraseIdx i } :=
      { Keeps.refl t w with starting := (List.eraseIdx_sublist _ _).subset }
    have h' := h.of_keeps hkeeps (.started i ports)
    cases ports with
    | none => exact h'
    | some ports =>
      refine { h' with ports := fun hports => ?_ }
      unfold serviceStarted at hports ⊢
      rw [Table.get_put] at hports ⊢
      split
      case isTrue heq => exact ⟨_, rfl, h.starting st (List.mem_of_getElem? hst) heq.symm⟩
      case isFalse hne =>
        rw [if_neg hne] at hports
        exact h.ports hports

omit h in
theorem Ruled.dialed (h : Ruled b64decode M t es w) (i : Nat) (connected : Bool) :
    Ruled b64decode M t (es ++ [.dialed i connected]) (step b64decode w (.dialed i connected)) := by
  unfold step
  dsimp only
  split
  case h_1 => exact h.of_keeps (.refl t w) _
  case h_2 d hd =>
    have hkeeps : Keeps t w { w with dialing := w.dialing.eraseIdx i } :=
      { Keeps.refl t w with dialing := (List.eraseIdx_sublist _ _).subset }
    have h' := h.of_keeps hkeeps (.dialed i connected)
    unfold tunnelDialed
    split
    · refine { h' with streams := h'.streams.registerStream (fun _ htask hother => ?_) d.tunnelId }
      exact (h.dialing d (List.mem_of_getElem? hd) htask hother).concat _
    · exact { h' with }

theorem Ruled.recvDispatch (hvia : via ≠ .inbound) {q : String} {frame : WorkerFrame} {io : Sockets}
    (hproper : Proper M t (run (step b64decode) init es) (.frame via q frame io)) :
    Ruled b64decode M t (es ++ [.frame via q frame io])
      (recvDispatch b64decode (run (step b64decode) init es) q io frame) := by
  have hkeeps := h.of_keeps (.refl t _) (.frame via q frame io)
  -- in all branches but the first three a missing id ends the handler
  cases frame with
  | stream frame => exact hkeeps
  | tunnelOpen tunnelId taskId port => exact h.tunnelOpen hvia q tunnelId taskId port io
  | tunnelUdpSend udpId taskId port b64 => exact h.udpSend hvia q udpId taskId port b64 io
  | serviceStop taskId reason =>
    dsimp only [Worker.recvDispatch]
    split
    · exact hkeeps
    · exact h.of_keeps (stopService_keeps t _ taskId reason) _
  | servicePrepareStandby taskId manifest =>
    dsimp only [Worker.recvDispatch]
    split
    · exact hkeeps
    · exact { hkeeps with }
  | servicePromoteWithSnapshot taskId =>
    dsimp only [Worker.recvDispatch]
    split
    · exact hkeeps
    · exact h.promote (hproper hvia) _
  | serviceDepGrant taskId peers =>
    dsimp only [Worker.recvDispatch]
    split
    · exact hkeeps
    · exact h.depGrant (hproper hvia)
  | serviceDepChanged taskId primary port =>
    dsimp only [Worker.recvDispatch]
    split
    · exact hkeeps
    · exact h.of_keeps (ensureDependencyTunnel_keeps t _ taskId primary port io.bound) _

theorem Ruled.step (hproper : Proper M t (run (step b64decode) init es) e) :
    Ruled b64decode M t (es ++ [e]) (step b64decode (run (step b64decode) init es) e) := by
  cases e with
  | execute taskId manifest masterIp =>
    have hst : Starting.taskId ⟨taskId, manifest, masterIp, false⟩ = t → masterIp = M := hproper
    exact h.starting_concat hst _
  | started i ports => exact h.started i ports
  | dialed i connected => exact h.dialed i connected
  | watchdog taskId reason => exact h.of_keeps (stopService_keeps t _ taskId reason) _
  | localClient taskId peerId tunnelId => exact h.of_keeps (localClient_keeps t _ taskId peerId tunnelId) _
  | pumpEnd side tunnelId => exact h.of_keeps (keeps_registry fun _ _ h => h.dropStream tunnelId side) _
  | frame via q frame io =>
    show Ruled b64decode M t _ (dispatch b64decode _ via q frame io)
    unfold dispatch
    split
    · refine h.of_keeps (keeps_registry fun _ _ hall => ?_) _
      exact hall.dispatchStreamFrame b64decode via _ io.drains
    split
    · exact h.of_keeps (.refl t _) _
    case isFalse hvia => exact h.recvDispatch hvia hproper

end

theorem ruled_run (h : Along (Worker.step b64decode) (Proper M t) init es) :
    Ruled b64decode M t es (run (Worker.step b64decode) init es) := by
  refine run_invariant_hist (P := Ruled b64decode M t) ?_ (fun es e hproper h => h.step hproper) h
  refine ⟨nofun, nofun, nofun, nofun, fun i tid st hst => ?_, nofun⟩
  cases i <;> cases hst

def Event.Orders (M t : String) : Event → Prop
  | .frame _ q (.serviceStop taskId _) _ => taskId = t ∧ q ≠ M
  | .frame _ q (.serviceDepGrant taskId _) _ => taskId = t ∧ q ≠ M
  | _ => False

theorem depGrant_eq_self {peers : List String}
    (h : ∀ p ∈ peers, p ≠ "" → (taskId, p) ∈ w.depGrants) : w.depGrant taskId peers = w := by
  have hnone : peers.filter (fun p => p ≠ "" ∧ (taskId, p) ∉ w.depGrants) = [] := by
    rw [List.filter_eq_nil_iff]
    intro p hp
    simpa using h p hp
  unfold Worker.depGrant
  rw [hnone]
  simp

theorem step_eq_self_of_orders (horders : e.Orders M t) (hproper : Proper M t w e) : Worker.step b64decode w e = w := by
  cases e with
  | frame via q frame io =>
    show dispatch b64decode w via q frame io = w
    unfold dispatch
    cases frame with
    | serviceStop taskId reason =>
      obtain ⟨rfl, hq⟩ := horders
      dsimp only
      split
      case isTrue => rfl
      case isFalse hvia =>
        dsimp only [Worker.recvDispatch, stopService]
        rw [(hproper hvia rfl).resolve_left hq, ite_self]
    | serviceDepGrant taskId peers =>
      obtain ⟨rfl, hq⟩ := horders
      dsimp only
      split
      case isTrue => rfl
      case isFalse hvia =>
        dsimp only [Worker.recvDispatch]
        rw [depGrant_eq_self ((hproper hvia rfl).resolve_left hq), ite_self]
    | _ => exact horders.elim
  | _ => exact horders.elim

end Run

/-- **The master rules its service.** -/
theorem only_master_rules_service (b64decode : String → Option (List UInt8)) (M t : String)
    (es : List Event) (h : Along (step b64decode) (Proper M t) init es) :
    (∀ p, p ≠ M → Reached (run (step b64decode) init es) p t → LetIn b64decode M t es p) ∧
      ∀ pre e post, es = pre ++ e :: post → e.Orders M t →
        step b64decode (run (step b64decode) init pre) e = run (step b64decode) init pre := by
  constructor
  · have hruled := ruled_run h
    rintro p hother (⟨i, tid, st, hst, hside, htask, rfl⟩ | ⟨d, hd, htask, rfl⟩)
    · exact hruled.streams i tid st hst hside htask hother
    · exact hruled.datagrams d hd htask hother
  rintro pre e post rfl horders
  rw [along_append] at h
  exact step_eq_self_of_orders horders h.2.1

def exampleRun (granter p : String) : List Event :=
  let io : Sockets := ⟨true, none⟩
  [.execute "t" ⟨[80], false⟩ "m", .started 0 (some (Table.put ∅ 80 32768)),
    .frame .relay granter (.serviceDepGrant "t" [p]) io, .frame .relay p (.tunnelOpen "x" "t" 80) io,
    .dialed 0 true]

theorem only_master_rules_service_dependency : Along (step fun _ => none) (Proper "m" "t") init (exampleRun "m" "c") ∧
      Reached (run (step fun _ => none) init (exampleRun "m" "c")) "c" "t" ∧
      LetIn (fun _ => none) "m" "t" (exampleRun "m" "c") "c" := by
  have hproper : Along (step fun _ => none) (Proper "m" "t") init (exampleRun "m" "c") :=
    ⟨fun _ => rfl, trivial, fun _ _ => .inl rfl, trivial, trivial, trivial⟩
  have hreached : Reached (run (step fun _ => none) init (exampleRun "m" "c")) "c" "t" :=
    .inl ⟨0, "x", ⟨.worker, "t", "c", true⟩, by decide +kernel, rfl, rfl, rfl⟩
  exact ⟨hproper, hreached, (only_master_rules_service _ "m" "t" _ hproper).1 "c" (by decide) hreached⟩

/-- Any peer grants itself access, and any peer stops the service. -/
theorem stranger_grants_and_stops :
    (Reached (run (step fun _ => none) init (exampleRun "stranger" "stranger")) "stranger" "t" ∧
      ¬ LetIn (fun _ => none) "m" "t" (exampleRun "stranger" "stranger") "stranger") ∧
    step (fun _ => none) (run (step fun _ => none) init ((exampleRun "m" "c").take 2))
        (.frame .relay "stranger" (.serviceStop "t" "manual") ⟨true, none⟩) ≠
      run (step fun _ => none) init ((exampleRun "m" "c").take 2) := by
  refine ⟨⟨.inl ⟨0, "x", ⟨.worker, "t", "stranger", true⟩, by decide +kernel, rfl, rfl, rfl⟩, ?_⟩, ?_⟩
  · rintro ⟨pre, e, post, hes, -, ⟨via, peers, io, hmem, -⟩ | hshared⟩
    · -- no frame of the run comes from the master
      have hmem' : Event.frame via "m" (.serviceDepGrant "t" peers) io ∈ exampleRun "stranger" "stranger" := by
        rw [hes]
        exact List.mem_append_left _ hmem
      simp [exampleRun] at hmem'
    -- the record is never a shared one
    have hpre : pre ∈ (exampleRun "stranger" "stranger").inits := by
      rw [List.mem_inits, hes]
      exact List.prefix_append _ _
    have hnever : ∀ pre ∈ (exampleRun "stranger" "stranger").inits,
        ((run (step fun _ => none) init pre).records.get "t").all (fun r => !r.sharedTunnel) := by
      decide +kernel
    obtain ⟨r, hr, hshared⟩ := hshared
    have hr' := hnever pre hpre
    rw [Option.mem_def] at hr
    rw [hr] at hr'
    simp [hshared] at hr'
  · intro heq
    have hrecord := congrArg (fun w => w.records.get "t") heq
    revert hrecord
    decide +kernel

end Worker
end NexusGrid.Networking

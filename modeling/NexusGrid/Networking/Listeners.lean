import Mathlib.Algebra.Order.BigOperators.Group.List
import Mathlib.Algebra.Order.Ring.Nat
import NexusGrid.Networking.Tunnel

/-! # The local listeners of a master

A client of a service connects to a listener on the master, one for each container port, and `networking/tunnel.py`
carries the connection to the worker.
-/

namespace NexusGrid.Networking

open Lib

/-- A server that `start_server` made, with what its callback has captured. -/
structure Listener where
  taskId : String
  peerId : String
  containerPort : Nat
  hostPort : Nat
deriving DecidableEq

/-- An entry of `STATE.service_tunnels`. -/
structure MasterTunnel where
  peerId : String
  streams : Table String TaskStream
  /-- By container port. -/
  listeners : Table Nat Listener
  /-- `server` and `port`. -/
  server : Option Listener

/-- A `tunnel_open` frame and the peer it is sent to. -/
structure TunnelOpen where
  peerId : String
  tunnelId : String
  taskId : String
  port : Nat
deriving DecidableEq

structure MasterNode where
  exposed : Table String (List (Option Nat)) := ∅
  /-- `STATE.service_tunnels`. -/
  tunnels : Table String MasterTunnel := ∅
  /-- The servers that accept connections. -/
  bound : List Listener := []
  /-- The `tunnel_close` frames sent so far. -/
  sent : List CloseFrame := []

namespace MasterNode

variable (n : MasterNode)

def listenersOf (taskId : String) : Table Nat Listener := ((n.tunnels.get taskId).map (·.listeners)).getD ∅

/-- The port of `sorted(listeners.keys())[0]`, with its listener. -/
def firstListener (listeners : Table Nat Listener) : Option Listener :=
  (listeners.rows.map (·.1)).min?.bind listeners.get

def record (l : Listener) : MasterNode :=
  let t := (n.tunnels.get l.taskId).getD ⟨l.peerId, ∅, ∅, none⟩
  let listeners := t.listeners.put l.containerPort l
  { n with
    tunnels := n.tunnels.put l.taskId ⟨l.peerId, t.streams, listeners, firstListener listeners⟩
    bound := n.bound ++ [l] }

/-- The loop of `ensure_local_listeners`. -/
def listenAll (taskId peerId : String) (live : Bool) :
    List Nat → List Nat → Table Nat Nat → MasterNode → MasterNode × Option (Table Nat Nat)
  | [], _, out, n => (n, some out)
  | cport :: cports, free, out, n =>
    match if live then (n.listenersOf taskId).get cport else none with
    | some l => listenAll taskId peerId live cports free (out.put cport l.hostPort) n
    | none =>
      match free with
      | [] => (n, none)
      | hostPort :: free =>
        if n.bound.any (·.hostPort = hostPort) then (n, none)
        else
          listenAll taskId peerId live cports free (out.put cport hostPort)
            (n.record ⟨taskId, peerId, cport, hostPort⟩)

/-- `ensure_local_listeners`, with `none` when it raises. -/
def ensureLocalListeners (taskId peerId : String) (free : List Nat) : MasterNode × Option (Table Nat Nat) :=
  let containerPorts := ((n.exposed.get taskId).getD []).filterMap id
  listenAll taskId peerId (n.listenersOf taskId).rows.isEmpty.not containerPorts free ∅ n

def closeLocalListener (taskId : String) : MasterNode :=
  match n.tunnels.get taskId with
  | none => n
  | some t =>
    let servers := t.listeners.rows.map (·.2)
    { n with
      tunnels := n.tunnels.delete taskId
      bound := n.bound.filter (· ∉ if servers.isEmpty then t.server.toList else servers) }

/-- `reroute_tunnel`, with the number of streams it closed. -/
def rerouteTunnel (taskId newPeerId : String) : MasterNode × Nat :=
  match n.tunnels.get taskId with
  | none => (n, 0)
  | some t =>
    let streams := t.streams.rows.map (·.1)
    ({ n with
        tunnels := n.tunnels.put taskId { t with peerId := newPeerId, streams := ∅ }
        sent := n.sent ++
          if t.peerId = "" then [] else streams.map fun tunnelId => ⟨t.peerId, tunnelId, "rerouted"⟩ },
      streams.length)

/-- `_master_handle_local_client` up to the answer to its frame. -/
def masterHandleLocalClient (taskId peerId : String) (containerPort : Nat) (tunnelId : String)
    (delivered : Bool) : MasterNode × Option TunnelOpen :=
  match n.tunnels.get taskId with
  | none => (n, none)
  | some t =>
    let streams := if delivered then t.streams.put tunnelId ⟨.master, taskId, peerId, true⟩
      else t.streams.delete tunnelId
    ({ n with tunnels := n.tunnels.put taskId { t with streams := streams } },
      some ⟨peerId, tunnelId, taskId, containerPort⟩)

/-- The callback of the server that is bound to the port runs. -/
def acceptLocal (hostPort : Nat) (tunnelId : String) (delivered : Bool) : MasterNode × Option TunnelOpen :=
  match n.bound.find? (·.hostPort = hostPort) with
  | none => (n, none)
  | some l => n.masterHandleLocalClient l.taskId l.peerId l.containerPort tunnelId delivered

/-- `handle_worker_tunnel_open` stores the stream in the same entries. -/
def workerStream (taskId peerId tunnelId : String) : MasterNode :=
  let t := (n.tunnels.get taskId).getD ⟨peerId, ∅, ∅, none⟩
  { n with
    tunnels := n.tunnels.put taskId
      { t with streams := t.streams.put tunnelId ⟨.worker, taskId, peerId, true⟩ } }

/-- A pump ends, and `_drop_stream` takes its stream out. -/
def endStream (taskId tunnelId : String) : MasterNode :=
  match n.tunnels.get taskId with
  | none => n
  | some t => { n with tunnels := n.tunnels.put taskId { t with streams := t.streams.delete tunnelId } }

end MasterNode

inductive ListenerEvent
  | expose (taskId : String) (ports : List (Option Nat))
  | setUp (taskId peerId : String) (free : List Nat)
  | close (taskId : String)
  | reroute (taskId newPeerId : String)
  | connect (hostPort : Nat) (tunnelId : String) (delivered : Bool)
  | workerStream (taskId peerId tunnelId : String)
  | ended (taskId tunnelId : String)
deriving DecidableEq

namespace MasterNode

def step (n : MasterNode) : ListenerEvent → MasterNode
  | .expose taskId ports => { n with exposed := n.exposed.put taskId ports }
  | .setUp taskId peerId free => (n.ensureLocalListeners taskId peerId free).1
  | .close taskId => n.closeLocalListener taskId
  | .reroute taskId newPeerId => (n.rerouteTunnel taskId newPeerId).1
  | .connect hostPort tunnelId delivered => (n.acceptLocal hostPort tunnelId delivered).1
  | .workerStream taskId peerId tunnelId => n.workerStream taskId peerId tunnelId
  | .ended taskId tunnelId => n.endStream taskId tunnelId

end MasterNode

/-- A setup binds its servers at free ports, with its own task and peer. -/
inductive Binds (taskId peerId : String) : List Listener → List Listener → Prop
  | refl (bound : List Listener) : Binds taskId peerId bound bound
  | step {bound bound' : List Listener} (cport hostPort : Nat)
      (hfree : ∀ l ∈ bound, l.hostPort ≠ hostPort)
      (h : Binds taskId peerId (bound ++ [⟨taskId, peerId, cport, hostPort⟩]) bound') :
      Binds taskId peerId bound bound'

namespace MasterNode

theorem binds_listenAll (taskId peerId : String) (live : Bool) (cports free : List Nat)
    (out : Table Nat Nat) (n : MasterNode) :
    Binds taskId peerId n.bound (listenAll taskId peerId live cports free out n).1.bound := by
  induction cports generalizing free out n with
  | nil => exact .refl _
  | cons cport cports ih =>
    unfold listenAll
    split
    · exact ih free _ n
    cases free with
    | nil => exact .refl _
    | cons hostPort free =>
      dsimp only
      by_cases hused : n.bound.any (·.hostPort = hostPort)
      · rw [if_pos hused]
        exact .refl _
      rw [if_neg hused]
      have hfree : ∀ l ∈ n.bound, l.hostPort ≠ hostPort := by simpa using hused
      exact .step cport hostPort hfree (ih free _ (n.record ⟨taskId, peerId, cport, hostPort⟩))

theorem bound_rerouteTunnel (n : MasterNode) (taskId newPeerId : String) :
    (n.rerouteTunnel taskId newPeerId).1.bound = n.bound := by
  unfold rerouteTunnel
  split <;> rfl

theorem bound_acceptLocal (n : MasterNode) (hostPort : Nat) (tunnelId : String) (delivered : Bool) :
    (n.acceptLocal hostPort tunnelId delivered).1.bound = n.bound := by
  unfold acceptLocal masterHandleLocalClient
  split
  · rfl
  · split <;> rfl

theorem bound_endStream (n : MasterNode) (taskId tunnelId : String) :
    (n.endStream taskId tunnelId).bound = n.bound := by
  unfold endStream
  split <;> rfl

theorem bound_closeLocalListener (n : MasterNode) (taskId : String) :
    (n.closeLocalListener taskId).bound.Sublist n.bound := by
  unfold closeLocalListener
  split
  · exact .refl _
  · exact List.filter_sublist

theorem bound_step (n : MasterNode) (e : ListenerEvent) : (∃ taskId peerId free, e = .setUp taskId peerId free ∧
      Binds taskId peerId n.bound (n.step e).bound) ∨ (n.step e).bound.Sublist n.bound := by
  cases e with
  | expose taskId ports => exact .inr (.refl _)
  | setUp taskId peerId free => exact .inl ⟨taskId, peerId, free, rfl, binds_listenAll taskId peerId _ _ _ _ n⟩
  | close taskId => exact .inr (bound_closeLocalListener n taskId)
  | reroute taskId newPeerId => exact .inr (bound_rerouteTunnel n taskId newPeerId ▸ .refl _)
  | connect hostPort tunnelId delivered =>
    exact .inr (bound_acceptLocal n hostPort tunnelId delivered ▸ .refl _)
  | workerStream taskId peerId tunnelId => exact .inr (.refl _)
  | ended taskId tunnelId => exact .inr (bound_endStream n taskId tunnelId ▸ .refl _)

end MasterNode

theorem Binds.mem {taskId peerId : String} {bound bound' : List Listener}
    (h : Binds taskId peerId bound bound') {l : Listener} (hl : l ∈ bound') :
    l ∈ bound ∨ l.taskId = taskId ∧ l.peerId = peerId := by
  induction h with
  | refl bound => exact .inl hl
  | step cport hostPort _ _ ih =>
    rcases ih hl with hold | hnew
    · rcases List.mem_append.mp hold with hold | hlast
      · exact .inl hold
      rw [List.mem_singleton.mp hlast]
      exact .inr ⟨rfl, rfl⟩
    · exact .inr hnew

def PortsDistinct (bound : List Listener) : Prop := (bound.map (·.hostPort)).Nodup

theorem Binds.portsDistinct {taskId peerId : String} {bound bound' : List Listener}
    (h : Binds taskId peerId bound bound') (hd : PortsDistinct bound) : PortsDistinct bound' := by
  induction h with
  | refl bound => exact hd
  | step cport hostPort hfree _ ih =>
    refine ih ?_
    unfold PortsDistinct at hd ⊢
    rw [List.map_append, List.nodup_append]
    refine ⟨hd, List.nodup_singleton _, ?_⟩
    rintro port hport port' hport' rfl
    obtain ⟨l, hl, rfl⟩ := List.mem_map.mp hport
    exact hfree l hl (by simpa using hport')

namespace MasterNode

theorem portsDistinct_run (es : List ListenerEvent) : PortsDistinct (run step {} es).bound := by
  have hempty : PortsDistinct (bound {}) := List.nodup_nil
  refine run_invariant_of_step (P := fun n : MasterNode => PortsDistinct n.bound) ?_ hempty es
  intro n e hd
  rcases bound_step n e with ⟨taskId, peerId, free, -, hb⟩ | hsub
  · exact hb.portsDistinct hd
  · exact hd.sublist (hsub.map _)

theorem find_of_portsDistinct {bound : List Listener} (hd : PortsDistinct bound) {l : Listener}
    (hl : l ∈ bound) : bound.find? (·.hostPort = l.hostPort) = some l := by
  obtain ⟨l', hl'⟩ := Option.isSome_iff_exists.mp
    (List.find?_isSome.mpr ⟨l, hl, decide_eq_true rfl⟩ : (bound.find? (·.hostPort = l.hostPort)).isSome)
  have hport : l'.hostPort = l.hostPort := by simpa using List.find?_some hl'
  rw [hl', List.inj_on_of_nodup_map hd (List.mem_of_find?_eq_some hl') hl hport]

theorem acceptLocal_sends {n : MasterNode} {hostPort : Nat} {tunnelId : String} {delivered : Bool}
    {o : TunnelOpen} (h : (n.acceptLocal hostPort tunnelId delivered).2 = some o) :
    ∃ l ∈ n.bound, o = ⟨l.peerId, tunnelId, l.taskId, l.containerPort⟩ := by
  unfold acceptLocal masterHandleLocalClient at h
  split at h
  · cases h
  rename_i l hfind
  split at h
  · cases h
  · exact ⟨l, List.mem_of_find?_eq_some hfind, (Option.some.inj h).symm⟩

theorem sends_of_bound {n : MasterNode} (hd : PortsDistinct n.bound) {l : Listener} (hl : l ∈ n.bound)
    (htunnel : (n.tunnels.get l.taskId).isSome) (tunnelId : String) (delivered : Bool) :
    (n.acceptLocal l.hostPort tunnelId delivered).2 = some ⟨l.peerId, tunnelId, l.taskId, l.containerPort⟩ := by
  obtain ⟨t, ht⟩ := Option.isSome_iff_exists.mp htunnel
  unfold acceptLocal masterHandleLocalClient
  rw [find_of_portsDistinct hd hl]
  simp only [ht]

end MasterNode

/-- The event does not lead the task to another peer. -/
def ListenerEvent.Keeps (taskId peerId : String) : ListenerEvent → Prop
  | .reroute taskId' _ => taskId' ≠ taskId
  | .setUp taskId' peerId' _ => taskId' = taskId → peerId' = peerId
  | _ => True

namespace MasterNode

/-- From now on every connection for the task is carried to the peer. -/
def Repoints (n : MasterNode) (taskId peerId : String) : Prop :=
  ∀ after : List ListenerEvent, (∀ e ∈ after, e.Keeps taskId peerId) →
    ∀ (hostPort : Nat) (tunnelId : String) (delivered : Bool) (o : TunnelOpen),
      ((run step n after).acceptLocal hostPort tunnelId delivered).2 = some o →
      o.taskId = taskId → o.peerId = peerId

def PointsTo (taskId peerId : String) (n : MasterNode) : Prop := ∀ l ∈ n.bound, l.taskId = taskId → l.peerId = peerId

theorem pointsTo_step {taskId peerId : String} {n : MasterNode} {e : ListenerEvent}
    (hn : n.PointsTo taskId peerId) (he : e.Keeps taskId peerId) : (n.step e).PointsTo taskId peerId := by
  intro l hl htask
  rcases bound_step n e with ⟨taskId', peerId', free, rfl, hb⟩ | hsub
  · rcases hb.mem hl with hold | ⟨htask', hpeer⟩
    · exact hn l hold htask
    · exact hpeer.trans (he (htask'.symm.trans htask))
  · exact hn l (hsub.subset hl) htask

theorem pointsTo_run {taskId peerId : String} {n : MasterNode} {es : List ListenerEvent}
    (hn : n.PointsTo taskId peerId) (hes : ∀ e ∈ es, e.Keeps taskId peerId) :
    (run step n es).PointsTo taskId peerId := by
  induction es generalizing n with
  | nil => exact hn
  | cons e es ih =>
    have hfirst := pointsTo_step hn (hes e (.head _))
    exact ih hfirst fun e' he' => hes e' (List.mem_cons_of_mem e he')

theorem setUp_of_no_entry {n : MasterNode} {taskId : String} (peerId : String) {hostPort : Nat}
    (hnone : n.tunnels.get taskId = none) (hfree : ∀ l ∈ n.bound, l.hostPort ≠ hostPort) :
    let m := run step n [.expose taskId [some 0], .setUp taskId peerId [hostPort]]
    m.bound = n.bound ++ [⟨taskId, peerId, 0, hostPort⟩] ∧ (m.tunnels.get taskId).isSome := by
  have hunused : ¬ n.bound.any (·.hostPort = hostPort) := by simpa using hfree
  simp only [run_cons, run_nil, step, ensureLocalListeners, Table.get_put_self, Option.getD_some,
    List.filterMap_cons, id_eq, List.filterMap_nil, listenersOf, hnone, Option.map_none,
    Option.getD_none]
  have hrows : (∅ : Table Nat Listener).rows.isEmpty = true := rfl
  simp only [hrows, listenAll, Bool.not_true, Bool.false_eq_true, if_false, hunused, record,
    Table.get_put_self, Option.isSome_some, and_self]

theorem exists_free_port (bound : List Listener) : ∃ port, ∀ l ∈ bound, l.hostPort ≠ port := by
  refine ⟨(bound.map (·.hostPort)).sum + 1, fun l hl heq => ?_⟩
  have hle : l.hostPort ≤ (bound.map (·.hostPort)).sum := List.le_sum_of_mem (List.mem_map_of_mem hl)
  omega

/-- A bound server carries a connection to its peer. -/
theorem peer_of_repoints {n : MasterNode} {taskId peerId : String} (hd : PortsDistinct n.bound)
    (h : n.Repoints taskId peerId) : n.PointsTo taskId peerId := by
  rintro l hl rfl
  cases hentry : n.tunnels.get l.taskId with
  | some t =>
    have hsends := sends_of_bound hd hl (hentry ▸ rfl) "" true
    exact h [] (by simp) l.hostPort "" true _ hsends rfl
  | none =>
    obtain ⟨port, hport⟩ := exists_free_port n.bound
    obtain ⟨hbound, hsome⟩ := setUp_of_no_entry peerId hentry hport
    have hl' := List.mem_append_left [⟨l.taskId, peerId, 0, port⟩] hl
    rw [← hbound] at hl'
    have hd' : PortsDistinct (n.bound ++ [⟨l.taskId, peerId, 0, port⟩]) :=
      (Binds.step 0 port hport (.refl _)).portsDistinct hd
    rw [← hbound] at hd'
    have hsends := sends_of_bound hd' hl' hsome "" true
    refine h _ ?_ l.hostPort "" true _ hsends rfl
    simp [ListenerEvent.Keeps]

/-- When `reroute_tunnel` carries the later connections to the new peer. -/
theorem reroute_repoints_iff (before : List ListenerEvent) (taskId peerId : String) :
    ((run step {} before).rerouteTunnel taskId peerId).1.Repoints taskId peerId ↔
      (run step {} before).PointsTo taskId peerId := by
  have hbound := bound_rerouteTunnel (run step {} before) taskId peerId
  constructor
  · intro h l hl
    have hdistinct := hbound.symm ▸ portsDistinct_run before
    exact peer_of_repoints hdistinct h l (hbound.symm ▸ hl)
  intro hpoints after hafter hostPort tunnelId delivered o ho htask
  have hstart : ((run step {} before).rerouteTunnel taskId peerId).1.PointsTo taskId peerId := by
    intro l hl
    exact hpoints l (hbound ▸ hl)
  obtain ⟨l, hl, rfl⟩ := acceptLocal_sends ho
  exact pointsTo_run hstart hafter l hl htask

/-- The next connection goes to the old worker. -/
theorem rerouted_connection_to_old_worker :
    let n := run step {} [.expose "t" [some 80], .setUp "t" "w1" [40000], .reroute "t" "w2"]
    (n.tunnels.get "t").map (·.peerId) = some "w2" ∧ (n.acceptLocal 40000 "c" true).2 = some ⟨"w1", "c", "t", 80⟩ := by
  decide

end MasterNode

end NexusGrid.Networking

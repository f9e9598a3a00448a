import NexusGrid.Lib.Run
import NexusGrid.Lib.Table

/-! # Tunnels to task services

`networking/tunnel.py` carries the connections of a master to the container of a service on a worker.

The registry `STATE.service_tunnels` is a list of dicts, one for each task, in the order of their
insertion. A stream is found by its id and its side alone, so that a frame may reach the stream of
another peer: `Spares` says that it did not, and `reachedStreams` lists what a frame can reach.
-/

namespace NexusGrid.Networking

open Lib

/-! ## The registry -/

inductive Side
  | master
  | worker
deriving DecidableEq

structure TaskStream where
  side : Side
  taskId : String
  peerId : String
  /-- Whether `pump_task` is there and not done. -/
  pump : Bool
deriving DecidableEq

/-- An entry of `STATE.service_tunnels`. -/
structure TaskTunnel where
  taskId : String
  peerId : String
  streams : Table String TaskStream
  /-- The local listener, once there is one: its port. -/
  server : Option Nat

/-- A call of `writer.write` on the socket of a stream. -/
structure StreamWrite where
  tunnelId : String
  stream : TaskStream
  chunk : List UInt8
deriving DecidableEq

/-- A call of `_close_stream`. -/
structure StreamClose where
  tunnelId : String
  stream : TaskStream
  reason : String
deriving DecidableEq

/-- A `tunnel_close` frame that was sent to a peer. -/
structure CloseFrame where
  peerId : String
  tunnelId : String
  reason : String
deriving DecidableEq

/-- `STATE.service_tunnels`, and what has been done to sockets. -/
structure Registry where
  tunnels : List TaskTunnel
  writes : List StreamWrite
  closes : List StreamClose
  sent : List CloseFrame

def TaskTunnel.streamOn (t : TaskTunnel) (tunnelId : String) (side : Side) : Option TaskStream :=
  (t.streams.get tunnelId).filter (·.side = side)

def findStream (tunnels : List TaskTunnel) (tunnelId : String) (side : Side) : Option TaskStream :=
  if tunnelId = "" then none else tunnels.findSome? (·.streamOn tunnelId side)

/-- `_drop_stream`: the stream goes from the first dict that has it on this side. -/
def dropStream (tunnelId : String) (side : Side) : List TaskTunnel → List TaskTunnel
  | [] => []
  | t :: rest =>
    if (t.streamOn tunnelId side).isSome then { t with streams := t.streams.delete tunnelId } :: rest
    else t :: dropStream tunnelId side rest

/-- The stream of an id in dict number `i`. -/
def streamAt (tunnels : List TaskTunnel) (i : Nat) (tunnelId : String) : Option TaskStream :=
  tunnels[i]?.bind (·.streams.get tunnelId)

/-- `decode_data_frame`, with `none` when `b64decode` raises. -/
def decodeDataFrame (b64decode : String → Option (List UInt8)) (raw : String) : Option (List UInt8) :=
  if raw = "" then some [] else b64decode raw

/-! ## Handlers and their dispatch -/

namespace Registry

def closeStream (s : Registry) (tunnelId : String) (side : Side) (st : TaskStream) (reason : String) : Registry :=
  { s with
    tunnels := if st.pump then dropStream tunnelId side s.tunnels else s.tunnels
    closes := s.closes ++ [⟨tunnelId, st, reason⟩] }

/-- `_close_stream` with the `_drop_stream` after it. -/
def close (s : Registry) (tunnelId : String) (side : Side) (st : TaskStream) (reason : String) : Registry :=
  let s := s.closeStream tunnelId side st reason
  { s with tunnels := dropStream tunnelId side s.tunnels }

/-- A `tunnel_close` frame goes out. -/
def sendClose (s : Registry) (peerId tunnelId reason : String) : Registry :=
  { s with sent := s.sent ++ [⟨peerId, tunnelId, reason⟩] }

section Handlers

variable (b64decode : String → Option (List UInt8)) (s : Registry)

/-- Bytes for the stream on one side. -/
def handleTunnelData (side : Side) (tunnelId b64 : String) (drains : Bool) : Registry :=
  match findStream s.tunnels tunnelId side, decodeDataFrame b64decode b64 with
  | some st, some chunk =>
    let s : Registry := { s with writes := s.writes ++ [⟨tunnelId, st, chunk⟩] }
    if drains then s
    else
      (s.close tunnelId side st "write_error").sendClose st.peerId tunnelId "write_error"
  | _, _ => s

def handleTunnelClose (side : Side) (tunnelId reason : String) : Registry :=
  match findStream s.tunnels tunnelId side with
  | none => s
  | some st => s.close tunnelId side st (if reason = "" then "peer_close" else reason)

def handleMasterTunnelData (tunnelId b64 : String) (drains : Bool) : Registry :=
  handleTunnelData b64decode s .master tunnelId b64 drains

def handleWorkerTunnelData (tunnelId b64 : String) (drains : Bool) : Registry :=
  handleTunnelData b64decode s .worker tunnelId b64 drains

def handleMasterTunnelClose (tunnelId reason : String) : Registry := handleTunnelClose s .master tunnelId reason

def handleWorkerTunnelClose (tunnelId reason : String) : Registry := handleTunnelClose s .worker tunnelId reason

end Handlers

end Registry

inductive Transport
  /-- `/peer/ws`: a peer has connected to this node. -/
  | inbound
  /-- This node has connected to a master. -/
  | outbound
  | relay
deriving DecidableEq

inductive StreamFrame
  | tunnelData (tunnelId dir b64 : String)
  | tunnelClose (tunnelId reason : String)
deriving DecidableEq

open Registry

/-- The branches `tunnel_data` and `tunnel_close` of the three dispatchers. -/
def dispatchStreamFrame (b64decode : String → Option (List UInt8)) (s : Registry) (via : Transport)
    (frame : StreamFrame) (drains : Bool) : Registry :=
  match via, frame with
  | .inbound, .tunnelData tunnelId _ b64 => handleMasterTunnelData b64decode s tunnelId b64 drains
  | .inbound, .tunnelClose tunnelId reason => handleMasterTunnelClose s tunnelId reason
  | .outbound, .tunnelData tunnelId _ b64 => handleWorkerTunnelData b64decode s tunnelId b64 drains
  | .outbound, .tunnelClose tunnelId reason => handleWorkerTunnelClose s tunnelId reason
  | .relay, .tunnelData tunnelId dir b64 =>
    if dir = "to_worker" then handleWorkerTunnelData b64decode s tunnelId b64 drains
    else handleMasterTunnelData b64decode s tunnelId b64 drains
  | .relay, .tunnelClose tunnelId reason =>
    handleWorkerTunnelClose (handleMasterTunnelClose s tunnelId reason) tunnelId reason

/-! ## Finding and dropping a stream

`findStream` and `dropStream` take the first dict with the id on the side. An id may be in several.
-/

section Find

variable {tunnels : List TaskTunnel} {tunnelId : String} {side : Side} {st : TaskStream}

theorem TaskTunnel.streamOn_eq_some (t : TaskTunnel) :
    t.streamOn tunnelId side = some st ↔ t.streams.get tunnelId = some st ∧ st.side = side := by
  unfold streamOn
  rw [Option.filter_eq_some_iff, decide_eq_true_iff]

theorem TaskTunnel.streamOn_delete_ne (t : TaskTunnel) {side' : Side}
    (h : t.streamOn tunnelId side = some st) (hne : side' ≠ side) (tid : String) :
    ({ t with streams := t.streams.delete tunnelId } : TaskTunnel).streamOn tid side' = t.streamOn tid side' := by
  rw [streamOn_eq_some] at h
  unfold streamOn
  rw [Table.get_delete]
  split
  case isTrue heq =>
    -- the stream that goes is on the other side
    have hside : st.side ≠ side' := fun hside => hne (hside.symm.trans h.2)
    rw [heq, h.1, Option.filter_some, if_neg (by simpa using hside), Option.filter_none]
  case isFalse => rfl

theorem findStream_cons (t : TaskTunnel) (rest : List TaskTunnel) (hne : tunnelId ≠ "") :
    findStream (t :: rest) tunnelId side = (t.streamOn tunnelId side).or (findStream rest tunnelId side) := by
  unfold findStream
  rw [if_neg hne, if_neg hne, List.findSome?_cons]
  cases t.streamOn tunnelId side <;> rfl

theorem ne_empty_of_findStream (h : findStream tunnels tunnelId side = some st) : tunnelId ≠ "" := by
  intro hempty
  unfold findStream at h
  rw [if_pos hempty] at h
  cases h

theorem dropStream_cons_none {t : TaskTunnel} (h : t.streamOn tunnelId side = none) (rest : List TaskTunnel) :
    dropStream tunnelId side (t :: rest) = t :: dropStream tunnelId side rest := by
  rw [dropStream, h]
  rfl

theorem dropStream_cons_some {t : TaskTunnel} (h : t.streamOn tunnelId side = some st) (rest : List TaskTunnel) :
    dropStream tunnelId side (t :: rest) = { t with streams := t.streams.delete tunnelId } :: rest := by
  rw [dropStream, h]
  rfl

@[simp] theorem streamAt_cons_zero (t : TaskTunnel) (rest : List TaskTunnel) (tid : String) :
    streamAt (t :: rest) 0 tid = t.streams.get tid := rfl

theorem findStream_of_dropStream {i : Nat} {tid : String} (hne : tunnelId ≠ "")
    (hst : streamAt tunnels i tid = some st) (hgone : streamAt (dropStream tunnelId side tunnels) i tid ≠ some st) :
    findStream tunnels tunnelId side = some st := by
  induction tunnels generalizing i with
  | nil => exact absurd hst hgone
  | cons t rest ih =>
    rw [findStream_cons t rest hne]
    cases hhere : t.streamOn tunnelId side with
    | none =>
      rw [dropStream_cons_none hhere] at hgone
      cases i with
      | zero => exact absurd hst hgone
      | succ i => exact ih hst hgone
    | some found =>
      rw [dropStream_cons_some hhere] at hgone
      cases i with
      | succ i => exact absurd hst hgone
      | zero =>
        rw [streamAt_cons_zero] at hst hgone
        rw [Table.get_delete] at hgone
        split at hgone
        case isTrue heq =>
          rw [heq, ((t.streamOn_eq_some).mp hhere).1] at hst
          exact hst
        case isFalse => exact absurd hst hgone

theorem dropStream_of_findStream (hst : findStream tunnels tunnelId side = some st) :
    ∃ i, streamAt tunnels i tunnelId = some st ∧ streamAt (dropStream tunnelId side tunnels) i tunnelId = none := by
  have hne := ne_empty_of_findStream hst
  induction tunnels with
  | nil =>
    rw [findStream, if_neg hne] at hst
    cases hst
  | cons t rest ih =>
    rw [findStream_cons t rest hne] at hst
    cases hhere : t.streamOn tunnelId side with
    | none =>
      rw [hhere, Option.none_or] at hst
      rw [dropStream_cons_none hhere]
      obtain ⟨i, hi, hgone⟩ := ih hst
      exact ⟨i + 1, hi, hgone⟩
    | some found =>
      rw [hhere, Option.some_or] at hst
      rw [dropStream_cons_some hhere]
      refine ⟨0, ((t.streamOn_eq_some).mp hhere).1.trans hst, ?_⟩
      rw [streamAt_cons_zero, Table.get_delete, if_pos rfl]

theorem streamAt_of_dropStream {i : Nat} {tid : String}
    (hst : streamAt (dropStream tunnelId side tunnels) i tid = some st) : streamAt tunnels i tid = some st := by
  induction tunnels generalizing i with
  | nil => exact hst
  | cons t rest ih =>
    cases hhere : t.streamOn tunnelId side with
    | none =>
      rw [dropStream_cons_none hhere] at hst
      cases i with
      | zero => exact hst
      | succ i => exact ih hst
    | some found =>
      rw [dropStream_cons_some hhere] at hst
      cases i with
      | succ i => exact hst
      | zero =>
        rw [streamAt_cons_zero, Table.get_delete] at hst
        split at hst
        · cases hst
        · exact hst

theorem findStream_dropStream_ne {side' : Side} (hside : side' ≠ side) (tid : String) :
    findStream (dropStream tunnelId side tunnels) tid side' = findStream tunnels tid side' := by
  by_cases hne : tid = ""
  · rw [findStream, findStream, if_pos hne, if_pos hne]
  induction tunnels with
  | nil => rfl
  | cons t rest ih =>
    cases hhere : t.streamOn tunnelId side with
    | none => rw [dropStream_cons_none hhere, findStream_cons _ _ hne, findStream_cons _ _ hne, ih]
    | some found =>
      rw [dropStream_cons_some hhere, findStream_cons _ _ hne, findStream_cons _ _ hne,
        t.streamOn_delete_ne hhere hside]

theorem dropStream_comm {side' : Side} (hside : side' ≠ side) :
    dropStream tunnelId side' (dropStream tunnelId side tunnels) =
      dropStream tunnelId side (dropStream tunnelId side' tunnels) := by
  induction tunnels with
  | nil => rfl
  | cons t rest ih =>
    cases hhere : t.streamOn tunnelId side with
    | none =>
      rw [dropStream_cons_none hhere]
      cases hthere : t.streamOn tunnelId side' with
      | none => rw [dropStream_cons_none hthere, dropStream_cons_none hthere, dropStream_cons_none hhere, ih]
      | some found =>
        rw [dropStream_cons_some hthere, dropStream_cons_some hthere, dropStream_cons_none]
        rw [t.streamOn_delete_ne hthere hside.symm, hhere]
    | some found =>
      -- an id has one stream in a dict, so the other side has none here
      have hthere : t.streamOn tunnelId side' = none := by
        rw [Option.eq_none_iff_forall_ne_some]
        intro other hother
        rw [t.streamOn_eq_some] at hhere hother
        rw [hhere.1, Option.some.injEq] at hother
        exact hside (by rw [← hother.2, ← hother.1, hhere.2])
      have hthere' := (t.streamOn_delete_ne hhere hside tunnelId).trans hthere
      rw [dropStream_cons_some hhere, dropStream_cons_none hthere', dropStream_cons_none hthere,
        dropStream_cons_some hhere]

end Find

/-! ## What a frame spares -/

/-- No stream with a peer other than `q` got bytes or was closed or lost. -/
structure Spares (q : String) (s s' : Registry) : Prop where
  entries : ∀ i tid st, streamAt s.tunnels i tid = some st → st.peerId ≠ q → streamAt s'.tunnels i tid = some st
  writes : ∃ new, s'.writes = s.writes ++ new ∧ ∀ w ∈ new, w.chunk ≠ [] → w.stream.peerId = q
  closes : ∃ new, s'.closes = s.closes ++ new ∧ ∀ c ∈ new, c.stream.peerId = q

/-- The streams that go when a stream of this id is closed. -/
def closedStreams (tunnels : List TaskTunnel) (tunnelId : String) (side : Side) : List TaskStream :=
  match findStream tunnels tunnelId side with
  | none => []
  | some st => st :: if st.pump then (findStream (dropStream tunnelId side tunnels) tunnelId side).toList else []

def sidesOf : Transport → StreamFrame → List Side
  | .inbound, _ => [.master]
  | .outbound, _ => [.worker]
  | .relay, .tunnelData _ dir _ => if dir = "to_worker" then [.worker] else [.master]
  | .relay, .tunnelClose .. => [.master, .worker]

def reachedStreams (b64decode : String → Option (List UInt8)) (tunnels : List TaskTunnel)
    (frame : StreamFrame) (drains : Bool) (side : Side) : List TaskStream :=
  match frame with
  | .tunnelClose tunnelId _ => closedStreams tunnels tunnelId side
  | .tunnelData tunnelId _ b64 =>
    match decodeDataFrame b64decode b64 with
    | none => []
    | some chunk =>
      if !drains then closedStreams tunnels tunnelId side
      else if chunk = [] then []
      else (findStream tunnels tunnelId side).toList

section Isolation

variable {b64decode : String → Option (List UInt8)} {s s' s'' : Registry} {q tunnelId : String}
  {side : Side} {st : TaskStream}

theorem Spares.refl (q : String) (s : Registry) : Spares q s s where
  entries _ _ _ hst _ := hst
  writes := ⟨[], (List.append_nil _).symm, fun _ hw => absurd hw List.not_mem_nil⟩
  closes := ⟨[], (List.append_nil _).symm, fun _ hc => absurd hc List.not_mem_nil⟩

theorem Spares.trans (h : Spares q s s') (h' : Spares q s' s'') : Spares q s s'' := by
  obtain ⟨hentries, ⟨w, hw, hwq⟩, c, hc, hcq⟩ := h
  obtain ⟨hentries', ⟨w', hw', hwq'⟩, c', hc', hcq'⟩ := h'
  refine ⟨fun i tid st hst hother => hentries' i tid st (hentries i tid st hst hother) hother,
    ⟨w ++ w', by rw [hw', hw, List.append_assoc], fun x hx => ?_⟩,
    ⟨c ++ c', by rw [hc', hc, List.append_assoc], fun x hx => ?_⟩⟩
  · exact (List.mem_append.mp hx).elim (hwq x) (hwq' x)
  · exact (List.mem_append.mp hx).elim (hcq x) (hcq' x)

theorem Spares.peer_of_closed (h : Spares q s s') {cs : List StreamClose}
    (hcs : s'.closes = s.closes ++ cs) {c : StreamClose} (hc : c ∈ cs) : c.stream.peerId = q := by
  obtain ⟨new, hnew, hall⟩ := h.closes
  rw [hcs] at hnew
  rw [List.append_cancel_left hnew] at hc
  exact hall c hc

theorem Spares.peer_of_written (h : Spares q s s') {w : StreamWrite}
    (hw : s'.writes = s.writes ++ [w]) (hbytes : w.chunk ≠ []) : w.stream.peerId = q := by
  obtain ⟨new, hnew, hall⟩ := h.writes
  rw [hw] at hnew
  rw [← List.append_cancel_left hnew] at hall
  exact hall w (List.mem_singleton_self w) hbytes

theorem write_spares {chunk : List UInt8} (hown : chunk ≠ [] → st.peerId = q) :
    Spares q s { s with writes := s.writes ++ [⟨tunnelId, st, chunk⟩] } where
  entries _ _ _ hst _ := hst
  writes := ⟨_, rfl, fun w hw => by rw [List.mem_singleton.mp hw]; exact hown⟩
  closes := (Spares.refl q s).closes

theorem streamAt_dropStream {tunnels : List TaskTunnel} (hne : tunnelId ≠ "")
    (hown : ∀ st ∈ findStream tunnels tunnelId side, st.peerId = q) (i : Nat) (tid : String)
    (hst : streamAt tunnels i tid = some st) (hother : st.peerId ≠ q) :
    streamAt (dropStream tunnelId side tunnels) i tid = some st := by
  by_contra hgone
  exact hother (hown st (findStream_of_dropStream hne hst hgone))

theorem close_spares_iff (hfound : findStream s.tunnels tunnelId side = some st) (reason : String) :
    Spares q s (s.close tunnelId side st reason) ↔ ∀ st' ∈ closedStreams s.tunnels tunnelId side, st'.peerId = q := by
  have hne := ne_empty_of_findStream hfound
  unfold closedStreams
  rw [hfound]
  rw [List.forall_mem_cons]
  constructor
  · intro hspares
    refine ⟨hspares.peer_of_closed rfl (List.mem_singleton_self _), fun second hsecond => ?_⟩
    cases hpump : st.pump with
    | false =>
      rw [hpump, if_neg Bool.false_ne_true] at hsecond
      exact absurd hsecond List.not_mem_nil
    | true =>
      rw [hpump, if_pos rfl, Option.mem_toList] at hsecond
      obtain ⟨i, hi, hgone⟩ := dropStream_of_findStream hsecond
      by_contra hother
      have hkept := hspares.entries i tunnelId second (streamAt_of_dropStream hi) hother
      simp only [close, closeStream, hpump, if_pos] at hkept
      rw [hgone] at hkept
      cases hkept
  · rintro ⟨hown, hnext⟩
    have hfirst : ∀ st' ∈ findStream s.tunnels tunnelId side, st'.peerId = q := by
      rw [hfound]
      rintro _ ⟨⟩
      exact hown
    refine ⟨fun i tid old hold hother => ?_, (Spares.refl q s).writes, ⟨_, rfl, fun c hc => ?_⟩⟩
    · have hold' := streamAt_dropStream hne hfirst i tid hold hother
      unfold close closeStream
      split
      case isTrue hpump =>
        rw [if_pos hpump] at hnext
        exact streamAt_dropStream hne (fun st' h => hnext st' (Option.mem_toList.mpr h)) i tid hold'
          hother
      case isFalse => exact hold'
    · rw [List.mem_singleton.mp hc]
      exact hown

theorem handleTunnelClose_spares_iff (reason : String) : Spares q s (handleTunnelClose s side tunnelId reason) ↔
      ∀ st ∈ closedStreams s.tunnels tunnelId side, st.peerId = q := by
  unfold handleTunnelClose
  cases hfound : findStream s.tunnels tunnelId side with
  | none =>
    unfold closedStreams
    rw [hfound]
    exact iff_of_true (.refl q s) (fun _ h => absurd h List.not_mem_nil)
  | some st => exact close_spares_iff hfound _

theorem handleTunnelData_spares_iff (dir b64 : String) (drains : Bool) :
    Spares q s (handleTunnelData b64decode s side tunnelId b64 drains) ↔
      ∀ st ∈ reachedStreams b64decode s.tunnels (.tunnelData tunnelId dir b64) drains side, st.peerId = q := by
  unfold handleTunnelData reachedStreams
  dsimp only
  cases hfound : findStream s.tunnels tunnelId side with
  | none =>
    have hnone : closedStreams s.tunnels tunnelId side = [] := by rw [closedStreams, hfound]
    refine iff_of_true (.refl q s) fun st hst => absurd hst ?_
    rw [hnone]
    split
    · exact List.not_mem_nil
    · split <;> simp
  | some st =>
    cases decodeDataFrame b64decode b64 with
    | none => exact iff_of_true (.refl q s) (fun _ h => absurd h List.not_mem_nil)
    | some chunk =>
      dsimp only
      cases drains with
      | true =>
        rw [if_pos rfl, if_neg (by simp)]
        by_cases hempty : chunk = []
        · rw [if_pos hempty]
          exact iff_of_true (write_spares (absurd hempty))
            (fun _ h => absurd h List.not_mem_nil)
        rw [if_neg hempty, Option.toList_some, List.forall_mem_singleton]
        exact ⟨fun h => h.peer_of_written rfl hempty, fun h => write_spares fun _ => h⟩
      | false =>
        rw [if_neg Bool.false_ne_true, if_pos (by rfl), ← close_spares_iff hfound "write_error"]
        -- the write is logged beside the close, and the closed stream is the written one
        constructor
        · intro h
          exact ⟨h.entries, (Spares.refl q s).writes, h.closes⟩
        intro h
        have hst : st.peerId = q := h.peer_of_closed rfl (List.mem_singleton_self _)
        exact ⟨h.entries, (write_spares fun _ => hst).writes, h.closes⟩

theorem closedStreams_dropStream_ne {tunnels : List TaskTunnel} {side' : Side} (hside : side' ≠ side) :
    closedStreams (dropStream tunnelId side tunnels) tunnelId side' = closedStreams tunnels tunnelId side' := by
  unfold closedStreams
  rw [dropStream_comm hside, findStream_dropStream_ne hside, findStream_dropStream_ne hside]

theorem closedStreams_handleTunnelClose_ne {side' : Side} (hside : side' ≠ side) (reason : String) :
    closedStreams (handleTunnelClose s side tunnelId reason).tunnels tunnelId side' =
      closedStreams s.tunnels tunnelId side' := by
  unfold handleTunnelClose
  split
  · rfl
  unfold close closeStream
  rw [closedStreams_dropStream_ne hside]
  split
  · exact closedStreams_dropStream_ne hside
  · rfl

structure Cuts (s s' : Registry) : Prop where
  entries : ∀ i tid st, streamAt s'.tunnels i tid = some st → streamAt s.tunnels i tid = some st
  writes : s'.writes = s.writes
  closes : ∃ new, s'.closes = s.closes ++ new

theorem handleTunnelClose_cuts (s : Registry) (side : Side) (tunnelId reason : String) :
    Cuts s (handleTunnelClose s side tunnelId reason) := by
  unfold handleTunnelClose
  split
  · exact ⟨fun _ _ _ h => h, rfl, [], (List.append_nil _).symm⟩
  refine ⟨fun i tid st h => ?_, rfl, _, rfl⟩
  unfold close closeStream at h
  have h' := streamAt_of_dropStream h
  split at h'
  · exact streamAt_of_dropStream h'
  · exact h'

theorem Spares.of_cuts (hcut : Cuts s s') (hcut' : Cuts s' s'') (h : Spares q s s'') :
    Spares q s s' ∧ Spares q s' s'' := by
  obtain ⟨new, hnew⟩ := hcut.closes
  obtain ⟨new', hnew'⟩ := hcut'.closes
  have hboth : s''.closes = s.closes ++ (new ++ new') := by rw [hnew', hnew, List.append_assoc]
  have hown : ∀ c ∈ new ++ new', c.stream.peerId = q := fun c hc => h.peer_of_closed hboth hc
  rw [List.forall_mem_append] at hown
  constructor
  · refine ⟨fun i tid st hst hother => ?_, ?_, new, hnew, hown.1⟩
    · exact hcut'.entries i tid st (h.entries i tid st hst hother)
    rw [hcut.writes]
    exact (Spares.refl q s).writes
  refine ⟨fun i tid st hst hother => ?_, ?_, new', hnew', hown.2⟩
  · exact h.entries i tid st (hcut.entries i tid st hst) hother
  rw [hcut'.writes]
  exact (Spares.refl q s').writes

theorem relayClose_spares_iff (reason : String) :
    Spares q s (handleTunnelClose (handleTunnelClose s .master tunnelId reason) .worker tunnelId reason) ↔
      ∀ side ∈ [Side.master, Side.worker], ∀ st ∈ closedStreams s.tunnels tunnelId side, st.peerId = q := by
  rw [List.forall_mem_cons, List.forall_mem_singleton, ← handleTunnelClose_spares_iff reason,
    ← closedStreams_handleTunnelClose_ne (show Side.worker ≠ .master by decide) reason,
    ← handleTunnelClose_spares_iff reason]
  constructor
  · exact Spares.of_cuts (handleTunnelClose_cuts ..) (handleTunnelClose_cuts ..)
  rintro ⟨hmaster, hworker⟩
  exact hmaster.trans hworker

end Isolation

/-- **Which frames spare the streams with other peers.** -/
theorem tunnel_frame_spares_iff (b64decode : String → Option (List UInt8)) (s : Registry) (q : String)
    (via : Transport) (frame : StreamFrame) (drains : Bool) :
    Spares q s (dispatchStreamFrame b64decode s via frame drains) ↔
      ∀ side ∈ sidesOf via frame, ∀ st ∈ reachedStreams b64decode s.tunnels frame drains side, st.peerId = q := by
  cases frame with
  | tunnelData tunnelId dir b64 =>
    have hone (side : Side) : Spares q s (handleTunnelData b64decode s side tunnelId b64 drains) ↔
          ∀ side' ∈ [side], ∀ st ∈ reachedStreams b64decode s.tunnels (.tunnelData tunnelId dir b64) drains side',
              st.peerId = q := by
      rw [List.forall_mem_singleton]
      exact handleTunnelData_spares_iff dir b64 drains
    cases via with
    | inbound => exact hone .master
    | outbound => exact hone .worker
    | relay =>
      simp only [dispatchStreamFrame, sidesOf]
      split
      · exact hone .worker
      · exact hone .master
  | tunnelClose tunnelId reason =>
    have hone (side : Side) : Spares q s (handleTunnelClose s side tunnelId reason) ↔
          ∀ side' ∈ [side], ∀ st ∈ closedStreams s.tunnels tunnelId side', st.peerId = q := by
      rw [List.forall_mem_singleton]
      exact handleTunnelClose_spares_iff reason
    cases via with
    | inbound => exact hone .master
    | outbound => exact hone .worker
    | relay => exact relayClose_spares_iff reason

/-- A worker with one stream from the master `m`. -/
def exampleRegistry : Registry where
  tunnels := [⟨"t", "m", Table.put ∅ "x" ⟨.worker, "t", "m", true⟩, none⟩]
  writes := []
  closes := []
  sent := []

/-- A peer that names the id of the master's stream ends it. -/
theorem stranger_closes_task_stream : ¬ Spares "stranger" exampleRegistry
        (dispatchStreamFrame (fun _ => none) exampleRegistry .relay (.tunnelClose "x" "") true) ∧
      ¬ Spares "stranger" exampleRegistry (dispatchStreamFrame (fun _ => some [104, 105]) exampleRegistry .relay
          (.tunnelData "x" "to_worker" "aGk=") true) := by
  constructor
  · intro h
    have hclosed : (dispatchStreamFrame (fun _ => none) exampleRegistry .relay (.tunnelClose "x" "")
        true).closes = [] ++ [⟨"x", ⟨.worker, "t", "m", true⟩, "peer_close"⟩] := by decide +kernel
    exact absurd (h.peer_of_closed hclosed (List.mem_singleton_self _)) (by decide)
  intro h
  have hwritten : (dispatchStreamFrame (fun _ => some [104, 105]) exampleRegistry .relay
      (.tunnelData "x" "to_worker" "aGk=") true).writes =
        [] ++ [⟨"x", ⟨.worker, "t", "m", true⟩, [104, 105]⟩] := by decide +kernel
  exact absurd (h.peer_of_written hwritten (by decide)) (by decide)

end NexusGrid.Networking

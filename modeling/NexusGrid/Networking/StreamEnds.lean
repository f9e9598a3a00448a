import NexusGrid.Networking.WorkerFrames

/-! # The sockets of streams that end

A stream leaves the registry of `Tunnel` with a close frame, a write that fails, a pump that ends, an
opening that fails, `reroute_tunnel` or `close_local_listener`. All but the pump close its writer.

A stream is known by its id here, which is right as long as ids are not used again (`Fresh`). A
master draws its ids; a worker takes them from the frames it gets.
-/

namespace NexusGrid.Networking

open Lib Registry

/-! ## Events -/

inductive StreamEvent
  /-- `ensure_local_listeners` has bound a port. -/
  | listen (taskId peerId : String) (bound : Nat)
  /-- A stream is stored, by `_master_handle_local_client` or by `handle_worker_tunnel_open`. -/
  | opened (tunnelId : String) (stream : TaskStream)
  /-- The master's `tunnel_open` frame was delivered. -/
  | pumpStarts (tunnelId : String)
  /-- There is no port, or the peer is not reached. -/
  | openFails (tunnelId : String) (stream : TaskStream) (reason : String)
  | frame (via : Transport) (frame : StreamFrame) (drains : Bool)
  /-- The end of `_pump_local_to_remote` other than by `_close_stream`; with `eof` it has told the peer. -/
  | pumpEnds (tunnelId peerId : String) (side : Side) (eof : Bool)
  | reroute (taskId newPeerId : String)
  | closeListener (taskId : String)

def Registry.empty : Registry := ⟨[], [], [], []⟩

/-- The entry is popped first, and its streams are closed after that. -/
def closeLocalListener (s : Registry) (taskId : String) : Registry :=
  match s.tunnels.find? (·.taskId = taskId) with
  | none => s
  | some t =>
    t.streams.rows.foldl (fun s row => s.closeStream row.1 row.2.side row.2 "listener_closed")
      { s with tunnels := s.tunnels.filter (·.taskId ≠ taskId) }

def streamStep (b64decode : String → Option (List UInt8)) (s : Registry) : StreamEvent → Registry
  | .listen taskId peerId bound => { s with tunnels := Worker.listen s.tunnels taskId peerId bound }
  | .opened tunnelId st =>
    -- a master whose entry has gone closes the connection and stores nothing
    if st.side = .master ∧ !s.tunnels.any (·.taskId = st.taskId) then s
    else { s with tunnels := Worker.registerStream s.tunnels tunnelId st }
  | .pumpStarts tunnelId =>
    { s with tunnels := s.tunnels.map fun t =>
        { t with streams := t.streams.mapRows fun id st => { st with pump := st.pump || id = tunnelId } } }
  | .openFails tunnelId st reason =>
    { s with
      tunnels := s.tunnels.map fun t =>
        if t.taskId = st.taskId then { t with streams := t.streams.delete tunnelId } else t
      closes := s.closes ++ [⟨tunnelId, st, reason⟩] }
  | .frame via frame drains => dispatchStreamFrame b64decode s via frame drains
  | .pumpEnds tunnelId peerId side eof =>
    let s := if eof then s.sendClose peerId tunnelId "local_eof" else s
    { s with tunnels := dropStream tunnelId side s.tunnels }
  | .reroute taskId newPeerId =>
    match s.tunnels.find? (·.taskId = taskId) with
    | none => s
    | some t => Worker.rerouteTunnel s t newPeerId
  | .closeListener taskId => closeLocalListener s taskId

def Registered (tunnels : List TaskTunnel) (tid : String) : Prop := ∃ t ∈ tunnels, (t.streams.get tid).isSome

instance Registered.instDecidable (tunnels : List TaskTunnel) (tid : String) : Decidable (Registered tunnels tid) :=
  inferInstanceAs (Decidable (∃ t ∈ tunnels, _))

def ClosedIn (s : Registry) (tid : String) : Prop := ∃ c ∈ s.closes, c.tunnelId = tid

/-- The writer of a stream that has gone from the registry was closed. -/
def ClosesRemoved (s s' : Registry) : Prop :=
  ∀ tid, Registered s.tunnels tid → ¬ Registered s'.tunnels tid → ClosedIn s' tid

/-- No two entries are of one task, or have a stream of one id. -/
def Apart (tunnels : List TaskTunnel) : Prop :=
  tunnels.Pairwise fun t t' =>
    t.taskId ≠ t'.taskId ∧ ∀ tid, ¬ ((t.streams.get tid).isSome ∧ (t'.streams.get tid).isSome)

/-- A stream gets a new id, and a stream whose opening fails is stored for its own task. -/
def Fresh (s : Registry) (e : StreamEvent) : Prop :=
  Apart s.tunnels ∧
    match e with
    | .opened tunnelId _ => ¬ Registered s.tunnels tunnelId ∧ ¬ ClosedIn s tunnelId
    | .openFails tunnelId st _ => ∀ t ∈ s.tunnels, (t.streams.get tunnelId).isSome → t.taskId = st.taskId
    | _ => True

def OnSide (tunnels : List TaskTunnel) (tid : String) (side : Side) : Prop :=
  ∃ t ∈ tunnels, (t.streamOn tid side).isSome

/-- A pump ends by itself while its stream is registered. -/
def EndsRegistered (s : Registry) : StreamEvent → Prop
  | .pumpEnds tunnelId _ side _ => OnSide s.tunnels tunnelId side
  | _ => False

/-! ## Entries and their streams -/

section Entries

variable {tunnels : List TaskTunnel} {t t' : TaskTunnel} {tid tunnelId : String} {side : Side} {st : TaskStream}

@[simp] theorem registered_nil : ¬ Registered [] tid := by simp [Registered]

@[simp] theorem registered_cons :
    Registered (t :: tunnels) tid ↔ (t.streams.get tid).isSome ∨ Registered tunnels tid := by simp [Registered]

@[simp] theorem onSide_cons :
    OnSide (t :: tunnels) tid side ↔ (t.streamOn tid side).isSome ∨ OnSide tunnels tid side := by simp [OnSide]

theorem TaskTunnel.isSome_of_streamOn (h : (t.streamOn tid side).isSome) : (t.streams.get tid).isSome := by
  obtain ⟨st, hst⟩ := Option.isSome_iff_exists.mp h
  rw [((t.streamOn_eq_some).mp hst).1]
  rfl

theorem OnSide.registered (h : OnSide tunnels tid side) : Registered tunnels tid := by
  obtain ⟨t, ht, hon⟩ := h
  exact ⟨t, ht, t.isSome_of_streamOn hon⟩

theorem onSide_of_findStream (h : findStream tunnels tid side = some st) : OnSide tunnels tid side := by
  unfold findStream at h
  rw [if_neg (ne_empty_of_findStream h)] at h
  obtain ⟨t, ht, hst⟩ := List.exists_of_findSome?_eq_some h
  exact ⟨t, ht, by rw [hst]; rfl⟩

theorem dropStream_of_not_onSide (h : ¬ OnSide tunnels tid side) : dropStream tid side tunnels = tunnels := by
  induction tunnels with
  | nil => rfl
  | cons t rest ih =>
    rw [onSide_cons, not_or, Option.not_isSome_iff_eq_none] at h
    rw [dropStream_cons_none h.1, ih h.2]

theorem Apart.not_registered_tail (h : Apart (t :: tunnels)) (ht : (t.streams.get tid).isSome) :
    ¬ Registered tunnels tid := by
  rintro ⟨t', ht', hst⟩
  exact ((List.pairwise_cons.mp h).1 t' ht').2 tid ⟨ht, hst⟩

theorem registered_dropStream (h : Apart tunnels) (hon : OnSide tunnels tunnelId side) (tid : String) :
    Registered (dropStream tunnelId side tunnels) tid ↔ Registered tunnels tid ∧ tid ≠ tunnelId := by
  induction tunnels with
  | nil => simp [dropStream]
  | cons t rest ih =>
    cases hhere : t.streamOn tunnelId side with
    | none =>
      have hrest : OnSide rest tunnelId side := by simpa [hhere] using hon
      rw [dropStream_cons_none hhere, registered_cons, registered_cons, ih (List.pairwise_cons.mp h).2 hrest,
        or_and_right]
      refine or_congr_left (iff_self_and.mpr ?_)
      rintro ht rfl
      exact h.not_registered_tail ht hrest.registered
    | some found =>
      have ht : (t.streams.get tunnelId).isSome := t.isSome_of_streamOn (by rw [hhere]; rfl)
      rw [dropStream_cons_some hhere, registered_cons, registered_cons, Table.get_delete]
      by_cases heq : tid = tunnelId
      · simp [heq, h.not_registered_tail ht]
      · simp [heq]

theorem Apart.eq_of_shared (h : Apart tunnels) (ht : t ∈ tunnels) (ht' : t' ∈ tunnels) (tid : String)
    (hshared : t.taskId = t'.taskId ∨ (t.streams.get tid).isSome ∧ (t'.streams.get tid).isSome) : t = t' := by
  by_contra hne
  have hsymm : Std.Symm fun t t' : TaskTunnel =>
      t.taskId ≠ t'.taskId ∧ ∀ tid, ¬ ((t.streams.get tid).isSome ∧ (t'.streams.get tid).isSome) :=
    ⟨fun _ _ h => ⟨h.1.symm, fun tid hboth => h.2 tid hboth.symm⟩⟩
  obtain ⟨htask, hfree⟩ := List.Pairwise.forall h ht ht' hne
  exact hshared.elim htask (hfree tid)

end Entries

/-! ## Handlers that close what they take out -/

/-- Some streams go, and these are closed. -/
def Takes (s s' : Registry) : Prop :=
  ∃ ids : List String, (∀ tid, Registered s'.tunnels tid ↔ Registered s.tunnels tid ∧ tid ∉ ids) ∧
    ∀ tid, ClosedIn s' tid ↔ ClosedIn s tid ∨ tid ∈ ids

section Steps

variable {b64decode : String → Option (List UInt8)} {s s' : Registry} {tid tunnelId : String} {side : Side}
  {st : TaskStream}

theorem Takes.closesRemoved (h : Takes s s') : ClosesRemoved s s' := by
  obtain ⟨ids, hreg, hclosed⟩ := h
  intro tid hst hgone
  rw [hclosed tid]
  by_contra hnot
  exact hgone ((hreg tid).mpr ⟨hst, fun hmem => hnot (.inr hmem)⟩)

theorem Takes.same (hreg : ∀ tid, Registered s'.tunnels tid ↔ Registered s.tunnels tid)
    (hcloses : s'.closes = s.closes) :
    Takes s s' :=
  ⟨[], by simpa using hreg, by simp [ClosedIn, hcloses]⟩

theorem Takes.of_closes {new : List StreamClose} (hcloses : s'.closes = s.closes ++ new)
    (hreg : ∀ tid, Registered s'.tunnels tid ↔ Registered s.tunnels tid ∧ tid ∉ new.map (·.tunnelId)) : Takes s s' :=
  ⟨_, hreg, fun tid => by simp only [ClosedIn, hcloses, List.mem_append, List.mem_map, or_and_right, exists_or]⟩

theorem registered_close (h : Apart s.tunnels) (hon : OnSide s.tunnels tunnelId side) (reason : String) (tid : String) :
    Registered (s.close tunnelId side st reason).tunnels tid ↔ Registered s.tunnels tid ∧ tid ≠ tunnelId := by
  have honce := registered_dropStream h hon
  simp only [close, closeStream]
  split_ifs
  · -- the pump has taken the stream out, and the handler finds nothing
    rw [dropStream_of_not_onSide fun hagain => ((honce tunnelId).mp hagain.registered).2 rfl, honce]
  · exact honce tid

theorem close_takes (h : Apart s.tunnels) (hfound : findStream s.tunnels tunnelId side = some st) (reason : String) :
    Takes s (s.close tunnelId side st reason) :=
  .of_closes rfl fun tid => by simpa using registered_close h (onSide_of_findStream hfound) reason tid

theorem handleTunnelClose_takes (h : Apart s.tunnels) (reason : String) :
    Takes s (handleTunnelClose s side tunnelId reason) := by
  unfold handleTunnelClose
  split
  · exact .same (fun _ => .rfl) rfl
  next st hfound => exact close_takes h hfound _

theorem handleTunnelClose_of_not_registered (h : ¬ Registered s.tunnels tunnelId) {reason : String} :
    handleTunnelClose s side tunnelId reason = s := by
  unfold handleTunnelClose
  split
  · rfl
  next st hfound => exact absurd (onSide_of_findStream hfound).registered h

theorem handleTunnelData_takes (h : Apart s.tunnels) (b64 : String) (drains : Bool) :
    Takes s (handleTunnelData b64decode s side tunnelId b64 drains) := by
  unfold handleTunnelData
  split
  next st chunk hfound hchunk =>
    split_ifs
    · exact .same (fun _ => .rfl) rfl
    -- what was written makes no difference to the registry
    exact close_takes (s := { s with writes := s.writes ++ [⟨tunnelId, st, chunk⟩] }) h hfound "write_error"
  · exact .same (fun _ => .rfl) rfl

theorem dispatchStreamFrame_takes (h : Apart s.tunnels) (via : Transport) (frame : StreamFrame) (drains : Bool) :
    Takes s (dispatchStreamFrame b64decode s via frame drains) := by
  cases frame with
  | tunnelData tunnelId dir b64 =>
    cases via with
    | inbound | outbound => exact handleTunnelData_takes h b64 drains
    | relay =>
      simp only [dispatchStreamFrame]
      split_ifs <;> exact handleTunnelData_takes h b64 drains
  | tunnelClose tunnelId reason =>
    cases via with
    | inbound | outbound => exact handleTunnelClose_takes h reason
    | relay =>
      simp only [dispatchStreamFrame, handleMasterTunnelClose, handleWorkerTunnelClose]
      by_cases hstays : Registered (handleTunnelClose s .master tunnelId reason).tunnels tunnelId
      · have hsame : handleTunnelClose s .master tunnelId reason = s := by
          unfold handleTunnelClose at hstays ⊢
          split
          · rfl
          next st hfound =>
            rw [hfound] at hstays
            exact absurd rfl ((registered_close h (onSide_of_findStream hfound) _ _).mp hstays).2
        rw [hsame]
        exact handleTunnelClose_takes h reason
      · rw [handleTunnelClose_of_not_registered hstays]
        exact handleTunnelClose_takes h reason

/-- Streams that are closed after they have gone: their pumps find nothing to drop. -/
theorem foldl_closeStream (tell : Registry → String → Registry)
    (htell : ∀ s id, (tell s id).tunnels = s.tunnels ∧ (tell s id).closes = s.closes) (reason : String)
    (rows : List (String × TaskStream)) (hgone : ∀ row ∈ rows, ¬ Registered s.tunnels row.1) :
    let s' := rows.foldl (fun s row => (tell s row.1).closeStream row.1 row.2.side row.2 reason) s
    s'.tunnels = s.tunnels ∧ s'.closes = s.closes ++ rows.map fun row => ⟨row.1, row.2, reason⟩ := by
  induction rows generalizing s with
  | nil => exact ⟨rfl, (List.append_nil _).symm⟩
  | cons row rows ih =>
    obtain ⟨hrow, hrows⟩ := List.forall_mem_cons.mp hgone
    let s₁ := (tell s row.1).closeStream row.1 row.2.side row.2 reason
    have htunnels : s₁.tunnels = s.tunnels := by
      simp only [s₁, closeStream, (htell s row.1).1]
      split_ifs
      · exact dropStream_of_not_onSide fun hon => hrow hon.registered
      · rfl
    have hcloses : s₁.closes = s.closes ++ [⟨row.1, row.2, reason⟩] := by
      simp only [s₁, closeStream, (htell s row.1).2]
    have hrest := ih (s := s₁) (by rwa [htunnels])
    rw [htunnels, hcloses, List.append_assoc] at hrest
    exact hrest

/-- An entry loses its streams, and they are closed. -/
theorem entry_takes (h : Apart s.tunnels) {taskId : String} {t : TaskTunnel}
    (ht : s.tunnels.find? (·.taskId = taskId) = some t) {tunnels : List TaskTunnel}
    (hreg : ∀ tid, Registered tunnels tid ↔ ∃ t' ∈ s.tunnels, t'.taskId ≠ taskId ∧ (t'.streams.get tid).isSome)
    (tell : Registry → String → Registry)
    (htell : ∀ s id, (tell s id).tunnels = s.tunnels ∧ (tell s id).closes = s.closes) (reason : String) :
    Takes s (t.streams.rows.foldl (fun s row => (tell s row.1).closeStream row.1 row.2.side row.2 reason)
      { s with tunnels }) := by
  have hmem := List.mem_of_find?_eq_some ht
  have htask : t.taskId = taskId := by simpa using List.find?_some ht
  have hout (tid : String) : Registered tunnels tid ↔ Registered s.tunnels tid ∧ tid ∉ t.streams.rows.map Prod.fst := by
    have hids : tid ∈ t.streams.rows.map Prod.fst ↔ (t.streams.get tid).isSome := by
      simp [Table.mem_rows, Option.isSome_iff_exists]
    rw [hreg tid, hids]
    constructor
    · rintro ⟨t', ht', hne, hst⟩
      refine ⟨⟨t', ht', hst⟩, fun hhere => hne ?_⟩
      rw [← h.eq_of_shared hmem ht' tid (.inr ⟨hhere, hst⟩), htask]
    · rintro ⟨⟨t', ht', hst⟩, hnot⟩
      refine ⟨t', ht', fun heq => hnot ?_, hst⟩
      rwa [h.eq_of_shared hmem ht' tid (.inl (htask.trans heq.symm))]
  obtain ⟨htunnels, hcloses⟩ := foldl_closeStream (s := { s with tunnels }) tell htell reason t.streams.rows
    fun row hrow hst => ((hout row.1).mp hst).2 (List.mem_map_of_mem hrow)
  refine .of_closes hcloses fun tid => ?_
  rw [htunnels, List.map_map]
  exact hout tid

theorem closeLocalListener_takes (h : Apart s.tunnels) (taskId : String) : Takes s (closeLocalListener s taskId) := by
  unfold closeLocalListener
  split
  · exact .same (fun _ => .rfl) rfl
  next t ht =>
    exact entry_takes h ht (fun tid => by simp [Registered, and_assoc]) (fun s _ => s) (fun _ _ => ⟨rfl, rfl⟩) _

theorem rerouteTunnel_takes (h : Apart s.tunnels) {taskId : String} {t : TaskTunnel}
    (ht : s.tunnels.find? (·.taskId = taskId) = some t) (newPeerId : String) :
    Takes s (Worker.rerouteTunnel s t newPeerId) := by
  have htask : t.taskId = taskId := by simpa using List.find?_some ht
  refine entry_takes h ht (fun tid => ?_)
    (fun s id => if t.peerId = "" then s else s.sendClose t.peerId id "rerouted") (fun s id => ?_) "rerouted"
  · simp only [Registered, List.mem_map, exists_exists_and_eq_and, htask]
    refine exists_congr fun t' => and_congr_right fun _ => ?_
    split_ifs with heq <;> simp [heq]
  · split_ifs <;> exact ⟨rfl, rfl⟩

theorem openFails_takes (reason : String) (hfresh : Fresh s (.openFails tunnelId st reason)) :
    Takes s (streamStep b64decode s (.openFails tunnelId st reason)) := by
  refine .of_closes rfl fun tid => ?_
  simp only [streamStep, Registered, List.mem_map, exists_exists_and_eq_and, List.map_cons, List.map_nil,
    List.mem_singleton]
  simp only [← exists_and_right, and_assoc]
  refine exists_congr fun t => and_congr_right fun ht => ?_
  split_ifs with htask
  · rw [Table.get_delete]
    by_cases heq : tid = tunnelId <;> simp [heq]
  · refine iff_self_and.mpr ?_
    rintro hst rfl
    exact htask (hfresh.2 t ht hst)

theorem registered_registerStream (tunnels : List TaskTunnel) (tunnelId : String) (st : TaskStream) (tid : String) :
    Registered (Worker.registerStream tunnels tunnelId st) tid ↔ Registered tunnels tid ∨ tid = tunnelId := by
  unfold Worker.registerStream
  split
  case isTrue hany =>
    obtain ⟨t₀, ht₀, htask₀⟩ := List.any_eq_true.mp hany
    simp only [Registered, List.mem_map, exists_exists_and_eq_and]
    by_cases heq : tid = tunnelId
    · refine iff_of_true ⟨t₀, ht₀, ?_⟩ (.inr heq)
      rw [if_pos (by simpa using htask₀), heq, Table.get_put_self]
      rfl
    · simp only [heq, or_false]
      refine exists_congr fun t => and_congr_right fun _ => ?_
      split_ifs
      · rw [Table.get_put_ne _ _ heq]
      · rfl
  case isFalse =>
    simp only [Registered, List.mem_append, List.mem_singleton, or_and_right, exists_or, exists_eq_left, Table.get_put,
      Table.get_empty]
    by_cases heq : tid = tunnelId <;> simp [heq]

end Steps

/-! ## Runs -/

/-- No stream of the registry is a closed one. -/
def Unclosed (s : Registry) : Prop := ∀ tid, Registered s.tunnels tid → ¬ ClosedIn s tid

theorem Takes.unclosed {s s' : Registry} (h : Takes s s') (hs : Unclosed s) : Unclosed s' := by
  obtain ⟨ids, hreg, hclosed⟩ := h
  intro tid hst hc
  obtain ⟨hbefore, hnot⟩ := (hreg tid).mp hst
  exact ((hclosed tid).mp hc).elim (hs tid hbefore) hnot

section Runs

variable (b64decode : String → Option (List UInt8)) {s : Registry} {tunnelId peerId : String} {side : Side}

theorem opened_spec {st : TaskStream} (hfresh : Fresh s (.opened tunnelId st)) (hs : Unclosed s) :
    Unclosed (streamStep b64decode s (.opened tunnelId st)) ∧
      ClosesRemoved s (streamStep b64decode s (.opened tunnelId st)) := by
  unfold streamStep
  dsimp only
  split
  · exact ⟨hs, fun tid hst hgone => absurd hst hgone⟩
  have hreg := registered_registerStream s.tunnels tunnelId st
  refine ⟨fun tid hst => ?_, fun tid hst hgone => absurd ((hreg tid).mpr (.inl hst)) hgone⟩
  rcases (hreg tid).mp hst with hst | rfl
  · exact hs tid hst
  · exact hfresh.2.2

/-- The writer of a pump that ends is open, and stays so. -/
theorem pumpEnds_spec (h : Apart s.tunnels) (hs : Unclosed s) (eof : Bool) :
    let s' := streamStep b64decode s (.pumpEnds tunnelId peerId side eof)
    Unclosed s' ∧ (ClosesRemoved s s' ↔ ¬ OnSide s.tunnels tunnelId side) := by
  intro s'
  have htunnels : s'.tunnels = dropStream tunnelId side s.tunnels := by cases eof <;> rfl
  have hclosed (tid : String) : ClosedIn s' tid ↔ ClosedIn s tid := by cases eof <;> rfl
  unfold Unclosed ClosesRemoved
  simp only [htunnels, hclosed]
  by_cases hon : OnSide s.tunnels tunnelId side
  · have hreg := registered_dropStream h hon
    refine ⟨fun tid hst => hs tid ((hreg tid).mp hst).1, iff_of_false (fun hcloses => ?_) (not_not_intro hon)⟩
    refine hs tunnelId hon.registered (hcloses tunnelId hon.registered fun hst => ?_)
    exact ((hreg tunnelId).mp hst).2 rfl
  · rw [dropStream_of_not_onSide hon]
    exact ⟨hs, iff_of_true (fun tid hst hgone => absurd hst hgone) hon⟩

theorem step_spec (e : StreamEvent) (hfresh : Fresh s e) (hs : Unclosed s) : Unclosed (streamStep b64decode s e) ∧
      (ClosesRemoved s (streamStep b64decode s e) ↔ ¬ EndsRegistered s e) := by
  have htakes {s' : Registry} (htakes : Takes s s') : Unclosed s' ∧ (ClosesRemoved s s' ↔ ¬ False) :=
    ⟨htakes.unclosed hs, iff_of_true htakes.closesRemoved id⟩
  have h := hfresh.1
  cases e with
  | opened tunnelId st =>
    obtain ⟨hkeeps, hcloses⟩ := opened_spec b64decode hfresh hs
    exact ⟨hkeeps, iff_of_true hcloses id⟩
  | pumpEnds tunnelId peerId side eof => exact pumpEnds_spec b64decode h hs eof
  | listen taskId peerId bound =>
    refine htakes (.same (fun tid => ?_) rfl)
    simp only [streamStep, Worker.listen]
    split
    · simp only [Registered, List.mem_map, exists_exists_and_eq_and]
      refine exists_congr fun t => and_congr_right fun _ => ?_
      split_ifs <;> rfl
    · simp [Registered]
  | pumpStarts tunnelId => exact htakes (.same (fun tid => by simp [streamStep, Registered, Table.get_mapRows]) rfl)
  | openFails tunnelId st reason => exact htakes (openFails_takes reason hfresh)
  | frame via frame drains => exact htakes (dispatchStreamFrame_takes h via frame drains)
  | closeListener taskId => exact htakes (closeLocalListener_takes h taskId)
  | reroute taskId newPeerId =>
    unfold streamStep
    dsimp only
    split
    · exact htakes (.same (fun _ => .rfl) rfl)
    next t ht => exact htakes (rerouteTunnel_takes h ht newPeerId)

end Runs

end NexusGrid.Networking

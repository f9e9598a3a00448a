import NexusGrid.Groups.Agreement
import NexusGrid.Lib.Paging

/-! # Catching up from a peer's log

A member that was offline asks the founder for the frames after its watermark (`post_group_catchup`). The
founder answers with a page of its log (`fetch_log_since`), which is `Lib.Paging` at the log's timestamps. The
member dispatches the frames of the page one after the other and moves its watermark to the last of them,
whatever the dispatcher has answered. `Catcher` is the member with the ids that it has applied so far, and
`Takes` what the dispatcher asks of a frame.
-/

namespace NexusGrid.Groups

open Lib

def capturedAt (row : String × LogEntry) : String := row.2.capturedAt

def Db.groupLog (db : Db) (groupId : String) : List (String × LogEntry) := (db.frameLog.rows.filterMap fun r =>
    if r.1.1 = groupId then some (r.1.2, r.2) else none).insertionSort
      fun a b => capturedAt a ≤ capturedAt b

def fetchLogSince (db : Db) (groupId since : String) (limit : Nat) : List (String × LogEntry) :=
  Paging.page capturedAt limit (db.groupLog groupId) since

/-- The limit that `peer_group_catchup` works with. -/
def catchupLimit (limit : Int) : Nat := (max 1 (min 1000 (if limit = 0 then 200 else limit))).toNat

def peerGroupCatchup (db : Db) (groupId since : String) (limit : Int) : Except HttpError (List (String × LogEntry)) :=
  match db.liveGroup groupId with
  | none => .error ⟨404, "group not found"⟩
  | some _ => .ok (fetchLogSince db groupId since (catchupLimit limit))

theorem catchupLimit_pos (limit : Int) : 0 < catchupLimit limit := by
  unfold catchupLimit
  omega

theorem groupLog_sorted (db : Db) (groupId : String) :
    (db.groupLog groupId).Pairwise fun a b => capturedAt a ≤ capturedAt b := by
  have htotal : Std.Total fun a b : String × LogEntry => capturedAt a ≤ capturedAt b :=
    ⟨fun a b => le_total (capturedAt a) (capturedAt b)⟩
  exact List.pairwise_insertionSort _ _

/-- The log of a group has one row for a frame id. -/
theorem groupLog_nodup_ids (db : Db) (groupId : String) : ((db.groupLog groupId).map Prod.fst).Nodup := by
  unfold Db.groupLog
  rw [((List.perm_insertionSort _ _).map _).nodup_iff, List.map_filterMap]
  have hids : (db.frameLog.rows.filterMap fun r => Option.map Prod.fst
      (if r.1.1 = groupId then some (r.1.2, r.2) else none)) =
      (db.frameLog.rows.map Prod.fst).filterMap fun k => if k.1 = groupId then some k.2 else none := by
    rw [List.filterMap_map]
    congr 1
    funext r
    simp only [Function.comp_apply]
    split <;> rfl
  rw [hids]
  refine (Table.nodup_rows_keys _).filterMap ?_
  rintro ⟨g, id⟩ ⟨g', id'⟩ row hrow hrow'
  simp only [Option.mem_def, Option.ite_none_right_eq_some, Option.some.injEq] at hrow hrow'
  obtain ⟨rfl, rfl⟩ := hrow
  obtain ⟨rfl, rfl⟩ := hrow'
  rfl

theorem groupLog_nodup (db : Db) (groupId : String) : (db.groupLog groupId).Nodup :=
  .of_map _ (groupLog_nodup_ids db groupId)

/-- The `applied` of a reply. -/
def Reply.applied : Reply → Bool
  | answer _ applied _ _ => applied
  | raised => false

/-- The dispatcher applies the frame: it is well formed, not seen before and can be opened, the group is not
paused, and its sender may send what its handler takes. -/
def Takes (p : Primitives) (call : Call) (n : Node) (envelope : Json) : Prop :=
  ∃ frame symkey o type db, GroupFrame.fromDict p.repr envelope = .ok frame ∧ (n.seen frame.frameId).1 = false ∧
    n.db.paused frame.channel = false ∧ n.db.localSymkey p frame.channel = some symkey ∧
    n.db.adminPubkeySet frame.channel ≠ [] ∧
    openFrame p call.now symkey (n.db.adminPubkeySet frame.channel) frame = .ok o ∧
    FrameType.ofText o.frameType = some type ∧ gate p n.db o type = .passes ∧
    applyFrame p call n.db o type = some (db, true)

theorem openInbound_eq_ok {p : Primitives} {call : Call} {db : Db} {frame : GroupFrame} {o : OpenedFrame} :
    openInbound p call db frame = .ok o ↔ db.paused frame.channel = false ∧ ∃ symkey,
      db.localSymkey p frame.channel = some symkey ∧ db.adminPubkeySet frame.channel ≠ [] ∧
        openFrame p call.now symkey (db.adminPubkeySet frame.channel) frame = .ok o := by
  unfold openInbound
  cases db.paused frame.channel with
  | true => simp
  | false =>
    cases db.localSymkey p frame.channel with
    | none => simp
    | some symkey =>
      by_cases hadmins : db.adminPubkeySet frame.channel = []
      · simp [hadmins]
      · cases hopen : openFrame p call.now symkey (db.adminPubkeySet frame.channel) frame with
        | error reason => simp [hadmins, hopen]
        | ok opened => simp [hadmins, hopen]

theorem receive_eq_ok {p : Primitives} {call : Call} {n : Node} {envelope : Json} {o : OpenedFrame} :
    (receive p call n envelope).2 = .ok o ↔ ∃ frame, GroupFrame.fromDict p.repr envelope = .ok frame ∧
      (n.seen frame.frameId).1 = false ∧ openInbound p call n.db frame = .ok o := by
  unfold receive
  cases GroupFrame.fromDict p.repr envelope with
  | error reason => simp
  | ok frame =>
    have hdb := db_seen n frame.frameId
    rcases hseen : n.seen frame.frameId with ⟨_ | _, n'⟩ <;> rw [hseen] at hdb <;> simp [hseen, ← hdb]

theorem applied_iff_takes (p : Primitives) (call : Call) (n : Node) (envelope : Json) :
    (dispatchInboundFrame p call n envelope).reply.applied = true ↔ Takes p call n envelope := by
  have htakes : Takes p call n envelope ↔ ∃ o type db, (receive p call n envelope).2 = .ok o ∧
      FrameType.ofText o.frameType = some type ∧ gate p n.db o type = .passes ∧
      applyFrame p call n.db o type = some (db, true) := by
    simp only [Takes, receive_eq_ok, openInbound_eq_ok]
    constructor
    · rintro ⟨frame, symkey, o, type, db, hframe, hseen, hpaused, hkey, hadmins, hopened, hrest⟩
      exact ⟨o, type, db, ⟨frame, hframe, hseen, hpaused, symkey, hkey, hadmins, hopened⟩, hrest⟩
    · rintro ⟨o, type, db, ⟨frame, hframe, hseen, hpaused, symkey, hkey, hadmins, hopened⟩, hrest⟩
      exact ⟨frame, symkey, o, type, db, hframe, hseen, hpaused, hkey, hadmins, hopened, hrest⟩
  have hdb := db_receive p call n envelope
  rw [htakes, dispatchInboundFrame]
  rcases hrec : receive p call n envelope with ⟨n', ⟨ok, reason⟩ | o⟩ <;> rw [hrec] at hdb
  · simp [Reply.applied]
  replace hdb : n'.db = n.db := hdb
  cases htype : FrameType.ofText o.frameType with
  | none => simp [Reply.applied, htype]
  | some type =>
    cases hgate : gate p n.db o type with
    | refused reason => simp [Reply.applied, hdb, htype, hgate]
    | raises => simp [Reply.applied, hdb, htype, hgate]
    | passes =>
      cases happly : applyFrame p call n.db o type with
      | none => simp [Reply.applied, hdb, htype, happly, hgate]
      | some result => simp [Reply.applied, hdb, htype, happly, hgate, Prod.ext_iff]

/-- A node that catches up, and the ids that it has applied so far. -/
structure Catcher where
  node : Node
  applied : List String

section Member

variable (p : Primitives) (calls : String → Call) (groupId : String)

def Catcher.since (c : Catcher) : String := ((c.node.db.groups.get groupId).map Group.lastCatchupAt).getD ""

def Catcher.dispatch (c : Catcher) (row : String × LogEntry) : Catcher :=
  let out := dispatchInboundFrame p (calls row.1) c.node row.2.envelope
  { node := out.node
    applied := if out.reply.applied then row.1 :: c.applied else c.applied }

def Catcher.store (c : Catcher) (latestAt : String) : Catcher :=
  match c.node.db.groups.get groupId with
  | none => c
  | some g =>
    let groups := c.node.db.groups.put groupId { g with lastCatchupAt := latestAt }
    { c with node := { c.node with db := { c.node.db with groups } } }

/-- `post_group_catchup`, from the peer's answer on. -/
def Catcher.take (c : Catcher) : Except HttpError (List (String × LogEntry)) → Catcher
  | .error _ => c
  | .ok frames =>
    let latestAt := Paging.latest capturedAt (c.since groupId) frames
    let c' := frames.foldl (Catcher.dispatch p calls) c
    if c.since groupId < latestAt then c'.store groupId latestAt else c'

/-- One request to the peer `server`. -/
def Catcher.request (server : Db) (limit : Int) (c : Catcher) : Catcher :=
  c.take p calls groupId (peerGroupCatchup server groupId (c.since groupId) limit)

def Catcher.frames (server : Db) (limit : Int) (c : Catcher) : List (String × LogEntry) :=
  fetchLogSince server groupId (c.since groupId) (catchupLimit limit)

/-- When its turn comes, the node takes the frame, or has applied it before. -/
def Catcher.Ready (c : Catcher) (row : String × LogEntry) : Prop :=
  row.1 ∈ c.applied ∨ Takes p (calls row.1) c.node row.2.envelope

end Member

section Requests

variable {p : Primitives} {calls : String → Call} {groupId : String} {server : Db} {limit : Int}
  {c : Catcher}

def Catcher.Knows (groupId : String) (c : Catcher) : Prop := (c.node.db.groups.get groupId).isSome

theorem knows_foldl (p : Primitives) (calls : String → Call) (frames : List (String × LogEntry))
    (hc : c.Knows groupId) : (frames.foldl (Catcher.dispatch p calls) c).Knows groupId := by
  induction frames generalizing c with
  | nil => exact hc
  | cons row frames ih =>
    refine ih ?_
    show (((c.node.step p ⟨.dispatch, calls row.1, row.2.envelope⟩).db.groups.get
      groupId)).isSome
    rw [isSome_group_step]
    exact hc

theorem knows_store (hc : c.Knows groupId) (latestAt : String) :
    (c.store groupId latestAt).Knows groupId ∧ (c.store groupId latestAt).since groupId = latestAt := by
  obtain ⟨g, hg⟩ := Option.isSome_iff_exists.mp hc
  simp only [Catcher.store, hg, Catcher.Knows, Catcher.since, Table.get_put_self, Option.isSome_some,
    Option.map_some, Option.getD_some, and_self]

theorem since_take (p : Primitives) (calls : String → Call) (server : Db) (hc : c.Knows groupId) (limit : Nat) :
    let next := c.take p calls groupId (.ok (fetchLogSince server groupId (c.since groupId) limit))
    next.Knows groupId ∧ next.since groupId =
      Paging.next capturedAt limit (server.groupLog groupId) (c.since groupId) := by
  intro next
  set frames := fetchLogSince server groupId (c.since groupId) limit with hframes
  have hknows := knows_foldl p calls frames hc
  by_cases hmoves : c.since groupId < Paging.latest capturedAt (c.since groupId) frames
  · have hnext : next = (frames.foldl (Catcher.dispatch p calls) c).store groupId
        (Paging.latest capturedAt (c.since groupId) frames) := if_pos hmoves
    rw [hnext]
    exact knows_store hknows _
  -- the watermark stays only if the page is empty
  have hempty : frames = [] := by
    rw [List.eq_nil_iff_forall_not_mem]
    intro row hrow
    exact hmoves ((Paging.mem_of_mem_page hrow).2.trans_le (Paging.stamp_le_latest hrow _))
  have hnext : next = frames.foldl (Catcher.dispatch p calls) c := if_neg hmoves
  have hnone : Paging.page capturedAt limit (server.groupLog groupId) (c.since groupId) = [] := hempty
  rw [hnext, hempty, Paging.next, hnone]
  exact ⟨hc, rfl⟩

theorem since_iterate (hlive : (server.liveGroup groupId).isSome) (hc : c.Knows groupId) (n : Nat) :
    ((Catcher.request p calls groupId server limit)^[n] c).since groupId =
      (Paging.next capturedAt (catchupLimit limit) (server.groupLog groupId))^[n] (c.since groupId) := by
  obtain ⟨g, hg⟩ := Option.isSome_iff_exists.mp hlive
  induction n generalizing c with
  | zero => rfl
  | succ n ih =>
    have hrequest : c.request p calls groupId server limit = c.take p calls groupId
        (.ok (fetchLogSince server groupId (c.since groupId) (catchupLimit limit))) := by
      simp only [Catcher.request, peerGroupCatchup, hg]
    obtain ⟨hknows, hsince⟩ := since_take p calls server hc (catchupLimit limit)
    rw [Function.iterate_succ_apply, Function.iterate_succ_apply, hrequest, ih hknows, hsince]

theorem applied_foldl (frames : List (String × LogEntry)) (c : Catcher) :
    c.applied ⊆ (frames.foldl (Catcher.dispatch p calls) c).applied := by
  induction frames generalizing c with
  | nil => exact .refl _
  | cons row frames ih =>
    refine List.Subset.trans ?_ (ih (c.dispatch p calls row))
    show c.applied ⊆ if _ then _ else _
    split
    · exact List.subset_cons_self _ _
    · exact .refl _

theorem applied_dispatch (c : Catcher) (row : String × LogEntry) :
    row.1 ∈ (c.dispatch p calls row).applied ↔ c.Ready p calls row := by
  show row.1 ∈ (if _ then _ else _) ↔ _
  rw [Catcher.Ready, ← applied_iff_takes]
  split
  next h => simp [h]
  next h => simp [h]

theorem notMem_applied_foldl {frames : List (String × LogEntry)} {id : String} (hid : id ∉ frames.map Prod.fst)
    (hc : id ∉ c.applied) : id ∉ (frames.foldl (Catcher.dispatch p calls) c).applied := by
  induction frames generalizing c with
  | nil => exact hc
  | cons row frames ih =>
    rw [List.map_cons, List.mem_cons, not_or] at hid
    refine ih hid.2 ?_
    show id ∉ if _ then _ else _
    split
    · exact fun hmem => (List.mem_cons.mp hmem).elim hid.1 hc
    · exact hc

/-- All frames of a page are applied in the end if, and only if, each is ready in its turn. -/
theorem applied_iff_ready {frames : List (String × LogEntry)} (hids : (frames.map Prod.fst).Nodup) :
    (∀ row ∈ frames, row.1 ∈ (frames.foldl (Catcher.dispatch p calls) c).applied) ↔
      Along (Catcher.dispatch p calls) (Catcher.Ready p calls) c frames := by
  induction frames generalizing c with
  | nil => simp
  | cons row frames ih =>
    rw [List.map_cons, List.nodup_cons] at hids
    rw [List.forall_mem_cons, List.foldl_cons, ih hids.2]
    show _ ↔ Catcher.Ready p calls c row ∧ _
    rw [← applied_dispatch]
    refine and_congr_left fun _ => ⟨fun h => ?_, fun h => applied_foldl frames _ h⟩
    by_contra hnot
    exact notMem_applied_foldl hids.1 hnot h

theorem applied_request (c : Catcher) : c.applied ⊆ (c.request p calls groupId server limit).applied := by
  unfold Catcher.request Catcher.take
  split
  · exact .refl _
  next frames _ =>
    dsimp only
    split
    · unfold Catcher.store
      split <;> exact applied_foldl frames c
    · exact applied_foldl frames c

theorem applied_iterate (c : Catcher) {m n : Nat} (h : m ≤ n) :
    ((Catcher.request p calls groupId server limit)^[m] c).applied ⊆
      ((Catcher.request p calls groupId server limit)^[n] c).applied := by
  induction n with
  | zero =>
    obtain rfl := Nat.le_zero.mp h
    exact .refl _
  | succ n ih =>
    rcases Nat.lt_or_eq_of_le h with hlt | rfl
    · refine List.Subset.trans (ih (Nat.le_of_lt_succ hlt)) ?_
      rw [Function.iterate_succ_apply']
      exact applied_request _
    · exact .refl _

end Requests

section Lossless

variable (p : Primitives) (calls : String → Call) (groupId : String) (server : Db) (limit : Int)

/-- After `n` requests. -/
def Catcher.after (c : Catcher) (n : Nat) : Catcher := (Catcher.request p calls groupId server limit)^[n] c

/-- Requests come to an empty page, and nothing behind the watermark is missing. -/
structure Catcher.Lossless (c : Catcher) : Prop where
  complete : ∃ n, (c.after p calls groupId server limit n).frames groupId server limit = [] ∧
    ∀ row ∈ server.groupLog groupId, c.since groupId < capturedAt row →
      ∃ k < n, row ∈ (c.after p calls groupId server limit k).frames groupId server limit
  safe : ∀ n, ∀ row ∈ server.groupLog groupId, c.since groupId < capturedAt row →
    capturedAt row ≤ (c.after p calls groupId server limit n).since groupId →
      row.1 ∈ (c.after p calls groupId server limit n).applied

def Catcher.NoTieSplit (c : Catcher) : Prop := Paging.NoTieSplit capturedAt (catchupLimit limit)
    (Paging.after capturedAt (server.groupLog groupId) (c.since groupId))

def Catcher.PagesTaken (c : Catcher) : Prop :=
  ∀ n, Along (Catcher.dispatch p calls) (Catcher.Ready p calls) (c.after p calls groupId server limit n)
    ((c.after p calls groupId server limit n).frames groupId server limit)

end Lossless

section Main

variable {p : Primitives} {calls : String → Call} {groupId : String} {server : Db} {limit : Int}
  {c : Catcher}

theorem frames_after (hlive : (server.liveGroup groupId).isSome) (hc : c.Knows groupId) (n : Nat) :
    (c.after p calls groupId server limit n).frames groupId server limit =
      Paging.page capturedAt (catchupLimit limit) (server.groupLog groupId)
        ((Paging.next capturedAt (catchupLimit limit) (server.groupLog groupId))^[n] (c.since groupId)) := by
  unfold Catcher.frames Catcher.after
  rw [since_iterate hlive hc]
  rfl

theorem noTieSplit_of_lossless (hlive : (server.liveGroup groupId).isSome) (hc : c.Knows groupId)
    (h : c.Lossless p calls groupId server limit) : c.NoTieSplit groupId server limit := by
  refine (Paging.complete_iff (catchupLimit_pos limit) (groupLog_sorted server groupId)
    (groupLog_nodup server groupId) (c.since groupId)).mp ?_
  intro row hrow
  obtain ⟨hmem, hlater⟩ := Paging.mem_after.mp hrow
  obtain ⟨n, -, hpaged⟩ := h.complete
  obtain ⟨k, -, hk⟩ := hpaged row hmem hlater
  exact ⟨k, frames_after hlive hc k ▸ hk⟩

theorem applied_after_succ (hlive : (server.liveGroup groupId).isSome) (n : Nat) :
    (c.after p calls groupId server limit (n + 1)).applied =
      (((c.after p calls groupId server limit n).frames groupId server limit).foldl (Catcher.dispatch p calls)
        (c.after p calls groupId server limit n)).applied := by
  obtain ⟨g, hg⟩ := Option.isSome_iff_exists.mp hlive
  rw [Catcher.after, Function.iterate_succ_apply', ← Catcher.after]
  simp only [Catcher.request, peerGroupCatchup, hg, Catcher.take]
  unfold Catcher.store
  split
  · split <;> rfl
  · rfl

theorem pagesTaken_iff (hlive : (server.liveGroup groupId).isSome) :
    c.PagesTaken p calls groupId server limit ↔
      ∀ n, ∀ row ∈ (c.after p calls groupId server limit n).frames groupId server limit,
        row.1 ∈ (c.after p calls groupId server limit (n + 1)).applied := by
  refine forall_congr' fun n => ?_
  rw [applied_after_succ hlive, applied_iff_ready]
  exact (groupLog_nodup_ids server groupId).sublist (((List.take_sublist _ _).trans List.filter_sublist).map _)

end Main

/-- A chat frame of `bob`, archived at time 5. -/
def exampleArchived (frameId : String) : LogEntry :=
  ⟨exampleFrame frameId "chat.message" "bob" "bob", "chat.message", "5"⟩

def exampleServer (frameIds : List String) : Db :=
  { exampleNode.db with
    frameLog := Table.putAll ∅ (frameIds.map fun id => (("g", id), exampleArchived id)) }

def examplePausedNode : Node :=
  { exampleNode with
    db := { exampleNode.db with
      groups := Table.put ∅ "g"
        { founderPubkey := "alice", groupSymkeyEnc := List.replicate 32 7, paused := true } } }

end NexusGrid.Groups

import NexusGrid.Groups.Handlers
import NexusGrid.Lib.Run

/-! # Inbound frames

A frame reaches a node in two ways: `dispatch_inbound_frame` handles it, and on a relay host `relay_inbound_frame`
handles it and passes it on.
-/

namespace NexusGrid.Groups

open Lib

inductive FrameType
  | pendingRequest
  | pendingDecision
  | rosterUpdate
  | symkeyRotate
  | relayUpdate
  | rolesAssign
  | rolesDef
  | chatMessage
  | chatMute
  | chatDelete
  | presenceBeacon
  | usageReceipt
  | groupMeta
  | relayCode
deriving DecidableEq

def FrameType.ofText (text : String) : Option FrameType :=
  [("pending.request", .pendingRequest), ("pending.decision", .pendingDecision),
    ("roster.update", .rosterUpdate), ("symkey.rotate", .symkeyRotate),
    ("relay.update", .relayUpdate), ("roles.assign", .rolesAssign), ("roles.def", .rolesDef),
    ("chat.message", .chatMessage), ("chat.mute", .chatMute), ("chat.delete", .chatDelete),
    ("presence.beacon", .presenceBeacon), ("usage.receipt", .usageReceipt),
    ("group.meta", .groupMeta), ("relay.code", FrameType.relayCode)].lookup text

def FrameType.adminsOnly : FrameType → Bool
  | pendingRequest | pendingDecision => true
  | _ => false

/-- The capacity of `_DEDUPE`. -/
def dedupeCapacity : Nat := 4096

structure Node where
  db : Db
  dedupe : LruSet String dedupeCapacity

/-- `FrameDedupeCache.seen`: an empty id is never recorded. -/
def Node.seen (n : Node) (frameId : String) : Bool × Node :=
  if frameId = "" then (false, n)
  else (decide (frameId ∈ n.dedupe.items), { n with dedupe := n.dedupe.touch frameId })

def Db.localSymkey (p : Primitives) (db : Db) (groupId : String) : Option (List UInt8) :=
  match db.groups.get groupId with
  | none => none
  | some g => if g.groupSymkeyEnc = [] then none else p.eciesOpen g.groupSymkeyEnc

def Db.paused (db : Db) (groupId : String) : Bool :=
  match db.groups.get groupId with
  | none => false
  | some g => g.paused

section Receive

variable (p : Primitives) (call : Call)

def openInbound (db : Db) (frame : GroupFrame) : Except (Bool × String) OpenedFrame :=
  if db.paused frame.channel then .error (true, "group paused locally")
  else match db.localSymkey p frame.channel with
    | none => .error (false, "no symkey for channel")
    | some symkey =>
      if db.adminPubkeySet frame.channel = [] then .error (false, "no admin pubkeys")
      else match openFrame p call.now symkey (db.adminPubkeySet frame.channel) frame with
        | .error reason => .error (false, "verify: " ++ reason)
        | .ok opened => .ok opened

/-- The common part of both entry points: the id is recorded, and the frame is opened. -/
def receive (n : Node) (envelope : Json) : Node × Except (Bool × String) OpenedFrame :=
  match GroupFrame.fromDict p.repr envelope with
  | .error reason => (n, .error (false, "malformed: " ++ reason))
  | .ok frame =>
    -- the id is recorded here, before anything about the frame is verified
    match n.seen frame.frameId with
    | (true, n) => (n, .error (true, "duplicate"))
    | (false, n) => (n, openInbound p call n.db frame)

inductive Gate
  | passes
  | refused (reason : String)
  | raises
deriving DecidableEq

def requirePermission (db : Db) (o : OpenedFrame) (permission reason : String) : Gate :=
  if db.hasPermission o.channel o.senderPubkey permission then .passes else .refused reason

/-- `_rotate_sender_authorized`: `member:kick`, or the sender leaves. -/
def rotateSenderAuthorized (db : Db) (o : OpenedFrame) : Gate :=
  let kicked := match o.fields p with
    | some f => Json.textAt p.repr f "kicked_pubkey"
    | none => ""
  if kicked ≠ "" ∧ kicked = o.senderPubkey then .passes
  else requirePermission db o permMemberKick "sender lacks member:kick (and not a self-leave)"

def relayUpdateSenderAuthorized (db : Db) (o : OpenedFrame) : Gate :=
  let reason := "sender lacks relay:host / relay:share_content"
  match p.loads o.payload with
  | none => .refused reason
  | some (.obj f) =>
    if Json.textAt p.repr f "action" ∈ ["content_share", "content_revoke"] then
      requirePermission db o permRelayShareContent reason
    else requirePermission db o permRelayHost reason
  | some _ => .raises

/-- What the sender of a frame must hold. -/
def gate (db : Db) (o : OpenedFrame) : FrameType → Gate
  | .symkeyRotate => rotateSenderAuthorized p db o
  | .relayUpdate => relayUpdateSenderAuthorized p db o
  | .rolesAssign | .rolesDef | .groupMeta | .relayCode =>
    requirePermission db o permRoleAssign "sender lacks role:assign"
  | .chatMute => requirePermission db o permMemberMute "sender lacks member:mute"
  | .pendingRequest | .pendingDecision | .rosterUpdate | .chatMessage | .chatDelete
  | .presenceBeacon | .usageReceipt => .passes

def applyFrame (db : Db) (o : OpenedFrame) : FrameType → Applied
  | .pendingRequest => applyPendingRequest p call db o
  | .pendingDecision => applyPendingDecision p call db o
  | .rosterUpdate => applyRosterUpdate p call db o
  | .symkeyRotate => applySymkeyRotate p call db o
  | .relayUpdate => applyRelayUpdate p call db o
  | .rolesAssign => applyRolesAssign p call db o
  | .rolesDef => applyRolesDef p call db o
  | .chatMessage => applyChatMessage p call db o
  | .chatMute => applyChatMute p db o
  | .chatDelete => applyChatDelete p db o
  | .presenceBeacon => applyPresenceBeacon p call db o
  | .usageReceipt => applyUsageReceipt p call db o
  | .groupMeta => applyGroupMeta p db o
  | .relayCode => applyRelayCode p call db o

/-- `capture_frame_to_log`. -/
def captureFrame (db : Db) (envelope : Json) (o : OpenedFrame) (type : FrameType) : Db :=
  if o.channel = "" ∨ o.frameId = "" ∨ type = .presenceBeacon then db
  else match db.frameLog.get (o.channel, o.frameId) with
    | some _ => db
    | none => { db with frameLog := db.frameLog.put (o.channel, o.frameId)
                          ⟨envelope, o.frameType, call.now⟩ }

inductive Reply
  | answer (ok applied : Bool) (relayed : Nat) (reason : String)
  | raised
deriving DecidableEq

structure Outcome where
  node : Node
  reply : Reply
  /-- The frame that was handed to its handler. -/
  handled : Option OpenedFrame

def dispatchInboundFrame (n : Node) (envelope : Json) : Outcome :=
  match receive p call n envelope with
  | (n, .error (ok, reason)) => ⟨n, .answer ok false 0 reason, none⟩
  | (n, .ok o) =>
    match FrameType.ofText o.frameType with
    | none => ⟨n, .answer true false 0 ("unknown frame_type: " ++ o.frameType), none⟩
    | some type =>
      match gate p n.db o type with
      | .refused reason => ⟨n, .answer true false 0 reason, none⟩
      | .raises => ⟨n, .raised, none⟩
      | .passes =>
        match applyFrame p call n.db o type with
        | none => ⟨n, .raised, some o⟩
        | some (db, applied) =>
          ⟨{ n with db := captureFrame call db envelope o type }, .answer true applied 0 "", some o⟩

/-- The reachable members or approvers, but for the sender and this node. -/
def Db.resolveAudience (db : Db) (o : OpenedFrame) (type : FrameType) : List (String × String × String) :=
  db.members.rows.filterMap fun r =>
    let pubkey := r.1.2
    let peerAddress := PyStr.strip r.2.peerAddress
    let nodeId := PyStr.strip r.2.nodeId
    if r.1.1 = o.channel ∧ pubkey ≠ o.senderPubkey ∧ pubkey ≠ p.me ∧ ¬(peerAddress = "" ∧ nodeId = "") ∧
        (type.adminsOnly = true → db.hasPermission o.channel pubkey permGroupApprove = true) then
      some (pubkey, peerAddress, nodeId)
    else none

def fanOut (targets : List (String × String × String)) : Nat :=
  targets.countP fun t => match call.post t.2.1 t.2.2 with
    | some status => 200 ≤ status && status < 300
    | none => false

/-- `relay_inbound_frame`: only a node in the audience handles the frame. -/
def relayInboundFrame (n : Node) (envelope : Json) : Outcome :=
  match receive p call n envelope with
  | (n, .error (ok, reason)) => ⟨n, .answer ok false 0 reason, none⟩
  | (n, .ok o) =>
    match FrameType.ofText o.frameType with
    | none => ⟨n, .answer true false 0 ("unknown frame_type: " ++ o.frameType), none⟩
    | some type =>
      match gate p n.db o type with
      | .refused reason => ⟨n, .answer true false 0 reason, none⟩
      | .raises => ⟨n, .raised, none⟩
      | .passes =>
        let relayed := fanOut call (n.db.resolveAudience p o type)
        -- passed on and archived, but not applied
        if type.adminsOnly && !n.db.hasPermission o.channel p.me permGroupApprove then
          ⟨{ n with db := captureFrame call n.db envelope o type }, .answer true false relayed "", none⟩
        else
          match applyFrame p call n.db o type with
          | none => ⟨n, .raised, some o⟩
          | some (db, applied) =>
            ⟨{ n with db := captureFrame call db envelope o type }, .answer true applied relayed "", some o⟩

end Receive

inductive Entry
  | dispatch
  | relay
deriving DecidableEq

structure Delivery where
  entry : Entry
  call : Call
  envelope : Json

def deliver (p : Primitives) (n : Node) (d : Delivery) : Outcome :=
  match d.entry with
  | .dispatch => dispatchInboundFrame p d.call n d.envelope
  | .relay => relayInboundFrame p d.call n d.envelope

def Node.step (p : Primitives) (n : Node) (d : Delivery) : Node := (deliver p n d).node

end NexusGrid.Groups

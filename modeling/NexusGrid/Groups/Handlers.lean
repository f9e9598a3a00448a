import NexusGrid.Groups.Frame

/-! # The handlers of the fourteen frame types

The `apply_*` functions of `group_inbox.py`; `none` when one raises.
-/

namespace NexusGrid.Groups

open Lib

abbrev Applied := Option (Db × Bool)

section Handlers

variable (p : Primitives) (call : Call) (db : Db) (o : OpenedFrame)

def OpenedFrame.fields (p : Primitives) (o : OpenedFrame) : Option (List (String × Json)) :=
  match p.loads o.payload with
  | some (.obj fields) => some fields
  | _ => none

def applyPendingRequest : Applied :=
  match o.fields p with
  | none => none
  | some f =>
    let field := Json.textAt p.repr f
    if field "group_id" ≠ o.channel then some (db, false)
    else if field "request_id" = "" then some (db, false)
    else match db.pendingRequests.get (field "request_id") with
      | some _ => some (db, false)
      | none => some ({ db with pendingRequests := db.pendingRequests.put (field "request_id") {
          groupId := field "group_id"
          joinerPubkey := field "joiner_pubkey"
          joinerAddress := field "joiner_address"
          joinerX25519Pub := field "joiner_x25519_pub"
          joinerNodeId := field "joiner_node_id"
          inviteToken := field "invite_token"
          message := field "message"
          displayName := field "display_name"
          status := .pending
          createdAt := Json.textOr p.repr f "created_at" call.now
          decidedAt := ""
          decidedByPubkey := ""
          decisionReason := "" } }, true)

def RequestStatus.ofDecision (status : String) : Option RequestStatus :=
  if status = "approved" then some .approved
  else if status = "rejected" then some .rejected
  else none

def applyPendingDecision : Applied :=
  match o.fields p with
  | none => none
  | some f =>
    let field := Json.textAt p.repr f
    if field "group_id" ≠ o.channel then some (db, false)
    else if field "request_id" = "" then some (db, false)
    else match RequestStatus.ofDecision (field "status"), db.pendingRequests.get (field "request_id") with
      | some status, some row =>
        if row.status ≠ .pending then some (db, false)
        else some ({ db with pendingRequests := db.pendingRequests.put (field "request_id") { row with
            status := status
            decidedAt := Json.textOr p.repr f "decided_at" call.now
            decidedByPubkey := field "decided_by_pubkey"
            decisionReason := field "decision_reason" } }, true)
      | _, _ => some (db, false)

def addSystemMessage (groupId msgId body : String) (messages : Table (String × String) Message) :
    Table (String × String) Message :=
  match messages.get (groupId, msgId) with
  | some _ => messages
  | none => messages.put (groupId, msgId) {
      senderPubkey := "system"
      senderName := ""
      body := body
      sentAt := call.now
      receivedAt := call.now
      deleted := false
      replyTo := ""
      replySnippet := ""
      replySender := ""
      attachKind := ""
      attachName := ""
      attachMime := ""
      attachSize := 0
      attachData := "" }

/-- `apply_roster_update`: one member is added, with the role `member`. -/
def applyRosterUpdate : Applied :=
  match o.fields p with
  | none => none
  | some f =>
    let groupId := Json.textAt p.repr f "group_id"
    if groupId ≠ o.channel then some (db, false)
    else if Json.textAt p.repr f "action" ≠ "add" then some (db, false)
    else match Json.objAt f "member" with
      | none => none
      | some member =>
        let field := Json.textAt p.repr member
        let pubkey := field "pubkey"
        if pubkey = "" then some (db, false)
        else
          let db := match db.members.get (groupId, pubkey) with
            | none =>
              let name := if field "display_name" = "" then PyStr.take 8 pubkey else field "display_name"
              let joinedAt := if field "joined_at" = "" then call.now else field "joined_at"
              { db with
                members := db.members.put (groupId, pubkey) {
                  joinedAt := Json.textOr p.repr member "joined_at" call.now
                  lastHeartbeatAt := ""
                  lastSeenAt := call.now
                  displayName := field "display_name"
                  peerAddress := field "peer_address"
                  nodeId := field "node_id"
                  muted := false }
                messages := addSystemMessage call groupId ("sysjoin-" ++ pubkey ++ "-" ++ joinedAt)
                  (name ++ " joined the chat") db.messages }
            | some row => { db with members := db.members.put (groupId, pubkey) { row with
                displayName := Json.textOr p.repr member "display_name" row.displayName
                peerAddress := Json.textOr p.repr member "peer_address" row.peerAddress
                nodeId := Json.textOr p.repr member "node_id" row.nodeId } }
          let memberRoles := match db.memberRoles.get (groupId, pubkey, "member") with
            | some _ => db.memberRoles
            | none => db.memberRoles.put (groupId, pubkey, "member") ⟨o.senderPubkey, call.now⟩
          some ({ db with memberRoles := memberRoles }, true)

/-- The key addressed to this node, if there is one that opens. -/
def newSymkey (envelopes : List (String × Json)) : Option (List UInt8) :=
  if (Json.get envelopes p.me).truthy then
    match p.b64decode ((Json.get envelopes p.me).text p.repr) with
    | some envelope => p.eciesOpen envelope
    | none => none
  else none

/-- Part (a) of `apply_symkey_rotate`: adopt the new key. -/
def adoptSymkey (groupId : String) (envelopes : List (String × Json)) : Table String Group :=
  match newSymkey p envelopes, db.groups.get groupId with
  | some key, some group => db.groups.put groupId { group with groupSymkeyEnc := call.eciesSeal key }
  | _, _ => db.groups

/-- Part (b) of `apply_symkey_rotate`: drop the rows of the member that is gone. -/
def dropMember (groupId kickedPubkey : String) : Db :=
  let goneName := match db.members.get (groupId, kickedPubkey) with
    | some row => if row.displayName = "" then PyStr.take 8 kickedPubkey else row.displayName
    | none => PyStr.take 8 kickedPubkey
  let verb := if o.senderPubkey = kickedPubkey then "left the chat" else "was removed from the chat"
  { db with
    messages := addSystemMessage call groupId
      ("sysleave-" ++ kickedPubkey ++ "-" ++ PyStr.take 19 call.now) (goneName ++ " " ++ verb)
      db.messages
    members := db.members.delete (groupId, kickedPubkey)
    memberRoles := db.memberRoles.deleteWhere fun k _ => k.1 = groupId && k.2.1 = kickedPubkey
    grants := db.grants.deleteWhere fun _ r => r.groupId = groupId && r.memberPubkey = kickedPubkey }

def applySymkeyRotate : Applied :=
  match o.fields p with
  | none => none
  | some f =>
    let groupId := Json.textAt p.repr f "group_id"
    if groupId ≠ o.channel then some (db, false)
    else
      let kickedPubkey := Json.textAt p.repr f "kicked_pubkey"
      match Json.objAt f "envelopes" with
      | none => some (db, false)
      | some envelopes =>
        let db := { db with groups := adoptSymkey p call db groupId envelopes }
        if kickedPubkey ≠ "" ∧ kickedPubkey ≠ p.me then
          some (dropMember call db o groupId kickedPubkey, true)
        else some (db, true)

/-- An action of `apply_relay_update`; `none` does nothing, `some none` raises. -/
def relayAction (f : List (String × Json)) (action : String) : Option RelayBinding → Option (Option RelayBinding)
  | none =>
    if action = "add" then some (some {
      operatorPubkey := Json.textOr p.repr f "operator_pubkey" o.senderPubkey
      registeredAt := call.now
      lastSeenAt := ""
      status := .active
      label := ""
      region := ""
      priority := 0
      contentShare := false
      contentShareBy := ""
      contentShareAt := "" })
    else none
  | some row =>
    if action = "content_share" then some (some { row with
      contentShare := true
      contentShareBy := Json.textOr p.repr f "share_by" o.senderPubkey
      contentShareAt := call.now })
    else if action = "content_revoke" then some (some { row with
      contentShare := false
      contentShareBy := ""
      contentShareAt := "" })
    else if action = "add" then some (some { row with status := .active })
    else if action = "config" then
      let label := if (f.lookup "label").isSome then Json.textAt p.repr f "label" else row.label
      let region := if (f.lookup "region").isSome then Json.textAt p.repr f "region" else row.region
      let priority := if (f.lookup "priority").isSome then Json.intAt p.toInt f "priority"
        else some row.priority
      some (priority.map fun priority => { row with label, region, priority })
    -- `remove`
    else some (some { row with status := .retired })

def applyRelayUpdate : Applied :=
  match o.fields p with
  | none => none
  | some f =>
    let groupId := Json.textAt p.repr f "group_id"
    let action := Json.textAt p.repr f "action"
    let relayUrl := PyStr.strip (Json.textAt p.repr f "relay_url")
    if groupId ≠ o.channel then some (db, false)
    else if action ∉ ["add", "remove", "config", "content_share", "content_revoke"] ∨
        relayUrl = "" then some (db, false)
    else match relayAction p call o f action (db.relayBindings.get (groupId, relayUrl)) with
      | none => some (db, false)
      | some none => none
      | some (some row) => some ({ db with relayBindings := db.relayBindings.put (groupId, relayUrl) row }, true)

/-- `apply_relay_code`: only the source with the group's fingerprint is stored. -/
def applyRelayCode : Applied :=
  match o.fields p with
  | none => none
  | some f =>
    let groupId := Json.textAt p.repr f "group_id"
    let source := Json.textAt p.repr f "source"
    if groupId ≠ o.channel then some (db, false)
    else if PyStr.strip source = "" then some (db, false)
    else
      let source := String.ofList (PyStr.unixLines source.toList)
      match db.groups.get groupId with
      | none => some (db, false)
      | some g =>
        let frozen := PyStr.strip g.relayCodeFingerprint
        if frozen = "" ∨ p.fingerprint source ≠ frozen then some (db, false)
        else some ({ db with relayCode := db.relayCode.put groupId {
            source := source
            fingerprint := p.fingerprint source
            publishedBy := o.senderPubkey
            publishedAt := Json.textOr p.repr f "published_at" call.now } }, true)

def memberIsMuted (groupId pubkey : String) : Bool :=
  match db.members.get (groupId, pubkey) with
  | some row => row.muted
  | none => false

def applyChatMessage : Applied :=
  match o.fields p with
  | none => none
  | some f =>
    let field := Json.textAt p.repr f
    if field "group_id" ≠ o.channel ∨ field "msg_id" = "" then some (db, false)
    else if memberIsMuted db (field "group_id") o.senderPubkey then some (db, false)
    else match db.messages.get (field "group_id", field "msg_id") with
      -- a message that is there already counts as applied
      | some _ => some (db, true)
      | none => (Json.intAt p.toInt f "attach_size").map fun attachSize =>
        ({ db with messages := db.messages.put (field "group_id", field "msg_id") {
          senderPubkey := o.senderPubkey
          senderName := field "sender_name"
          body := field "body"
          sentAt := Json.textOr p.repr f "sent_at" call.now
          receivedAt := call.now
          deleted := false
          replyTo := field "reply_to"
          replySnippet := field "reply_snippet"
          replySender := field "reply_sender"
          attachKind := field "attach_kind"
          attachName := field "attach_name"
          attachMime := field "attach_mime"
          attachSize := attachSize
          attachData := field "attach_data" } }, true)

def applyChatMute : Applied :=
  match o.fields p with
  | none => none
  | some f =>
    let groupId := Json.textAt p.repr f "group_id"
    let target := Json.textAt p.repr f "member_pubkey"
    if groupId ≠ o.channel ∨ target = "" then some (db, false)
    else match db.members.get (groupId, target) with
      | none => some (db, false)
      | some row =>
        let row := { row with muted := (Json.get f "muted").truthy }
        some ({ db with members := db.members.put (groupId, target) row }, true)

/-- `apply_chat_delete`: only the author deletes a message. -/
def applyChatDelete : Applied :=
  match o.fields p with
  | none => none
  | some f =>
    let groupId := Json.textAt p.repr f "group_id"
    let msgId := Json.textAt p.repr f "msg_id"
    if groupId ≠ o.channel ∨ msgId = "" then some (db, false)
    else match db.messages.get (groupId, msgId) with
      -- deleting an unknown message counts as applied
      | none => some (db, true)
      | some row =>
        if row.senderPubkey ≠ o.senderPubkey then some (db, false)
        else
          let row := { row with deleted := true, body := "" }
          some ({ db with messages := db.messages.put (groupId, msgId) row }, true)

/-- `apply_presence_beacon`: the time only moves forward, and never past now. -/
def applyPresenceBeacon : Applied :=
  match o.fields p with
  | none => none
  | some f =>
    let sent := Json.textOr p.repr f "ts" call.now
    let ts := if call.now < sent then call.now else sent
    match db.members.get (o.channel, o.senderPubkey) with
    | none => some (db, false)
    | some row =>
      if ts ≤ row.lastSeenAt then some (db, true)
      else
        let row := { row with lastSeenAt := ts }
        some ({ db with members := db.members.put (o.channel, o.senderPubkey) row }, true)

def receiptFields : List String :=
  ["receipt_id", "group_id", "provider_pubkey", "consumer_pubkey", "kind", "ref_id", "amount", "ts"]

/-- `verify_receipt`: the signature of the receipt's own consumer. -/
def verifyReceipt (receipt : List (String × Json)) (sig : String) : Bool :=
  let pub := Json.textAt p.repr receipt "consumer_pubkey"
  let body := Json.obj (receiptFields.map fun k => (k, Json.get receipt k))
  match p.b64decode sig with
  | none => false
  | some signature =>
    pub ≠ "" && p.verify pub signature
      (utf8 "nexus-usage-receipt-v1" ++ [0] ++ p.canonical body)

def bumpStat (groupId member : String) (contributed consumed : Nat)
    (stats : Table (String × String) ComputeStat) : Table (String × String) ComputeStat :=
  let row := (stats.get (groupId, member)).getD ⟨0, 0, ""⟩
  stats.put (groupId, member)
    ⟨row.tasksContributed + contributed, row.tasksConsumed + consumed, call.now⟩

/-- `store_and_apply`, without this node's time series. -/
def storeAndApply (receipt : List (String × Json)) (sig : String) : Applied :=
  let field := Json.textAt p.repr receipt
  if verifyReceipt p receipt sig = false then some (db, false)
  else match Json.intAt p.toInt receipt "amount" with
    | none => none
    | some amount =>
      if field "receipt_id" = "" ∨ field "provider_pubkey" = "" ∨ field "consumer_pubkey" = "" then
        some (db, false)
      else match db.usageReceipts.get (field "receipt_id") with
        | some _ => some (db, false)
        | none =>
          let usageReceipts := db.usageReceipts.put (field "receipt_id") {
            groupId := field "group_id"
            providerPubkey := field "provider_pubkey"
            consumerPubkey := field "consumer_pubkey"
            kind := field "kind"
            refId := field "ref_id"
            amount := amount
            ts := Json.textOr p.repr receipt "ts" call.now
            sig := sig }
          let computeStats :=
            if field "group_id" ≠ "" ∧ field "kind" = "compute" then
              bumpStat call (field "group_id") (field "consumer_pubkey") 0 1
                (bumpStat call (field "group_id") (field "provider_pubkey") 1 0 db.computeStats)
            else db.computeStats
          some ({ db with usageReceipts, computeStats }, true)

def applyUsageReceipt : Applied :=
  match o.fields p with
  | none => none
  | some f =>
    match Json.objAt f "receipt" with
    | none => none
    | some receipt =>
      -- the frame counts as applied, whether or not the receipt was stored
      (storeAndApply p call db receipt (Json.textAt p.repr f "sig")).map fun r => (r.1, true)

def applyRolesAssign : Applied :=
  match o.fields p with
  | none => none
  | some f =>
    let groupId := Json.textAt p.repr f "group_id"
    let memberPubkey := Json.textAt p.repr f "member_pubkey"
    if groupId ≠ o.channel then some (db, false)
    else if memberPubkey = "" then some (db, false)
    else match Json.itemsAt f "roles", db.groups.get groupId, db.members.get (groupId, memberPubkey) with
      | some roles, some g, some _ =>
        -- nobody loses `member`, and the founder stays `founder`
        let founder := if memberPubkey = g.founderPubkey then ["founder"] else []
        let known (name : String) : Bool := (db.roles.get (groupId, name)).isSome
        let requested := ((Json.strings roles ++ ["member"] ++ founder).dedup).filter known
        if requested = [] then some (db, false)
        else
          let assignedAt := Json.textOr p.repr f "assigned_at" call.now
          let kept := db.memberRoles.deleteWhere fun k _ => k.1 = groupId && k.2.1 = memberPubkey
          some ({ db with memberRoles := kept.putAll (requested.map fun name =>
            ((groupId, memberPubkey, name), ⟨o.senderPubkey, assignedAt⟩)) }, true)
      | _, _, _ => some (db, false)

def encodeRolePermissions (permissions : List String) : List String :=
  permissions.dedup.insertionSort (fun a b => a ≤ b)

def applyRolesDef : Applied :=
  match o.fields p with
  | none => none
  | some f =>
    let groupId := Json.textAt p.repr f "group_id"
    let op := Json.textAt p.repr f "op"
    let roleName := PyStr.strip (Json.textAt p.repr f "role_name")
    if groupId ≠ o.channel then some (db, false)
    else if op ∉ ["upsert", "delete"] ∨ roleName = "" then some (db, false)
    else if op = "upsert" then
      if roleName ∈ ["founder", "member"] then some (db, false)
      else match Json.itemsAt f "permissions" with
        | none => some (db, false)
        | some items =>
          let now := Json.textOr p.repr f "updated_at" call.now
          let permissions := encodeRolePermissions (Json.strings items)
          let row := match db.roles.get (groupId, roleName) with
            | none => ⟨permissions, now, now⟩
            | some row => { row with permissions, updatedAt := now }
          some ({ db with roles := db.roles.put (groupId, roleName) row }, true)
    else if roleName ∈ ["founder", "admin", "member"] then some (db, false)
    else match db.roles.get (groupId, roleName) with
      | none => some (db, false)
      | some _ => some ({ db with
          memberRoles := db.memberRoles.deleteWhere fun k _ => k.1 = groupId && k.2.2 = roleName
          roles := db.roles.delete (groupId, roleName) }, true)

def avatarValid (avatar : String) : Bool :=
  avatar = "" || (avatar.length ≤ 65536 && "data:image/".toList.isPrefixOf avatar.toList &&
    (avatar.toList.take 64).tails.any (";base64,".toList.isPrefixOf ·))

def applyGroupMeta : Applied :=
  match o.fields p with
  | none => none
  | some f =>
    let groupId := Json.textAt p.repr f "group_id"
    let avatar := Json.textAt p.repr f "avatar"
    if groupId ≠ o.channel then some (db, false)
    else if (f.lookup "avatar").isNone then some (db, false)
    else if avatarValid avatar = false then some (db, false)
    else match db.groups.get groupId with
      | none => some (db, false)
      | some g => some ({ db with groups := db.groups.put groupId { g with avatar } }, true)

end Handlers

end NexusGrid.Groups

import NexusGrid.Groups.PeerRequests

/-! # Admission to a group

Joining through the node of an admin: `peer_group_join_request`, `approve_pending_request` and
`revoke_secure_join_link`.
-/

namespace NexusGrid.Groups

open Lib

/-! ## Invites and tokens -/

inductive InviteStatus
  | active
  | exhausted
  | revoked
  | expired
deriving DecidableEq

def InviteStatus.text : InviteStatus → String
  | active => "active"
  | exhausted => "exhausted"
  | revoked => "revoked"
  | expired => "expired"

/-- A row of `group_join_invites_v2`. -/
structure JoinInvite where
  groupId : String
  founderPubkey : String
  maxUses : Nat
  usedCount : Nat := 0
  status : InviteStatus := .active
  lastUsedAt : String := ""
deriving DecidableEq

/-- `int(max_uses or 1)`. -/
def JoinInvite.cap (row : JoinInvite) : Nat := if row.maxUses = 0 then 1 else row.maxUses

structure GroupJoinInviteToken where
  inviteId : String
  groupId : String
  founderPubkey : String
  issuedAt : String
  expiresAt : String
  maxUses : Int
deriving DecidableEq

section SignedInvite

variable (p : Primitives)

def readInvitePayload (payload : List (String × Json)) : Option GroupJoinInviteToken := do
  let inviteId ← payload.lookup "invite_id"
  let groupId ← payload.lookup "group_id"
  let founderPubkey ← payload.lookup "founder_pubkey"
  let issuedAt ← payload.lookup "issued_at"
  let expiresAt ← payload.lookup "expires_at"
  let maxUses ← (payload.lookup "max_uses").bind fun
    | .int n => some n
    | v => p.toInt v
  return ⟨inviteId.text p.repr, groupId.text p.repr, founderPubkey.text p.repr,
    issuedAt.text p.repr, expiresAt.text p.repr, maxUses⟩

/-- `verify_group_join_invite` as the join handler calls it. -/
def verifyGroupJoinInvite (now invHex : String) : Option GroupJoinInviteToken :=
  match (p.fromHex invHex).bind p.loads with
  | some (.obj envelope) =>
    match envelope.lookup "payload", envelope.lookup "signature" with
    | some (.obj payload), some (.str signatureHex) =>
      match readInvitePayload p payload, p.fromHex signatureHex with
      | some inv, some signature =>
        if inv.founderPubkey.length ≠ 64 ∨ signatureHex.length ≠ 128 ∨ inv.maxUses < 1 ∨
            p.verify inv.founderPubkey signature (p.canonical (.obj payload)) = false ∨
            inv.expiresAt ≤ now then none
        else some inv
      | _, _ => none
    | _, _ => none
  | _ => none

end SignedInvite

/-- The reason codes of `group_invite.py`. -/
inductive InviteReason
  | notFound
  | rotated
  | inactive
  | capReached
  | wrongGroup
deriving DecidableEq

def InviteReason.text : InviteReason → String
  | notFound => "not_found"
  | rotated => "rotated"
  | inactive => "inactive"
  | capReached => "cap_reached"
  | wrongGroup => "wrong_group"

/-- A row of `group_invite_links`. -/
structure InviteLink where
  groupId : String
  /-- 0 is no cap. -/
  slotCap : Nat
  slotsFilled : Nat
  active : Bool
  /-- Empty for a token that was not rotated. -/
  rotatedAt : String
deriving DecidableEq

def validateInvite (row : Option InviteLink) (groupId : Option String) : Except InviteReason InviteLink :=
  match row with
  | none => .error .notFound
  | some link =>
    if groupId.any (· ≠ link.groupId) then .error .wrongGroup
    else if link.rotatedAt ≠ "" then .error .rotated
    else if link.active = false then .error .inactive
    else if 0 < link.slotCap ∧ link.slotCap ≤ link.slotsFilled then .error .capReached
    else .ok link

/-! ## What an admission writes -/

structure AdmissionDb extends Db where
  joinInvites : Table String JoinInvite
  inviteLinks : Table String InviteLink

/-- The number of `GroupMember` rows of a group. -/
def Db.memberCount (db : Db) (groupId : String) : Nat := db.members.rows.countP fun r => r.1.1 = groupId

def orRaise {α : Type} : Option α → Except HttpError α
  | some a => .ok a
  | none => .error ⟨500, "Internal Server Error"⟩

structure Draws where
  /-- `uuid.uuid4().hex`, for a request that is parked. -/
  requestId : String
  /-- `secrets.token_hex(16)`. -/
  grantId : String
  sealing : Sealing

structure Applicant where
  pubkey : String
  inviteToken : String
  displayName : String
  peerAddress : String
  x25519Pub : String
  nodeId : String

/-- What `issue_member_grant` returns; the role is always `member`. -/
structure IssuedGrant where
  grantBlob : List UInt8
  issuedAt : String
  expiresAt : String
  symkeyEnvelope : List UInt8
deriving DecidableEq

section Issue

variable (p : Primitives) (call : Call) (draws : Draws) (db : AdmissionDb)

def consumeInvite (token groupId : String) (read : Option InviteLink) : Except HttpError AdmissionDb :=
  match validateInvite (read.or (db.inviteLinks.get token)) (some groupId) with
  | .error reason => .error ⟨410, "invite closed: " ++ reason.text⟩
  | .ok link =>
    let filled := link.slotsFilled + 1
    let autoOff := decide (0 < link.slotCap ∧ link.slotCap ≤ filled)
    (orRaise (db.inviteLinks.get token)).map fun row =>
      { db with inviteLinks := (db.inviteLinks.put token
        { row with slotsFilled := filled, active := row.active && !autoOff }) }

def consumeToken (token groupId : String) (read : Option InviteLink) : Except HttpError AdmissionDb :=
  if token = "" then .ok db else consumeInvite db token groupId read

def addMember (groupId : String) (a : Applicant) (grantBlob : List UInt8) : Option AdmissionDb := do
  let members ← db.members.insertNew (groupId, a.pubkey) {
    joinedAt := call.now
    lastHeartbeatAt := call.now
    displayName := a.displayName
    peerAddress := a.peerAddress
    memberX25519Pub := a.x25519Pub
    nodeId := a.nodeId }
  let memberRoles ← db.memberRoles.insertNew (groupId, a.pubkey, "member") ⟨p.me, call.now⟩
  let grants ← db.grants.insertNew draws.grantId {
    groupId := groupId
    memberPubkey := a.pubkey
    issuedByPubkey := p.me
    issuedAt := call.now
    expiresAt := draws.sealing.expiresAt
    nonce := draws.sealing.grantNonce
    signature := grantBlob
    rolesJson := "[\"member\"]" }
  return { db with members, memberRoles, grants }

/-- `_ensure_group_symkey`, on the group as the session has read it. -/
def ensureGroupSymkey (groupId : String) (group : Group) : Option (AdmissionDb × List UInt8) :=
  if group.groupSymkeyEnc ≠ [] then (p.eciesOpen group.groupSymkeyEnc).map fun key => (db, key)
  else (db.groups.get groupId).map fun row =>
    ({ db with groups := (db.groups.put groupId
        { row with groupSymkeyEnc := call.eciesSeal draws.sealing.symkey }) }, draws.sealing.symkey)

def sealForJoiner (groupId x25519Pub : String) (group : Group) : Option (AdmissionDb × List UInt8) :=
  if x25519Pub = "" then some (db, [])
  else do
    let (db, key) ← ensureGroupSymkey p call draws db groupId group
    let envelope ← draws.sealing.sealTo x25519Pub key
    return (db, envelope)

def issueMemberGrant (groupId : String) (group : Group) (a : Applicant)
    (read : Option InviteLink) : Except HttpError (AdmissionDb × IssuedGrant) := do
  let db ← consumeToken db a.inviteToken groupId read
  let s := draws.sealing
  -- `sign_grant` refuses other keys
  let grantBlob ← orRaise (if a.pubkey.length = 64 then
    some (signGrant p s ⟨groupId, a.pubkey, ["member"], p.me, call.now, s.expiresAt, s.grantNonce⟩)
    else none)
  let db ← orRaise (addMember p call draws db groupId a grantBlob)
  let (db, envelope) ← orRaise (sealForJoiner p call draws db groupId a.x25519Pub group)
  return (db, ⟨grantBlob, call.now, s.expiresAt, envelope⟩)

end Issue

structure JoinRequestBody where
  inviteToken : String := ""
  signedInviteHex : String := ""
  joinerPubkey : String
  message : String := ""
  joinerAddress : String := ""
  displayName : String := ""
  joinerX25519Pub : String := ""
  joinerNodeId : String := ""
deriving DecidableEq

def JoinRequestBody.applicant (body : JoinRequestBody) : Applicant where
  pubkey := body.joinerPubkey
  inviteToken := body.inviteToken
  displayName := body.displayName
  peerAddress := body.joinerAddress
  x25519Pub := body.joinerX25519Pub
  nodeId := body.joinerNodeId

structure InviteRead where
  groupId : String
  /-- The signed invite, by its id. -/
  signed : Option (String × JoinInvite)
  /-- The row of the bearer token. -/
  link : Option InviteLink
deriving DecidableEq

inductive JoinAnswer
  | pending (requestId groupId groupName founderPubkey : String)
  | granted (groupId groupName founderPubkey founderDisplayName : String)
      (adminPubkeys : List String) (grant : IssuedGrant)

def Group.isPrivate (g : Group) : Bool := orElse g.privacyMode "open" = "private"

section JoinRequest

variable (p : Primitives) (call : Call) (draws : Draws) (db : AdmissionDb)

def readSignedInvite (inv : GroupJoinInviteToken) : Except HttpError InviteRead :=
  match db.joinInvites.get inv.inviteId with
  | none => .error ⟨404, "invite not recognised by this founder (revoked or never issued)"⟩
  | some row =>
    if row.status = .revoked ∨ row.status = .exhausted then
      .error ⟨410, "invite " ++ row.status.text⟩
    else if row.cap ≤ row.usedCount then .error ⟨410, "invite max_uses reached"⟩
    else if row.groupId ≠ inv.groupId then .error ⟨400, "invite group mismatch"⟩
    else if row.founderPubkey ≠ inv.founderPubkey then
      .error ⟨403, "invite not signed by this group's founder"⟩
    else .ok ⟨inv.groupId, some (inv.inviteId, row), none⟩

/-- `peer_group_join_request` up to the invite; the signed one comes first. -/
def readInvite (body : JoinRequestBody) : Except HttpError InviteRead :=
  if p.fromHex body.joinerPubkey = none then .error ⟨400, "joiner_pubkey not hex"⟩
  else if body.inviteToken = "" ∧ body.signedInviteHex = "" then
    .error ⟨400, "invite_token or signed_invite_hex must be provided"⟩
  else if body.signedInviteHex ≠ "" then
    match verifyGroupJoinInvite p call.now body.signedInviteHex with
    | none => .error ⟨400, "signed invite is invalid, expired, or malformed"⟩
    | some inv => readSignedInvite db inv
  else match validateInvite (db.inviteLinks.get body.inviteToken) none with
    | .error .notFound => .error ⟨404, "invite not found"⟩
    | .error reason => .error ⟨410, "invite closed: " ++ reason.text⟩
    | .ok link => .ok ⟨link.groupId, none, some link⟩

def readGroup (groupId joinerPubkey : String) : Except HttpError (Group × Nat) :=
  match db.members.get (groupId, joinerPubkey) with
  | some _ =>
    if joinerPubkey = p.me then
      .error ⟨409, "joiner pubkey matches this admin node's own group pubkey — both nodes are " ++
        "sharing the same .nexus_group_key file. Run each node from its own working directory."⟩
    else .error ⟨409, "already a member of this group"⟩
  | none =>
    match db.liveGroup groupId with
    | none => .error ⟨404, "group not found"⟩
    | some g =>
      let count := db.memberCount groupId
      if 0 < g.maxMembers ∧ g.maxMembers ≤ count then
        .error ⟨409, "group is full (" ++ toString count ++ "/" ++ toString g.maxMembers ++ " members)"⟩
      else .ok (g, count)

def requestPayload (requestId : String) (r : JoinRequest) : Json :=
  .obj [("request_id", .str requestId), ("group_id", .str r.groupId),
    ("joiner_pubkey", .str r.joinerPubkey), ("joiner_address", .str r.joinerAddress),
    ("joiner_x25519_pub", .str r.joinerX25519Pub), ("joiner_node_id", .str r.joinerNodeId),
    ("invite_token", .str r.inviteToken), ("message", .str r.message),
    ("display_name", .str r.displayName), ("created_at", .str r.createdAt)]

/-- A private group parks the request, with nothing of a signed invite. -/
def parkRequest (body : JoinRequestBody) (groupId : String) (group : Group) :
    Except HttpError (AdmissionDb × JoinAnswer) := do
  let row : JoinRequest := {
    groupId := groupId
    joinerPubkey := body.joinerPubkey
    joinerAddress := body.joinerAddress
    joinerX25519Pub := body.joinerX25519Pub
    joinerNodeId := body.joinerNodeId
    inviteToken := body.inviteToken
    message := body.message
    displayName := body.displayName
    status := .pending
    createdAt := call.now
    decidedAt := ""
    decidedByPubkey := ""
    decisionReason := "" }
  let pendingRequests ← orRaise (db.pendingRequests.insertNew draws.requestId row)
  let _ ← orRaise (publishFrame p call draws.sealing db.toDb groupId "pending.request"
    (requestPayload draws.requestId row))
  return ({ db with pendingRequests }, .pending draws.requestId groupId group.name group.founderPubkey)

def JoinInvite.used (current row : JoinInvite) (now : String) : JoinInvite :=
  { current with
    usedCount := row.usedCount + 1
    lastUsedAt := now
    status := if row.cap ≤ row.usedCount + 1 then .exhausted else current.status }

def useInvite (signed : Option (String × JoinInvite)) : Option AdmissionDb :=
  match signed with
  | none => some db
  | some (inviteId, row) =>
    (db.joinInvites.get inviteId).map fun current =>
      { db with joinInvites := db.joinInvites.put inviteId (current.used row call.now) }

def admitJoiner (body : JoinRequestBody) (read : InviteRead) (group : Group) :
    Except HttpError (AdmissionDb × JoinAnswer) := do
  let (db, grant) ←
    issueMemberGrant p call draws db read.groupId group body.applicant read.link
  let db ← orRaise (useInvite call db read.signed)
  let name := orElse body.displayName (PyStr.take 8 body.joinerPubkey)
  let messages := addSystemMessage call read.groupId
    ("sysjoin-" ++ body.joinerPubkey ++ "-" ++ call.now) (name ++ " joined the chat") db.messages
  let founder := db.members.get (read.groupId, group.founderPubkey)
  return ({ db with messages }, .granted read.groupId group.name group.founderPubkey
    ((founder.map Member.displayName).getD "")
    ((db.adminPubkeySet read.groupId).insertionSort (· ≤ ·)) grant)

/-- `peer_group_join_request` from the first write on. -/
def commitJoin (body : JoinRequestBody) (read : InviteRead) (group : Group) :
    Except HttpError (AdmissionDb × JoinAnswer) :=
  if group.isPrivate then parkRequest p call draws db body read.groupId group
  else admitJoiner p call draws db body read group

end JoinRequest

def RequestStatus.text : RequestStatus → String
  | pending => "pending"
  | approved => "approved"
  | rejected => "rejected"

section Decide

variable (p : Primitives) (call : Call) (draws : Draws) (db : AdmissionDb)

/-- `_require_group_exists` and `_require_perm`. -/
def requireGroupPerm (groupId permission : String) : Except HttpError Group :=
  match db.liveGroup groupId with
  | none => .error ⟨404, "group not found"⟩
  | some g =>
    if db.hasPermission groupId p.me permission then .ok g
    else .error ⟨403, "caller lacks permission '" ++ permission ++ "' in group " ++ groupId⟩

/-- `approve_pending_request` up to the first write. -/
def readApproval (groupId requestId : String) : Except HttpError (Group × JoinRequest) := do
  let g ← requireGroupPerm p db groupId permGroupApprove
  match db.pendingRequests.get requestId with
  | none => .error ⟨404, "pending request not found"⟩
  | some row =>
    if row.groupId ≠ groupId then .error ⟨404, "pending request not found"⟩
    else if row.status ≠ .pending then .error ⟨409, "request already " ++ row.status.text⟩
    else .ok (g, row)

def JoinRequest.applicant (row : JoinRequest) : Applicant where
  pubkey := row.joinerPubkey
  inviteToken := row.inviteToken
  displayName := row.displayName
  peerAddress := row.joinerAddress
  x25519Pub := row.joinerX25519Pub
  nodeId := row.joinerNodeId

/-- `approve_pending_request` from the first write on. -/
def commitApproval (groupId requestId : String) (group : Group) (row : JoinRequest) :
    Except HttpError AdmissionDb := do
  let (db, _) ← issueMemberGrant p call draws db groupId group row.applicant none
  let current ← orRaise (db.pendingRequests.get requestId)
  return { db with pendingRequests := (db.pendingRequests.put requestId { current with
    status := .approved
    decidedAt := call.now
    decidedByPubkey := p.me }) }

def permGroupInvite : String := "group:invite"

/-- `revoke_secure_join_link` up to the write: whether there is something to revoke. -/
def readRevocation (groupId inviteId : String) : Except HttpError Bool := do
  let _ ← requireGroupPerm p db groupId permGroupInvite
  match db.joinInvites.get inviteId with
  | none => .error ⟨404, "invite not found"⟩
  | some row =>
    if row.groupId ≠ groupId then .error ⟨404, "invite not found"⟩
    else .ok (row.status ≠ .revoked && row.status ≠ .exhausted)

/-- The write of `revoke_secure_join_link`. -/
def commitRevocation (inviteId : String) : Option AdmissionDb := (db.joinInvites.get inviteId).map fun row =>
    { db with joinInvites := db.joinInvites.put inviteId { row with status := .revoked } }

end Decide

section Writes

variable {p : Primitives} {call : Call} {draws : Draws} {db db' : AdmissionDb}
  {groupId requestId inviteId : String} {group : Group} {a : Applicant} {body : JoinRequestBody}
  {read : InviteRead} {answer : JoinAnswer}

theorem bind_eq_ok {ε α β : Type} {x : Except ε α} {f : α → Except ε β} {b : β} :
    x >>= f = .ok b ↔ ∃ a, x = .ok a ∧ f a = .ok b := by
  cases x with
  | error e => simp [bind, Except.bind]
  | ok a => simp [bind, Except.bind]

theorem orRaise_eq_ok {α : Type} {o : Option α} {a : α} : orRaise o = .ok a ↔ o = some a := by
  cases o with
  | none => simp [orRaise]
  | some a => simp [orRaise]

structure AddsMember (db db' : Db) (groupId pubkey : String) : Prop where
  new : db.members.get (groupId, pubkey) = none
  members : ∃ row, db'.members = db.members.put (groupId, pubkey) row
  caps : ∀ h, (db'.groups.get h).map Group.maxMembers = (db.groups.get h).map Group.maxMembers

theorem AddsMember.memberCount {db db' : Db} {groupId pubkey : String}
    (h : AddsMember db db' groupId pubkey) (g : String) :
    db'.memberCount g = db.memberCount g + if groupId = g then 1 else 0 := by
  obtain ⟨row, hmembers⟩ := h.members
  unfold Db.memberCount
  rw [hmembers, Table.countP_rows_put h.new]
  simp only [decide_eq_true_eq]

theorem consumeToken_spec {token : String} {link : Option InviteLink}
    (h : consumeToken db token groupId link = .ok db') : ∃ inviteLinks, db' = { db with inviteLinks } := by
  unfold consumeToken at h
  split at h
  case isTrue =>
    cases h
    exact ⟨_, rfl⟩
  case isFalse =>
  unfold consumeInvite at h
  split at h
  case h_1 => cases h
  case h_2 link _ =>
    cases hrow : db.inviteLinks.get token with
    | none => rw [hrow] at h; cases h
    | some row =>
      rw [hrow] at h
      cases h
      exact ⟨_, rfl⟩

theorem addMember_spec {grantBlob : List UInt8} (h : addMember p call draws db groupId a grantBlob = some db') :
    AddsMember db.toDb db'.toDb groupId a.pubkey ∧ db'.joinInvites = db.joinInvites := by
  simp only [addMember, Option.bind_eq_bind, Option.bind_eq_some_iff, Option.pure_def, Option.some.injEq] at h
  obtain ⟨members, hmembers, memberRoles, -, grants, -, rfl⟩ := h
  obtain ⟨hnew, rfl⟩ := Table.insertNew_eq_some.mp hmembers
  exact ⟨⟨hnew, ⟨_, rfl⟩, fun _ => rfl⟩, rfl⟩

theorem ensureGroupSymkey_spec {key : List UInt8}
    (h : ensureGroupSymkey p call draws db groupId group = some (db', key)) :
    db'.members = db.members ∧ db'.joinInvites = db.joinInvites ∧
      ∀ g, (db'.groups.get g).map Group.maxMembers = (db.groups.get g).map Group.maxMembers := by
  unfold ensureGroupSymkey at h
  split at h
  · obtain ⟨key, -, heq⟩ := Option.map_eq_some_iff.mp h
    cases heq
    exact ⟨rfl, rfl, fun _ => rfl⟩
  obtain ⟨row, hrow, heq⟩ := Option.map_eq_some_iff.mp h
  cases heq
  refine ⟨rfl, rfl, fun g => ?_⟩
  refine Table.map_get_put Group.maxMembers hrow ?_ g
  rfl

theorem sealForJoiner_spec {x25519Pub : String} {envelope : List UInt8}
    (h : sealForJoiner p call draws db groupId x25519Pub group = some (db', envelope)) :
    db'.members = db.members ∧ db'.joinInvites = db.joinInvites ∧
      ∀ g, (db'.groups.get g).map Group.maxMembers = (db.groups.get g).map Group.maxMembers := by
  unfold sealForJoiner at h
  split at h
  · cases h
    exact ⟨rfl, rfl, fun _ => rfl⟩
  simp only [Option.bind_eq_bind, Option.bind_eq_some_iff, Option.pure_def, Option.some.injEq, Prod.mk.injEq] at h
  obtain ⟨⟨db₁, key⟩, hensure, _, -, rfl, -⟩ := h
  exact ensureGroupSymkey_spec hensure

theorem issueMemberGrant_spec {link : Option InviteLink} {grant : IssuedGrant}
    (h : issueMemberGrant p call draws db groupId group a link = .ok (db', grant)) :
    AddsMember db.toDb db'.toDb groupId a.pubkey ∧ db'.joinInvites = db.joinInvites := by
  obtain ⟨db₁, hconsume, h⟩ := bind_eq_ok.mp h
  obtain ⟨grantBlob, -, h⟩ := bind_eq_ok.mp h
  obtain ⟨db₂, hadd, h⟩ := bind_eq_ok.mp h
  obtain ⟨⟨db₃, envelope⟩, hseal, h⟩ := bind_eq_ok.mp h
  cases h
  obtain ⟨_, rfl⟩ := consumeToken_spec hconsume
  obtain ⟨hadds, hinvites⟩ := addMember_spec (orRaise_eq_ok.mp hadd)
  obtain ⟨hmembers, hinvites', hcaps⟩ := sealForJoiner_spec (orRaise_eq_ok.mp hseal)
  refine ⟨⟨hadds.new, ?_, fun g => (hcaps g).trans (hadds.caps g)⟩, hinvites'.trans hinvites⟩
  obtain ⟨row, hrow⟩ := hadds.members
  exact ⟨row, hmembers.trans hrow⟩

theorem parkRequest_spec (h : parkRequest p call draws db body groupId group = .ok (db', answer)) :
    (∃ pendingRequests, db' = { db with pendingRequests }) ∧
      answer = .pending draws.requestId groupId group.name group.founderPubkey := by
  obtain ⟨pendingRequests, -, h⟩ := bind_eq_ok.mp h
  obtain ⟨_, -, h⟩ := bind_eq_ok.mp h
  cases h
  exact ⟨⟨_, rfl⟩, rfl⟩

def UsesInvite (now : String) (signed : Option (String × JoinInvite))
    (invites invites' : Table String JoinInvite) : Prop :=
  match signed with
  | none => invites' = invites
  | some (inviteId, row) => ∃ current, invites.get inviteId = some current ∧
      invites' = invites.put inviteId (current.used row now)

theorem useInvite_spec {signed : Option (String × JoinInvite)} (h : useInvite call db signed = some db') :
    db'.toDb = db.toDb ∧ UsesInvite call.now signed db.joinInvites db'.joinInvites := by
  unfold useInvite at h
  split at h
  case h_1 =>
    cases h
    exact ⟨rfl, rfl⟩
  case h_2 inviteId row =>
    obtain ⟨current, hcurrent, rfl⟩ := Option.map_eq_some_iff.mp h
    exact ⟨rfl, current, hcurrent, rfl⟩

theorem admitJoiner_spec (h : admitJoiner p call draws db body read group = .ok (db', answer)) :
    AddsMember db.toDb db'.toDb read.groupId body.joinerPubkey ∧
      UsesInvite call.now read.signed db.joinInvites db'.joinInvites ∧ ∃ name admins grant, answer =
        .granted read.groupId group.name group.founderPubkey name admins grant := by
  obtain ⟨⟨db₁, grant⟩, hissue, h⟩ := bind_eq_ok.mp h
  obtain ⟨db₂, huse, h⟩ := bind_eq_ok.mp h
  cases h
  obtain ⟨hadds, hinvites⟩ := issueMemberGrant_spec hissue
  obtain ⟨hdb, hused⟩ := useInvite_spec (orRaise_eq_ok.mp huse)
  rw [hinvites] at hused
  rw [← hdb] at hadds
  exact ⟨⟨hadds.new, hadds.members, hadds.caps⟩, hused, _, _, _, rfl⟩

theorem commitApproval_spec {row : JoinRequest}
    (h : commitApproval p call draws db groupId requestId group row = .ok db') :
    AddsMember db.toDb db'.toDb groupId row.joinerPubkey ∧ db'.joinInvites = db.joinInvites := by
  obtain ⟨⟨db₁, grant⟩, hissue, h⟩ := bind_eq_ok.mp h
  obtain ⟨current, -, h⟩ := bind_eq_ok.mp h
  cases h
  obtain ⟨hadds, hinvites⟩ := issueMemberGrant_spec hissue
  exact ⟨⟨hadds.new, hadds.members, hadds.caps⟩, hinvites⟩

def JoinInvite.Usable (row : JoinInvite) : Prop :=
  row.status ≠ .revoked ∧ row.status ≠ .exhausted ∧ row.usedCount < row.cap

theorem readInvite_spec (h : readInvite p call db body = .ok read) {row : JoinInvite}
    (hsigned : read.signed = some (inviteId, row)) : db.joinInvites.get inviteId = some row ∧ row.Usable := by
  unfold readInvite at h
  split at h
  case isTrue => cases h
  case isFalse =>
  split at h
  case isTrue => cases h
  case isFalse =>
  split at h
  case isFalse =>
    split at h
    case h_1 => cases h
    case h_2 => cases h
    case h_3 =>
      cases h
      cases hsigned
  case isTrue =>
  split at h
  case h_1 => cases h
  case h_2 inv _ =>
  unfold readSignedInvite at h
  split at h
  case h_1 => cases h
  case h_2 current hcurrent =>
  split at h
  case isTrue => cases h
  case isFalse hstatus =>
  split at h
  case isTrue => cases h
  case isFalse hcap =>
  split at h
  case isTrue => cases h
  case isFalse =>
  split at h
  case isTrue => cases h
  case isFalse =>
    cases h
    cases hsigned
    rw [not_or] at hstatus
    exact ⟨hcurrent, hstatus.1, hstatus.2, Nat.lt_of_not_le hcap⟩

theorem readGroup_spec {pubkey : String} {count : Nat} (h : readGroup p db groupId pubkey = .ok (group, count)) :
    db.groups.get groupId = some group ∧ count = db.memberCount groupId ∧
      (0 < group.maxMembers → (count : Int) < group.maxMembers) := by
  unfold readGroup at h
  split at h
  case h_1 =>
    split at h
    · cases h
    · cases h
  case h_2 =>
  split at h
  case h_1 => cases h
  case h_2 g hlive =>
  dsimp only at h
  split at h
  case isTrue => cases h
  case isFalse hroom =>
    cases h
    refine ⟨(liveGroup_eq_some.mp hlive).1, rfl, fun hcap => ?_⟩
    by_contra hfull
    exact hroom ⟨hcap, not_lt.mp hfull⟩

end Writes

end NexusGrid.Groups

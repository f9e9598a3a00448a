import NexusGrid.Lib.Json
import NexusGrid.Lib.LruSet
import NexusGrid.Lib.PyStr
import NexusGrid.Lib.Table

/-! # The group tables of a node

The rows of the group tables (`storage/models.py`), and the permission check over them.
-/

namespace NexusGrid.Groups

open Lib

/-- A row of `groups`. -/
structure Group where
  founderPubkey : String
  /-- The group key, sealed to this node. -/
  groupSymkeyEnc : List UInt8
  paused : Bool := false
  avatar : String := ""
  relayCodeFingerprint : String := ""
  name : String := ""
  createdAt : String := ""
  /-- Empty for a group that is not deleted. -/
  deletedAt : String := ""
  /-- `open` or `private`; a joiner stores what the founder's node sends. -/
  privacyMode : String := "open"
  founderAddress : String := ""
  maxMembers : Int := 0
  /-- The time of the last frame that was caught up with. -/
  lastCatchupAt : String := ""
deriving DecidableEq

/-- A row of `group_members`, with the defaults of its columns. -/
structure Member where
  joinedAt : String
  lastHeartbeatAt : String := ""
  lastSeenAt : String := ""
  displayName : String := ""
  peerAddress : String := ""
  nodeId : String := ""
  muted : Bool := false
  /-- Empty when it is not known. -/
  memberX25519Pub : String := ""
deriving DecidableEq

/-- A row of `group_roles`. -/
structure Role where
  permissions : List String
  createdAt : String
  updatedAt : String
deriving DecidableEq

/-- A row of `group_member_roles`. -/
structure RoleAssignment where
  assignedByPubkey : String
  assignedAt : String
deriving DecidableEq

/-- A row of `group_grants`: a signed grant, next to the columns of its payload. -/
structure GroupGrant where
  groupId : String
  memberPubkey : String
  issuedByPubkey : String
  issuedAt : String
  expiresAt : String
  nonce : String
  /-- The signed blob. -/
  signature : List UInt8
  rolesJson : String
deriving DecidableEq

inductive RequestStatus
  | pending
  | approved
  | rejected
deriving DecidableEq

/-- A row of `group_pending_join_requests`. -/
structure JoinRequest where
  groupId : String
  joinerPubkey : String
  joinerAddress : String
  joinerX25519Pub : String
  joinerNodeId : String
  inviteToken : String
  message : String
  displayName : String
  status : RequestStatus
  createdAt : String
  decidedAt : String
  decidedByPubkey : String
  decisionReason : String
deriving DecidableEq

inductive BindingStatus
  | active
  | unreachable
  | retired
deriving DecidableEq

/-- A row of `group_relay_bindings`. -/
structure RelayBinding where
  operatorPubkey : String
  registeredAt : String
  lastSeenAt : String
  status : BindingStatus
  label : String
  region : String
  priority : Int
  contentShare : Bool
  contentShareBy : String
  contentShareAt : String
deriving DecidableEq

/-- A row of `group_messages`. -/
structure Message where
  senderPubkey : String
  senderName : String
  body : String
  sentAt : String
  receivedAt : String
  deleted : Bool
  replyTo : String
  replySnippet : String
  replySender : String
  attachKind : String
  attachName : String
  attachMime : String
  attachSize : Int
  attachData : String
deriving DecidableEq

/-- A row of `group_relay_code`. -/
structure RelayCode where
  source : String
  fingerprint : String
  publishedBy : String
  publishedAt : String
deriving DecidableEq

/-- A row of `usage_receipts`. -/
structure UsageReceipt where
  groupId : String
  providerPubkey : String
  consumerPubkey : String
  kind : String
  refId : String
  amount : Int
  ts : String
  sig : String
deriving DecidableEq

/-- A row of `group_compute_stats`. -/
structure ComputeStat where
  tasksContributed : Nat
  tasksConsumed : Nat
  updatedAt : String
deriving DecidableEq

/-- A row of `group_frame_log`. -/
structure LogEntry where
  envelope : Json
  frameType : String
  capturedAt : String

structure Db where
  groups : Table String Group
  members : Table (String × String) Member
  roles : Table (String × String) Role
  /-- By group, member and role. -/
  memberRoles : Table (String × String × String) RoleAssignment
  grants : Table String GroupGrant
  pendingRequests : Table String JoinRequest
  relayBindings : Table (String × String) RelayBinding
  messages : Table (String × String) Message
  relayCode : Table String RelayCode
  usageReceipts : Table String UsageReceipt
  computeStats : Table (String × String) ComputeStat
  frameLog : Table (String × String) LogEntry

def permGroupApprove : String := "group:approve"
def permMemberKick : String := "member:kick"
def permMemberMute : String := "member:mute"
def permRoleAssign : String := "role:assign"
def permRelayHost : String := "relay:host"
def permRelayShareContent : String := "relay:share_content"

namespace Db

def roleNames (db : Db) (groupId memberPubkey : String) : List String := db.memberRoles.rows.filterMap fun r =>
    if r.1.1 = groupId ∧ r.1.2.1 = memberPubkey then some r.1.2.2 else none

def effectivePermissions (db : Db) (groupId memberPubkey : String) : List String :=
  (db.roles.rows.filter fun r => r.1.1 = groupId && decide (r.1.2 ∈ db.roleNames groupId memberPubkey)).flatMap
    fun r => r.2.permissions

def hasPermission (db : Db) (groupId memberPubkey permission : String) : Bool :=
  decide (permission ∈ db.effectivePermissions groupId memberPubkey)

/-- `_admin_pubkey_set`: who may sign grants. -/
def adminPubkeySet (db : Db) (groupId : String) : List String := (db.memberRoles.rows.filterMap fun r =>
    if r.1.1 = groupId ∧ r.1.2.2 ∈ ["founder", "admin"] then some r.1.2.1 else none).dedup

variable {db : Db} {groupId memberPubkey : String}

theorem mem_roleNames {name : String} : name ∈ db.roleNames groupId memberPubkey ↔
      ∃ a, db.memberRoles.get (groupId, memberPubkey, name) = some a := by
  unfold roleNames
  rw [List.mem_filterMap]
  constructor
  · rintro ⟨⟨⟨g, m, n⟩, a⟩, hrow, hname⟩
    simp only [Option.ite_none_right_eq_some, Option.some.injEq] at hname
    obtain ⟨⟨rfl, rfl⟩, rfl⟩ := hname
    exact ⟨a, (Table.mem_rows ..).mp hrow⟩
  rintro ⟨a, ha⟩
  exact ⟨((groupId, memberPubkey, name), a), (Table.mem_rows ..).mpr ha, by simp⟩

theorem mem_effectivePermissions {permission : String} : permission ∈ db.effectivePermissions groupId memberPubkey ↔
      ∃ name a r, db.memberRoles.get (groupId, memberPubkey, name) = some a ∧
        db.roles.get (groupId, name) = some r ∧ permission ∈ r.permissions := by
  unfold effectivePermissions
  rw [List.mem_flatMap]
  constructor
  · rintro ⟨⟨⟨g, name⟩, r⟩, hrow, hperm⟩
    simp only [List.mem_filter, Bool.and_eq_true, decide_eq_true_eq] at hrow
    obtain ⟨hmem, rfl, hname⟩ := hrow
    obtain ⟨a, ha⟩ := mem_roleNames.mp hname
    exact ⟨name, a, r, ha, (Table.mem_rows ..).mp hmem, hperm⟩
  rintro ⟨name, a, r, ha, hr, hperm⟩
  refine ⟨((groupId, name), r), ?_, hperm⟩
  simp only [List.mem_filter, Bool.and_eq_true, decide_eq_true_eq]
  exact ⟨(Table.mem_rows ..).mpr hr, trivial, mem_roleNames.mpr ⟨a, ha⟩⟩

end Db

end NexusGrid.Groups

import NexusGrid.Groups.Inbox

/-! # Roles, keys and join requests under inbound frames

Roles and their assignments, the group keys and the join requests decide who may do what in a group.
-/

namespace NexusGrid.Groups

open Lib

structure Authority where
  roles : Table (String × String) Role
  memberRoles : Table (String × String × String) RoleAssignment
  /-- The sealed key of each known group. -/
  symkeys : String → Option (List UInt8)
  requests : Table String JoinRequest

def Db.authority (db : Db) : Authority where
  roles := db.roles
  memberRoles := db.memberRoles
  symkeys groupId := (db.groups.get groupId).map Group.groupSymkeyEnc
  requests := db.pendingRequests

namespace Authority

def Holds (A : Authority) (groupId pubkey permission : String) : Prop :=
  ∃ name a r, A.memberRoles.get (groupId, pubkey, name) = some a ∧
    A.roles.get (groupId, name) = some r ∧ permission ∈ r.permissions

def adopt (A : Authority) (call : Call) (groupId : String) : Option (List UInt8) → String → Option (List UInt8)
  | none => A.symkeys
  | some key => fun g =>
    if g = groupId then (A.symkeys g).map fun _ => call.eciesSeal key else A.symkeys g

end Authority

/-- The key that a `symkey.rotate` frame carries for this node. -/
def carriedKey (p : Primitives) (o : OpenedFrame) : Option (List UInt8) :=
  match o.fields p with
  | none => none
  | some f =>
    if Json.textAt p.repr f "group_id" ≠ o.channel then none
    else match Json.objAt f "envelopes" with
      | none => none
      | some envelopes => newSymkey p envelopes

inductive Authority.Step (p : Primitives) (call : Call) (o : OpenedFrame) : FrameType → Authority → Authority → Prop
  | same {type : FrameType} {A : Authority} (htype : type ≠ .symkeyRotate) : Step p call o type A A
  | request {A : Authority} {id : String} {row : JoinRequest} (hnew : A.requests.get id = none) :
      Step p call o .pendingRequest A { A with requests := A.requests.put id row }
  | decide {A : Authority} {f : List (String × Json)} {row : JoinRequest} {status : RequestStatus}
      (hfields : o.fields p = some f)
      (hgroup : Json.textAt p.repr f "group_id" = o.channel)
      (hid : Json.textAt p.repr f "request_id" ≠ "")
      (hstatus : RequestStatus.ofDecision (Json.textAt p.repr f "status") = some status)
      (hrow : A.requests.get (Json.textAt p.repr f "request_id") = some row)
      (hpending : row.status = .pending) :
      Step p call o .pendingDecision A
        { A with requests := A.requests.put (Json.textAt p.repr f "request_id") { row with
            status := status
            decidedAt := Json.textOr p.repr f "decided_at" call.now
            decidedByPubkey := Json.textAt p.repr f "decided_by_pubkey"
            decisionReason := Json.textAt p.repr f "decision_reason" } }
  | join {A : Authority} {pubkey : String} {a : RoleAssignment} : Step p call o .rosterUpdate A
        { A with memberRoles := A.memberRoles.put (o.channel, pubkey, "member") a }
  | noRotation {A : Authority} (hkey : carriedKey p o = none) : Step p call o .symkeyRotate A A
  | rotate {A : Authority} : Step p call o .symkeyRotate A
        { A with symkeys := A.adopt call o.channel (carriedKey p o) }
  | rotateAndDrop {A : Authority} {gone : String} :
      Step p call o .symkeyRotate A { A with
        symkeys := A.adopt call o.channel (carriedKey p o)
        memberRoles := A.memberRoles.deleteWhere fun k _ => k.1 = o.channel && k.2.1 = gone }
  | assign {A : Authority} {memberRoles : Table (String × String × String) RoleAssignment} :
      Step p call o .rolesAssign A { A with memberRoles }
  | define {A : Authority} {roles : Table (String × String) Role}
      {memberRoles : Table (String × String × String) RoleAssignment} :
      Step p call o .rolesDef A { A with roles, memberRoles }

section Handlers

variable {p : Primitives} {call : Call} {db db' : Db} {o : OpenedFrame} {b : Bool}

def FrameType.outlying : FrameType → Bool
  | relayUpdate | chatMessage | chatDelete | usageReceipt | relayCode => true
  | _ => false

/-- `db'` differs from `db` at most in relays, messages and receipts. -/
def Db.SameCore (db db' : Db) : Prop := ∃ relayBindings messages relayCode usageReceipts computeStats,
    db' = { db with relayBindings, messages, relayCode, usageReceipts, computeStats }

theorem sameCore_storeAndApply {receipt : List (String × Json)} {sig : String}
    (h : storeAndApply p call db receipt sig = some (db', b)) : db.SameCore db' := by
  unfold storeAndApply at h
  dsimp only at h
  repeat' split at h
  all_goals cases h <;> exact ⟨_, _, _, _, _, rfl⟩

theorem sameCore_of_outlying {type : FrameType} (houtlying : type.outlying = true)
    (h : applyFrame p call db o type = some (db', b)) : db.SameCore db' := by
  cases type with
  | usageReceipt =>
    simp only [applyFrame, applyUsageReceipt] at h
    repeat' split at h
    case h_2 =>
      obtain ⟨⟨db₁, b₁⟩, hstore, heq⟩ := Option.map_eq_some_iff.mp h
      cases heq
      exact sameCore_storeAndApply hstore
    all_goals cases h
  | chatMessage =>
    simp only [applyFrame, applyChatMessage] at h
    repeat' split at h
    case h_2 =>
      obtain ⟨size, -, heq⟩ := Option.map_eq_some_iff.mp h
      cases heq
      exact ⟨_, _, _, _, _, rfl⟩
    all_goals cases h <;> exact ⟨_, _, _, _, _, rfl⟩
  | relayUpdate | chatDelete | relayCode =>
    simp only [applyFrame, applyRelayUpdate, applyChatDelete, applyRelayCode] at h
    repeat' split at h
    all_goals cases h <;> exact ⟨_, _, _, _, _, rfl⟩
  | _ => cases houtlying

def FrameType.quiet : FrameType → Bool
  | relayUpdate | chatMessage | chatMute | chatDelete | presenceBeacon | usageReceipt | groupMeta
  | relayCode => true
  | _ => false

theorem authority_applyGroupMeta (h : applyGroupMeta p db o = some (db', b)) : db'.authority = db.authority := by
  unfold applyGroupMeta at h
  dsimp only at h
  repeat' split at h
  case h_2 g hg =>
    cases h
    simp only [Db.authority, Table.map_get_put Group.groupSymkeyEnc hg]
  all_goals cases h <;> rfl

theorem authority_of_quiet {type : FrameType} (hquiet : type.quiet = true)
    (h : applyFrame p call db o type = some (db', b)) : db'.authority = db.authority := by
  cases houtlying : type.outlying with
  | true =>
    obtain ⟨_, _, _, _, _, rfl⟩ := sameCore_of_outlying houtlying h
    rfl
  | false =>
    cases type with
    | groupMeta => exact authority_applyGroupMeta h
    | chatMute | presenceBeacon =>
      simp only [applyFrame, applyChatMute, applyPresenceBeacon] at h
      repeat' split at h
      all_goals cases h <;> rfl
    | relayUpdate | chatMessage | chatDelete | usageReceipt | relayCode => cases houtlying
    | _ => cases hquiet

theorem step_applyPendingRequest (h : applyPendingRequest p call db o = some (db', b)) :
    Authority.Step p call o .pendingRequest db.authority db'.authority := by
  simp only [applyPendingRequest] at h
  repeat' split at h
  case h_2 hnew =>
    cases h
    exact .request hnew
  all_goals cases h <;> exact .same (by decide)

theorem step_applyPendingDecision (h : applyPendingDecision p call db o = some (db', b)) :
    Authority.Step p call o .pendingDecision db.authority db'.authority := by
  simp only [applyPendingDecision] at h
  repeat' split at h
  case isFalse f hfields hgroup hid _ _ status row hstatus hrow hpending =>
    cases h
    exact .decide hfields (not_not.mp hgroup) hid hstatus hrow (not_not.mp hpending)
  all_goals cases h <;> exact .same (by decide)

theorem step_applyRosterUpdate (h : applyRosterUpdate p call db o = some (db', b)) :
    Authority.Step p call o .rosterUpdate db.authority db'.authority := by
  simp only [applyRosterUpdate] at h
  split at h
  case h_1 => cases h
  case h_2 f hfields =>
  split at h
  case isTrue => cases h; exact .same (by decide)
  case isFalse hgroup =>
  have hchannel : Json.textAt p.repr f "group_id" = o.channel := not_not.mp hgroup
  rw [hchannel] at h
  repeat' split at h
  all_goals cases h
  all_goals first
    | exact .same (by decide)
    | exact .join

theorem adoptSymkey_eq (groupId : String) (envelopes : List (String × Json)) (g : String) :
    ((adoptSymkey p call db groupId envelopes).get g).map Group.groupSymkeyEnc =
      db.authority.adopt call groupId (newSymkey p envelopes) g := by
  unfold adoptSymkey
  split
  next key group hkey hgroup =>
    rw [hkey, Table.get_put]
    show _ = if g = groupId then _ else _
    by_cases hg : g = groupId
    · subst hg
      simp [Db.authority, hgroup]
    rw [if_neg hg, if_neg hg]
    rfl
  · -- no key for this node, or no row of the group: the keys stay
    next hnone =>
      cases hkey : newSymkey p envelopes with
      | none => rfl
      | some key =>
        show _ = if g = groupId then _ else _
        by_cases hg : g = groupId
        · subst hg
          cases hgroup : db.groups.get g with
          | none => simp [Db.authority, hgroup]
          | some group => exact absurd hgroup (hnone key group hkey)
        rw [if_neg hg]
        rfl

theorem step_applySymkeyRotate (h : applySymkeyRotate p call db o = some (db', b)) :
    Authority.Step p call o .symkeyRotate db.authority db'.authority := by
  simp only [applySymkeyRotate] at h
  split at h
  case h_1 => cases h
  case h_2 f hfields =>
  split at h
  case isTrue hother =>
    cases h
    exact .noRotation (by simp only [carriedKey, hfields, if_pos hother])
  case isFalse hgroup =>
  split at h
  case h_1 hnoEnv =>
    cases h
    exact .noRotation (by simp only [carriedKey, hfields, if_neg hgroup, hnoEnv])
  case h_2 envelopes henv =>
  have hchannel : Json.textAt p.repr f "group_id" = o.channel := not_not.mp hgroup
  have hkey : carriedKey p o = newSymkey p envelopes := by simp only [carriedKey, hfields, if_neg hgroup, henv]
  have hkeys : (fun g => ((adoptSymkey p call db o.channel envelopes).get g).map
      Group.groupSymkeyEnc) = db.authority.adopt call o.channel (carriedKey p o) := by
    funext g
    rw [adoptSymkey_eq, hkey]
  rw [hchannel] at h
  split at h
  · cases h
    simp only [Db.authority, dropMember, hkeys]
    exact .rotateAndDrop
  cases h
  simp only [Db.authority, hkeys]
  exact .rotate

theorem carriedKey_of_raises (h : applySymkeyRotate p call db o = none) : carriedKey p o = none := by
  simp only [applySymkeyRotate] at h
  split at h
  next hfields => simp only [carriedKey, hfields]
  · repeat' split at h
    all_goals cases h

theorem step_applyRolesAssign (h : applyRolesAssign p call db o = some (db', b)) :
    Authority.Step p call o .rolesAssign db.authority db'.authority := by
  simp only [applyRolesAssign] at h
  repeat' split at h
  all_goals cases h
  all_goals first
    | exact .same (by decide)
    | exact .assign

theorem step_applyRolesDef (h : applyRolesDef p call db o = some (db', b)) :
    Authority.Step p call o .rolesDef db.authority db'.authority := by
  simp only [applyRolesDef] at h
  repeat' split at h
  all_goals cases h
  all_goals first
    | exact .same (by decide)
    | exact .define

/-- **Every handler follows `Authority.Step`.** -/
theorem step_applyFrame {type : FrameType} (h : applyFrame p call db o type = some (db', b)) :
    Authority.Step p call o type db.authority db'.authority := by
  cases hquiet : type.quiet with
  | true =>
    rw [authority_of_quiet hquiet h]
    refine .same ?_
    rintro rfl
    cases hquiet
  | false =>
    cases type with
    | pendingRequest => exact step_applyPendingRequest h
    | pendingDecision => exact step_applyPendingDecision h
    | rosterUpdate => exact step_applyRosterUpdate h
    | symkeyRotate => exact step_applySymkeyRotate h
    | rolesAssign => exact step_applyRolesAssign h
    | rolesDef => exact step_applyRolesDef h
    | _ => cases hquiet

end Handlers

def Opens (p : Primitives) (n : Node) (d : Delivery) (o : OpenedFrame) : Prop :=
  (receive p d.call n d.envelope).2 = .ok o

instance Opens.instDecidable (p : Primitives) (n : Node) (d : Delivery) (o : OpenedFrame) : Decidable (Opens p n d o) :=
  inferInstanceAs (Decidable (_ = _))

/-- The frame that a delivery hands to its handler. -/
def accepted (p : Primitives) (n : Node) (d : Delivery) : Option (OpenedFrame × FrameType) :=
  match (receive p d.call n d.envelope).2 with
  | .error _ => none
  | .ok o =>
    match FrameType.ofText o.frameType with
    | none => none
    | some type =>
      if gate p n.db o type = .passes ∧ (d.entry = .relay → type.adminsOnly = true →
          n.db.hasPermission o.channel p.me permGroupApprove = true) then some (o, type)
      else none

section Deliveries

variable {p : Primitives} {n : Node} {d : Delivery} {o : OpenedFrame} {type : FrameType}

theorem db_seen (n : Node) (frameId : String) : (n.seen frameId).2.db = n.db := by
  unfold Node.seen
  split <;> rfl

theorem db_receive (p : Primitives) (call : Call) (n : Node) (envelope : Json) :
    (receive p call n envelope).1.db = n.db := by
  unfold receive
  split
  · rfl
  next frame _ =>
    have hdb := db_seen n frame.frameId
    split
    next hseen => rw [hseen] at hdb; exact hdb
    next hseen => rw [hseen] at hdb; exact hdb

theorem view_captureFrame {α : Type} (view : Db → α)
    (hlog : ∀ db log, view { db with frameLog := log } = view db) (call : Call) (db : Db)
    (envelope : Json) (o : OpenedFrame) (type : FrameType) :
    view (captureFrame call db envelope o type) = view db := by
  unfold captureFrame
  repeat' split
  case h_2 => exact hlog db _
  all_goals rfl

def Node.handlerDb (p : Primitives) (n : Node) (call : Call) (o : OpenedFrame) (type : FrameType) : Db :=
  match applyFrame p call n.db o type with
  | none => n.db
  | some (db, _) => db

theorem accepted_eq_some : accepted p n d = some (o, type) ↔
    Opens p n d o ∧ FrameType.ofText o.frameType = some type ∧ gate p n.db o type = .passes ∧
      (d.entry = .relay → type.adminsOnly = true → n.db.hasPermission o.channel p.me permGroupApprove = true) := by
  unfold accepted Opens
  constructor
  · intro h
    split at h
    case h_1 => cases h
    case h_2 o₁ hopens =>
    split at h
    case h_1 => cases h
    case h_2 type₁ htype =>
    split at h
    case isFalse => cases h
    case isTrue hpass =>
      cases h
      exact ⟨hopens, htype, hpass⟩
  · rintro ⟨hopens, htype, hpass⟩
    rw [hopens]
    simp only [htype]
    exact if_pos hpass

/-- Only the handler changes the database, but for the log. -/
theorem deliver_view {α : Type} (view : Db → α)
    (hlog : ∀ db log, view { db with frameLog := log } = view db) (p : Primitives) (n : Node)
    (d : Delivery) :
    (deliver p n d).handled = (accepted p n d).map Prod.fst ∧
      view (n.step p d).db = match accepted p n d with
        | none => view n.db
        | some (o, type) => view (n.handlerDb p d.call o type) := by
  have hcapture := view_captureFrame view hlog
  -- only receiving touches the node before the handler runs, and it leaves the database alone
  have hdb := db_receive p d.call n d.envelope
  unfold Node.step
  rcases hrec : receive p d.call n d.envelope with ⟨n₁, ⟨ok, reason⟩ | o⟩
  all_goals
    rw [hrec] at hdb
    replace hdb : n₁.db = n.db := hdb
  · cases hentry : d.entry <;>
      simp [accepted, deliver, hentry, dispatchInboundFrame, relayInboundFrame, hrec, hdb]
  rcases htype : FrameType.ofText o.frameType with - | type
  · cases hentry : d.entry <;>
      simp [accepted, deliver, hentry, dispatchInboundFrame, relayInboundFrame, hrec, htype, hdb]
  rcases hgate : gate p n.db o type with - | reason | -
  case refused | raises =>
    cases hentry : d.entry <;>
      simp [accepted, deliver, hentry, dispatchInboundFrame, relayInboundFrame, hrec, htype, hdb, hgate]
  by_cases haud : d.entry = .relay → type.adminsOnly = true → n.db.hasPermission o.channel p.me permGroupApprove = true
  case neg =>
    -- a relay that is no approver archives the frame
    push Not at haud
    obtain ⟨hentry, hadmins, hperm⟩ := haud
    simp [accepted, deliver, hentry, relayInboundFrame, hrec, htype, hdb, hgate, hadmins, hperm, hcapture]
  have haccepted : accepted p n d = some (o, type) := accepted_eq_some.mpr ⟨by rw [Opens, hrec], htype, hgate, haud⟩
  rw [haccepted]
  cases hentry : d.entry with
  | dispatch =>
    rcases happ : applyFrame p d.call n.db o type with - | ⟨db', b⟩ <;>
      simp [deliver, hentry, dispatchInboundFrame, hrec, htype, hdb, hgate, happ, Node.handlerDb, hcapture]
  | relay =>
    have hnot : ¬(type.adminsOnly = true ∧ n.db.hasPermission o.channel p.me permGroupApprove = false) := by
      rintro ⟨hadmins, hperm⟩
      rw [haud hentry hadmins] at hperm
      cases hperm
    rcases happ : applyFrame p d.call n.db o type with - | ⟨db', b⟩ <;>
      simp [deliver, hentry, relayInboundFrame, hrec, htype, hdb, hgate, happ, hnot, Node.handlerDb, hcapture]

def Node.afterHandler (p : Primitives) (n : Node) (call : Call) (o : OpenedFrame) (type : FrameType) : Authority :=
  match applyFrame p call n.db o type with
  | none => n.db.authority
  | some (db, _) => db.authority

/-- **A delivery is its handler.** -/
theorem deliver_spec (p : Primitives) (n : Node) (d : Delivery) :
    (deliver p n d).handled = (accepted p n d).map Prod.fst ∧ (n.step p d).db.authority = match accepted p n d with
        | none => n.db.authority
        | some (o, type) => n.afterHandler p d.call o type := by
  obtain ⟨hhandled, hauthority⟩ := deliver_view Db.authority (fun _ _ => rfl) p n d
  refine ⟨hhandled, hauthority.trans ?_⟩
  rcases accepted p n d with - | ⟨o, type⟩
  · rfl
  show (n.handlerDb p d.call o type).authority = n.afterHandler p d.call o type
  unfold Node.handlerDb Node.afterHandler
  rcases applyFrame p d.call n.db o type with - | ⟨db, b⟩ <;> rfl

theorem handled_deliver : (deliver p n d).handled = some o ↔ ∃ type, accepted p n d = some (o, type) := by
  rw [(deliver_spec p n d).1, Option.map_eq_some_iff]
  constructor
  · rintro ⟨⟨o', type⟩, haccepted, rfl⟩
    exact ⟨type, haccepted⟩
  rintro ⟨type, haccepted⟩
  exact ⟨(o, type), haccepted, rfl⟩

/-- **A node follows `Authority.Step`.** -/
theorem authority_step (p : Primitives) (n : Node) (d : Delivery) :
    (accepted p n d = none ∧ (n.step p d).db.authority = n.db.authority) ∨ ∃ o type, accepted p n d = some (o, type) ∧
        Authority.Step p d.call o type n.db.authority (n.step p d).db.authority := by
  rw [(deliver_spec p n d).2]
  rcases haccepted : accepted p n d with - | ⟨o, type⟩
  · exact .inl ⟨rfl, rfl⟩
  right
  refine ⟨o, type, rfl, ?_⟩
  show Authority.Step p d.call o type n.db.authority (n.afterHandler p d.call o type)
  unfold Node.afterHandler
  split
  next hraises =>
    by_cases htype : type = .symkeyRotate
    · subst htype
      exact .noRotation (carriedKey_of_raises hraises)
    · exact .same htype
  next happ => exact step_applyFrame happ

end Deliveries

/-- `A` has the roles of `A₀`, and new assignments only of `member`. -/
structure Authority.Within (A₀ A : Authority) : Prop where
  roles : A.roles = A₀.roles
  memberRoles : ∀ groupId pubkey name a, A.memberRoles.get (groupId, pubkey, name) = some a →
    (∃ a₀, A₀.memberRoles.get (groupId, pubkey, name) = some a₀) ∨ name = "member"

namespace Authority

variable {A₀ A A' : Authority}

theorem Within.refl (A : Authority) : Within A A := ⟨rfl, fun _ _ _ a h => .inl ⟨a, h⟩⟩

theorem Within.holds (h : Within A₀ A) {groupId pubkey permission : String}
    (hholds : A.Holds groupId pubkey permission) : A₀.Holds groupId pubkey permission ∨
      ∃ r, A₀.roles.get (groupId, "member") = some r ∧ permission ∈ r.permissions := by
  obtain ⟨name, a, r, hassigned, hrole, hperm⟩ := hholds
  rw [h.roles] at hrole
  rcases h.memberRoles groupId pubkey name a hassigned with ⟨a₀, hold⟩ | rfl
  · exact .inl ⟨name, a₀, r, hold, hrole, hperm⟩
  · exact .inr ⟨r, hrole, hperm⟩

theorem Within.step {p : Primitives} {call : Call} {o : OpenedFrame} {type : FrameType}
    (h : Within A₀ A) (hstep : Step p call o type A A') (hassign : type ≠ .rolesAssign)
    (hdef : type ≠ .rolesDef) : Within A₀ A' := by
  cases hstep with
  | same | request | decide | noRotation | rotate => exact ⟨h.roles, h.memberRoles⟩
  | assign => exact absurd rfl hassign
  | define => exact absurd rfl hdef
  | @join _ pubkey a =>
    -- the one new assignment is of the role `member`
    refine ⟨h.roles, fun groupId pk name a' hget => ?_⟩
    rw [Table.get_put] at hget
    by_cases hkey : (groupId, pk, name) = (o.channel, pubkey, "member")
    · simp only [Prod.mk.injEq] at hkey
      exact .inr hkey.2.2
    rw [if_neg hkey] at hget
    exact h.memberRoles groupId pk name a' hget
  | rotateAndDrop =>
    -- assignments are only deleted
    refine ⟨h.roles, fun groupId pk name a' hget => ?_⟩
    rw [Table.get_deleteWhere, Option.filter_eq_some_iff] at hget
    exact h.memberRoles groupId pk name a' hget.1

end Authority

theorem hasPermission_of_gate {p : Primitives} {db : Db} {o : OpenedFrame} {type : FrameType}
    (htype : type = .rolesAssign ∨ type = .rolesDef) (hpasses : gate p db o type = .passes) :
    db.hasPermission o.channel o.senderPubkey permRoleAssign = true := by
  by_contra hlacks
  rcases htype with rfl | rfl <;> simp [gate, requirePermission, hlacks] at hpasses

/-- No frame that is handed to a handler comes from a sender with `role:assign`. -/
def NoRoleAssigner (p : Primitives) (n : Node) (d : Delivery) : Prop :=
  ∀ o ∈ (deliver p n d).handled, n.db.hasPermission o.channel o.senderPubkey permRoleAssign = false

instance NoRoleAssigner.instDecidable (p : Primitives) (n : Node) (d : Delivery) : Decidable (NoRoleAssigner p n d) :=
  inferInstanceAs (Decidable (∀ o ∈ (deliver p n d).handled, _ = false))

theorem within_step {p : Primitives} {A₀ : Authority} (n : Node) (d : Delivery)
    (hd : NoRoleAssigner p n d) (h : A₀.Within n.db.authority) : A₀.Within (n.step p d).db.authority := by
  rcases authority_step p n d with ⟨-, hsame⟩ | ⟨o, type, haccepted, hstep⟩
  · rw [hsame]
    exact h
  have hlacks := hd o (handled_deliver.mpr ⟨type, haccepted⟩)
  have hpasses := (accepted_eq_some.mp haccepted).2.2.1
  have hnot : ¬(type = .rolesAssign ∨ type = .rolesDef) := by
    intro htype
    rw [hasPermission_of_gate htype hpasses] at hlacks
    cases hlacks
  exact h.step hstep (fun htype => hnot (.inl htype)) (fun htype => hnot (.inr htype))

/-- **No permission without a role assigner.** -/
theorem no_permission_gained (p : Primitives) (n : Node) (ds : List Delivery)
    (hds : Along (Node.step p) (NoRoleAssigner p) n ds) (groupId pubkey permission : String)
    (hend : permission ∈ (run (Node.step p) n ds).db.effectivePermissions groupId pubkey) :
    permission ∈ n.db.effectivePermissions groupId pubkey ∨
      ∃ r, n.db.roles.get (groupId, "member") = some r ∧ permission ∈ r.permissions := by
  have hwithin : n.db.authority.Within (run (Node.step p) n ds).db.authority :=
    run_invariant (P := fun m : Node => n.db.authority.Within m.db.authority)
      within_step (Authority.Within.refl _) hds
  rw [Db.mem_effectivePermissions] at hend ⊢
  exact hwithin.holds hend

/-! ### One group

The group `g` of `alice`, with the member `bob`, on the node of `carol`. A signature is the name of
its key; every grant is signed by `alice`, and a ciphertext is empty. -/

def exampleBytes (s : String) : List UInt8 := s.toList.map fun c => UInt8.ofNat c.toNat

/-- The grant of a member of `g`. -/
def exampleGrant (member : String) : Json :=
  .obj [("payload", .obj [("group_id", .str "g"), ("member_pubkey", .str member),
      ("roles", .arr []), ("issued_by_pubkey", .str "alice"), ("issued_at", .str "1"),
      ("expires_at", .str "9"), ("nonce", .str "")]),
    ("signature", .str (String.ofList (List.replicate 128 '0')))]

def examplePrimitives (payload : List (String × Json)) : Primitives where
  verify key sig _ := sig = exampleBytes key
  b64decode s := some (exampleBytes s)
  fromHex _ := some (exampleBytes "alice")
  decrypt _ _ ciphertext _ := some ciphertext
  loads blob :=
    if blob = [] then some (.obj payload)
    else some (exampleGrant (String.ofList (blob.map fun b => Char.ofNat b.toNat)))
  canonical _ := []
  eciesOpen envelope := some envelope
  fingerprint source := source
  repr _ := ""
  toInt _ := none
  me := "carol"

def exampleFrame (frameId frameType sender signature : String) : Json :=
  .obj [("frame_id", .str frameId), ("channel", .str "g"), ("frame_type", .str frameType),
    ("sender_grant_b64", .str sender), ("nonce_b64", .str "aaaaaaaaaaaa"),
    ("ciphertext_b64", .str ""), ("signature_b64", .str signature)]

def exampleDelivery (entry : Entry) (envelope : Json) : Delivery where
  entry := entry
  call := ⟨"2", id, fun _ _ => none⟩
  envelope := envelope

def exampleNode : Node where
  db := {
    groups := Table.put ∅ "g" { founderPubkey := "alice", groupSymkeyEnc := List.replicate 32 7 }
    members := Table.putAll ∅ [(("g", "alice"), { joinedAt := "1", lastSeenAt := "1" }),
      (("g", "bob"), { joinedAt := "1", lastSeenAt := "1" })]
    roles := Table.putAll ∅ [(("g", "founder"), ⟨[permGroupApprove, permMemberKick, permRoleAssign], "1", "1"⟩),
      (("g", "member"), ⟨["group:read"], "1", "1"⟩)]
    memberRoles := Table.putAll ∅ [(("g", "alice", "founder"), ⟨"alice", "1"⟩),
      (("g", "bob", "member"), ⟨"alice", "1"⟩)]
    grants := ∅
    pendingRequests := ∅
    relayBindings := ∅
    messages := ∅
    relayCode := ∅
    usageReceipts := ∅
    computeStats := ∅
    frameLog := ∅ }
  dedupe := .empty

theorem no_permission_gained_on_roster :
    let p := examplePrimitives [("group_id", .str "g"), ("action", .str "add"),
      ("member", .obj [("pubkey", .str "dave")])]
    let ds := [exampleDelivery .dispatch (exampleFrame "1" "roster.update" "bob" "bob")]
    "group:read" ∈ (run (Node.step p) exampleNode ds).db.effectivePermissions "g" "dave" ∧
      ("group:read" ∈ exampleNode.db.effectivePermissions "g" "dave" ∨
        ∃ r, exampleNode.db.roles.get ("g", "member") = some r ∧ "group:read" ∈ r.permissions) := by
  intro p ds
  obtain ⟨hds, hend⟩ : Along (Node.step p) (NoRoleAssigner p) exampleNode ds ∧
      "group:read" ∈ (run (Node.step p) exampleNode ds).db.effectivePermissions "g" "dave" := by
    decide +kernel
  exact ⟨hend, no_permission_gained p exampleNode ds hds "g" "dave" "group:read" hend⟩

end NexusGrid.Groups

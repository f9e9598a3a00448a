import NexusGrid.Groups.Decisions

/-! # The founder of a group under inbound frames

`kick_member` refuses to remove the founder, and the handlers of role frames put the role `founder` back.
-/

namespace NexusGrid.Groups

open Lib

structure Roster where
  groups : Table String Group
  members : Table (String × String) Member
  roles : Table (String × String) Role
  memberRoles : Table (String × String × String) RoleAssignment

def Db.roster (db : Db) : Roster := ⟨db.groups, db.members, db.roles, db.memberRoles⟩

structure Roster.InPlace (R : Roster) (groupId founder : String) : Prop where
  member : (R.members.get (groupId, founder)).isSome
  assigned : (R.memberRoles.get (groupId, founder, "founder")).isSome

/-- The group knows its founder, with a member row and the role `founder`. -/
structure Roster.Stands (R : Roster) (groupId founder : String) : Prop
    extends R.InPlace groupId founder where
  group : (R.groups.get groupId).map Group.founderPubkey = some founder
  role : (R.roles.get (groupId, "founder")).isSome

/-- The frame takes `pubkey` off the roster of the group. -/
structure Drops (p : Primitives) (o : OpenedFrame) (groupId pubkey : String) : Prop where
  channel : o.channel = groupId
  kicked : o.kickedPubkey p = pubkey
  named : pubkey ≠ ""
  other : pubkey ≠ p.me
  payload : ∃ f, o.fields p = some f ∧ Json.textAt p.repr f "group_id" = o.channel ∧ (Json.objAt f "envelopes").isSome

section Handlers

variable {p : Primitives} {call : Call} {db db' : Db} {o : OpenedFrame} {b : Bool}
  {groupId founder : String}

def FrameType.offRoster : FrameType → Bool
  | pendingRequest | pendingDecision | relayUpdate | chatMessage | chatDelete | usageReceipt
  | relayCode => true
  | _ => false

theorem roster_of_offRoster {type : FrameType} (hoff : type.offRoster = true)
    (h : applyFrame p call db o type = some (db', b)) : db'.roster = db.roster := by
  cases houtlying : type.outlying with
  | true =>
    obtain ⟨_, _, _, _, _, rfl⟩ := sameCore_of_outlying houtlying h
    rfl
  | false =>
    cases type with
    | pendingRequest | pendingDecision =>
      simp only [applyFrame, applyPendingRequest, applyPendingDecision] at h
      repeat' split at h
      all_goals cases h <;> rfl
    | relayUpdate | chatMessage | chatDelete | usageReceipt | relayCode => cases houtlying
    | _ => cases hoff

namespace Roster.Stands

variable {R : Roster}

theorem put_member (h : R.Stands groupId founder) (k : String × String) (row : Member) :
    { R with members := R.members.put k row }.Stands groupId founder :=
  ⟨⟨Table.isSome_get_put h.member k row, h.assigned⟩, h.group, h.role⟩

theorem put_assignment (h : R.Stands groupId founder) (k : String × String × String) (row : RoleAssignment) :
    { R with memberRoles := R.memberRoles.put k row }.Stands groupId founder :=
  ⟨⟨h.member, Table.isSome_get_put h.assigned k row⟩, h.group, h.role⟩

theorem put_group (h : R.Stands groupId founder) {k : String} {g g' : Group}
    (hg : R.groups.get k = some g) (hfounder : g'.founderPubkey = g.founderPubkey) :
    { R with groups := R.groups.put k g' }.Stands groupId founder :=
  ⟨⟨h.member, h.assigned⟩, (Table.map_get_put Group.founderPubkey hg hfounder groupId).trans h.group, h.role⟩

theorem drop (h : R.Stands groupId founder) {g gone : String} (hne : ¬(groupId = g ∧ founder = gone)) : { R with
      members := R.members.delete (g, gone)
      memberRoles := R.memberRoles.deleteWhere fun k _ => k.1 = g && k.2.1 = gone }.Stands
        groupId founder := by
  obtain ⟨a, ha⟩ := Option.isSome_iff_exists.mp h.assigned
  have hkey : (groupId, founder) ≠ (g, gone) := by simpa only [ne_eq, Prod.mk.injEq] using hne
  refine ⟨⟨?_, ?_⟩, h.group, h.role⟩
  · rw [Table.get_delete, if_neg hkey]
    exact h.member
  rw [Table.get_deleteWhere, ha]
  simp only [Option.filter, Bool.not_and, Bool.or_eq_true, Bool.not_eq_true',
    decide_eq_false_iff_not, ← not_and_or, if_pos hne, Option.isSome_some]

end Roster.Stands

section

variable (hs : db.roster.Stands groupId founder)
include hs

theorem stands_applyRosterUpdate (h : applyRosterUpdate p call db o = some (db', b)) :
    db'.roster.Stands groupId founder := by
  simp only [applyRosterUpdate] at h
  repeat' split at h
  all_goals cases h
  all_goals first
    | exact hs
    | exact hs.put_member _ _
    | exact (hs.put_member _ _).put_assignment _ _

theorem stands_applyChatMute (h : applyChatMute p db o = some (db', b)) : db'.roster.Stands groupId founder := by
  simp only [applyChatMute] at h
  repeat' split at h
  all_goals cases h
  all_goals first
    | exact hs
    | exact hs.put_member _ _

theorem stands_applyPresenceBeacon (h : applyPresenceBeacon p call db o = some (db', b)) :
    db'.roster.Stands groupId founder := by
  simp only [applyPresenceBeacon] at h
  repeat' split at h
  all_goals cases h
  all_goals first
    | exact hs
    | exact hs.put_member _ _

theorem stands_applyGroupMeta (h : applyGroupMeta p db o = some (db', b)) : db'.roster.Stands groupId founder := by
  simp only [applyGroupMeta] at h
  repeat' split at h
  case h_2 g hg =>
    cases h
    exact hs.put_group hg rfl
  all_goals cases h <;> exact hs

theorem stands_adoptSymkey (p : Primitives) (call : Call) (g : String) (envelopes : List (String × Json)) :
    { db.roster with groups := adoptSymkey p call db g envelopes }.Stands groupId founder := by
  unfold adoptSymkey
  split
  next key group _ hgroup => exact hs.put_group hgroup rfl
  · exact hs

theorem stands_applySymkeyRotate (hkeep : ¬Drops p o groupId founder)
    (h : applySymkeyRotate p call db o = some (db', b)) :
    db'.roster.Stands groupId founder := by
  simp only [applySymkeyRotate] at h
  split at h
  case h_1 => cases h
  case h_2 f hfields =>
  split at h
  case isTrue => cases h; exact hs
  case isFalse hgroup =>
  split at h
  case h_1 => cases h; exact hs
  case h_2 envelopes henv =>
  have hchannel : Json.textAt p.repr f "group_id" = o.channel := not_not.mp hgroup
  have hadopted := stands_adoptSymkey hs p call o.channel envelopes
  rw [hchannel] at h
  split at h
  case isFalse => cases h; exact hadopted
  case isTrue hgone =>
    cases h
    refine hadopted.drop ?_
    rintro ⟨rfl, rfl⟩
    refine hkeep ⟨rfl, ?_, hgone.1, hgone.2, f, hfields, hchannel, by rw [henv]; rfl⟩
    simp only [OpenedFrame.kickedPubkey, hfields]

theorem stands_applyRolesAssign (h : applyRolesAssign p call db o = some (db', b)) :
    db'.roster.Stands groupId founder := by
  simp only [applyRolesAssign] at h
  split at h
  case h_1 => cases h
  case h_2 f hfields =>
  split at h
  case isTrue => cases h; exact hs
  case isFalse =>
  split at h
  case isTrue => cases h; exact hs
  case isFalse =>
  split at h
  case h_2 => cases h; exact hs
  case h_1 roles g row hroles hg hrow =>
  generalize hrequested : List.filter _ (List.dedup (_ : List String)) = requested at h
  split at h
  case isTrue => cases h; exact hs
  case isFalse =>
    cases h
    refine ⟨⟨hs.member, ?_⟩, hs.group, hs.role⟩
    by_cases hself : groupId = Json.textAt p.repr f "group_id" ∧ founder = Json.textAt p.repr f "member_pubkey"
    · -- the founder is reassigned, and the role is defined
      obtain ⟨rfl, rfl⟩ := hself
      have hgroup : (db.groups.get (Json.textAt p.repr f "group_id")).map Group.founderPubkey =
          some (Json.textAt p.repr f "member_pubkey") := hs.group
      rw [hg] at hgroup
      rw [if_pos (Option.some.inj hgroup).symm] at hrequested
      have hmem : "founder" ∈ requested := by
        rw [← hrequested]
        exact List.mem_filter.mpr ⟨List.mem_dedup.mpr (by simp), hs.role⟩
      exact Table.isSome_get_putAll_of_mem (e := ((_, _, "founder"), _))
        (List.mem_map.mpr ⟨"founder", hmem, rfl⟩)
    · exact Table.isSome_get_putAll _ (hs.drop hself).assigned

theorem stands_applyRolesDef (h : applyRolesDef p call db o = some (db', b)) : db'.roster.Stands groupId founder := by
  simp only [applyRolesDef] at h
  split at h
  case h_1 => cases h
  case h_2 f hfields =>
  split at h
  case isTrue => cases h; exact hs
  case isFalse =>
  split at h
  case isTrue => cases h; exact hs
  case isFalse =>
  split at h
  case isTrue =>
    -- `upsert` adds or changes a role
    repeat' split at h
    all_goals cases h
    all_goals first
      | exact hs
      | exact ⟨⟨hs.member, hs.assigned⟩, hs.group, Table.isSome_get_put hs.role _ _⟩
  case isFalse =>
  split at h
  case isTrue => cases h; exact hs
  case isFalse hprotected =>
  split at h
  case h_1 => cases h; exact hs
  case h_2 row hrow =>
    cases h
    have hname : "founder" ≠ PyStr.strip (Json.textAt p.repr f "role_name") := by
      intro heq
      exact hprotected (by rw [← heq]; decide)
    obtain ⟨a, ha⟩ := Option.isSome_iff_exists.mp hs.assigned
    replace ha : db.memberRoles.get (groupId, founder, "founder") = some a := ha
    refine ⟨⟨hs.member, ?_⟩, hs.group, ?_⟩
    · dsimp only [Db.roster]
      rw [Table.get_deleteWhere, ha]
      simp [Option.filter, hname]
    dsimp only [Db.roster]
    rw [Table.get_delete, if_neg (by simp [hname])]
    exact hs.role

/-- **Every handler keeps the founder**, but for a rotation that names the founder. -/
theorem stands_applyFrame {type : FrameType} (hkeep : type = .symkeyRotate → ¬Drops p o groupId founder)
    (h : applyFrame p call db o type = some (db', b)) : db'.roster.Stands groupId founder := by
  cases hoff : type.offRoster with
  | true =>
    rw [roster_of_offRoster hoff h]
    exact hs
  | false =>
    cases type with
    | rosterUpdate => exact stands_applyRosterUpdate hs h
    | symkeyRotate => exact stands_applySymkeyRotate hs (hkeep rfl) h
    | rolesAssign => exact stands_applyRolesAssign hs h
    | rolesDef => exact stands_applyRolesDef hs h
    | chatMute => exact stands_applyChatMute hs h
    | presenceBeacon => exact stands_applyPresenceBeacon hs h
    | groupMeta => exact stands_applyGroupMeta hs h
    | _ => cases hoff

end

theorem member_dropped (call : Call) (db : Db) (hdrops : Drops p o groupId founder) :
    ∃ db', applyFrame p call db o .symkeyRotate = some (db', true) ∧ db'.members.get (groupId, founder) = none := by
  obtain ⟨rfl, rfl, hnamed, hother, f, hfields, hgroup, henv⟩ := hdrops
  obtain ⟨envelopes, henv⟩ := Option.isSome_iff_exists.mp henv
  have hkicked : o.kickedPubkey p = Json.textAt p.repr f "kicked_pubkey" := by
    simp only [OpenedFrame.kickedPubkey, hfields]
  rw [hkicked] at hnamed hother ⊢
  let adopted := { db with groups := adoptSymkey p call db o.channel envelopes }
  refine ⟨dropMember call adopted o o.channel (Json.textAt p.repr f "kicked_pubkey"), ?_, ?_⟩
  · simp only [applyFrame, applySymkeyRotate, hfields, hgroup, henv, ne_eq, not_true, if_false,
      hnamed, hother, not_false_eq_true, and_self, if_true, adopted]
  · simp only [dropMember, Table.get_delete, if_true]

end Handlers

section Runs

variable {p : Primitives} {groupId founder : String}

def NoFounderKick (p : Primitives) (groupId founder : String) (n : Node) (d : Delivery) : Prop :=
  ∀ o, accepted p n d = some (o, .symkeyRotate) → ¬Drops p o groupId founder

theorem stands_step (n : Node) (d : Delivery) (hs : n.db.roster.Stands groupId founder)
    (hd : NoFounderKick p groupId founder n d) : (n.step p d).db.roster.Stands groupId founder := by
  rw [(deliver_view Db.roster (fun _ _ => rfl) p n d).2]
  rcases haccepted : accepted p n d with - | ⟨o, type⟩
  · exact hs
  show (n.handlerDb p d.call o type).roster.Stands groupId founder
  unfold Node.handlerDb
  split
  · exact hs
  next db' b happ =>
    refine stands_applyFrame hs ?_ happ
    rintro rfl
    exact hd o haccepted

theorem noFounderKick_of_inPlace (n : Node) (d : Delivery) (h : (n.step p d).db.roster.InPlace groupId founder) :
    NoFounderKick p groupId founder n d := by
  intro o haccepted hdrops
  obtain ⟨db', happ, hgone⟩ := member_dropped d.call n.db hdrops
  have hmember := h.member
  rw [(deliver_view Db.roster (fun _ _ => rfl) p n d).2, haccepted] at hmember
  simp only [Node.handlerDb, happ, Db.roster, hgone] at hmember
  cases hmember

/-- **When the founder stays.** -/
theorem founder_stays_iff (p : Primitives) (n : Node) (ds : List Delivery)
    (groupId founder : String) (hs : n.db.roster.Stands groupId founder) :
    (∀ pre, pre <+: ds → (run (Node.step p) n pre).db.roster.InPlace groupId founder) ↔
      Along (Node.step p) (NoFounderKick p groupId founder) n ds :=
  always_iff_along (P := fun m : Node => m.db.roster.Stands groupId founder)
    (fun _ h => h.toInPlace) stands_step (fun m d _ h => noFounderKick_of_inPlace m d h) hs ds

end Runs

/-- The example node with an admin `dave`, who may kick members. -/
def exampleAdminNode : Node :=
  { exampleNode with
    db := { exampleNode.db with
      members := exampleNode.db.members.put ("g", "dave") { joinedAt := "1", lastSeenAt := "1" }
      roles := exampleNode.db.roles.put ("g", "admin") ⟨[permMemberKick], "1", "1"⟩
      memberRoles := exampleNode.db.memberRoles.put ("g", "dave", "admin") ⟨"alice", "1"⟩ } }

theorem exampleAdminNode_stands : exampleAdminNode.db.roster.Stands "g" "alice" :=
  ⟨⟨by decide, by decide⟩, by decide, by decide⟩

/-- `dave` removes `bob`, and `alice` stays. -/
theorem founder_stays_when_bob_goes :
    let p := examplePrimitives (exampleRotation "bob")
    let d := exampleDelivery .relay (exampleFrame "1" "symkey.rotate" "dave" "dave")
    (run (Node.step p) exampleAdminNode [d]).db.roster.InPlace "g" "alice" := by
  intro p d
  have hkicked : (accepted p exampleAdminNode d).map (fun a => a.1.kickedPubkey p) = some "bob" := by
    decide +kernel
  refine (founder_stays_iff p exampleAdminNode [d] "g" "alice" exampleAdminNode_stands).mpr
    ⟨?_, trivial⟩ [d] List.prefix_rfl
  intro o haccepted hdrops
  rw [haccepted, Option.map_some, hdrops.kicked] at hkicked
  exact absurd hkicked (by decide)

/-- **An admin removes the founder.** `dave` sends a rotation that names `alice`. -/
theorem admin_removes_founder :
    let p := examplePrimitives (exampleRotation "alice")
    let d := exampleDelivery .dispatch (exampleFrame "1" "symkey.rotate" "dave" "dave")
    exampleAdminNode.db.roster.Stands "g" "alice" ∧
      (deliver p exampleAdminNode d).handled.map OpenedFrame.senderPubkey = some "dave" ∧
      ¬(run (Node.step p) exampleAdminNode [d]).db.roster.InPlace "g" "alice" := by
  intro p d
  obtain ⟨hsender, hgone⟩ : (deliver p exampleAdminNode d).handled.map OpenedFrame.senderPubkey = some "dave" ∧
      ((run (Node.step p) exampleAdminNode [d]).db.roster.members.get ("g", "alice")).isSome = false := by
    decide +kernel
  refine ⟨exampleAdminNode_stands, hsender, fun h => ?_⟩
  have hmember := h.member
  rw [hgone] at hmember
  cases hmember

end NexusGrid.Groups

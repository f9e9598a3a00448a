import NexusGrid.Groups.Founder
import NexusGrid.Groups.Rotation

/-! # Agreement on the group key

The members of a group share one key, and every kick and every leave replaces it.
-/

namespace NexusGrid.Groups

open Lib

/-! ## Refreshing the roster -/

/-- A member in the answer of `peer_group_roster`; its X25519 key is not part of it. -/
structure RosterMember where
  pubkey : String
  displayName : String
  joinedAt : String
  peerAddress : String
  nodeId : String
  roles : List String
deriving DecidableEq

/-- The answer of `peer_group_roster`. -/
structure RosterAnswer where
  founderPubkey : String
  members : List RosterMember
  /-- The roles with their permissions. -/
  roles : List (String × List String)
  /-- The relays with their operators. -/
  relays : List (String × String)
deriving DecidableEq

section Refresh

variable (p : Primitives) (call : Call) (groupId : String)

def refreshRole (db : Db) (role : String × List String) : Db :=
  if role.1 = "" then db
  else
    let permissions := encodeRolePermissions role.2
    let row := match db.roles.get (groupId, role.1) with
      | none => ⟨permissions, call.now, call.now⟩
      | some row => { row with permissions, updatedAt := call.now }
    { db with roles := db.roles.put (groupId, role.1) row }

def refreshAssignment (founderPubkey pubkey : String) (db : Db) (roleName : String) : Db :=
  if roleName = "" then db
  else match db.memberRoles.get (groupId, pubkey, roleName) with
    | some _ => db
    | none => { db with
        memberRoles := db.memberRoles.put (groupId, pubkey, roleName) ⟨founderPubkey, call.now⟩ }

def refreshMember (founderPubkey : String) (db : Db) (m : RosterMember) : Db :=
  if m.pubkey = "" then db
  else
    let row : Member := match db.members.get (groupId, m.pubkey) with
      | none => {
          joinedAt := m.joinedAt
          displayName := m.displayName
          peerAddress := m.peerAddress
          nodeId := m.nodeId }
      | some row => { row with
          displayName := if m.displayName = "" then row.displayName else m.displayName
          peerAddress := if m.peerAddress = "" then row.peerAddress else m.peerAddress
          nodeId := if m.nodeId = "" then row.nodeId else m.nodeId }
    m.roles.foldl (refreshAssignment call groupId founderPubkey m.pubkey)
      { db with members := db.members.put (groupId, m.pubkey) row }

def refreshRelay (db : Db) (relay : String × String) : Db :=
  let relayUrl := PyStr.strip relay.1
  if relayUrl = "" then db
  else
    let row : RelayBinding := match db.relayBindings.get (groupId, relayUrl) with
      | none => ⟨relay.2, call.now, "", .active, "", "", 0, false, "", ""⟩
      | some row => { row with status := .active }
    { db with relayBindings := db.relayBindings.put (groupId, relayUrl) row }

/-- The upserts of `post_refresh_members`. -/
def refreshRows (db : Db) (answer : RosterAnswer) : Db :=
  let db := answer.roles.foldl (refreshRole call groupId) db
  let db := answer.members.foldl (refreshMember call groupId answer.founderPubkey) db
  answer.relays.foldl (refreshRelay call groupId) db

/-- `post_refresh_members`: the founder's view is added to the rows of this node. -/
def refreshMembers (db : Db) (answer : Except HttpError RosterAnswer) : Except HttpError Db :=
  match db.liveGroup groupId with
  | none => .error ⟨404, "group not found"⟩
  | some g =>
    if db.hasPermission groupId p.me "group:read" = false then
      .error ⟨403, "caller lacks permission 'group:read' in group " ++ groupId⟩
    else if g.founderPubkey = p.me then .ok db
    else
      let founderNodeId := match db.members.get (groupId, g.founderPubkey) with
        | none => ""
        | some row => row.nodeId
      if g.founderAddress = "" ∧ founderNodeId = "" then
        .error ⟨409, "no founder address cached — re-join the group to populate it"⟩
      else match answer with
        | .error e => .error e
        | .ok answer => .ok (refreshRows call groupId db answer)

end Refresh

section Lemmas

variable {p : Primitives} {call : Call} {groupId : String} {db db' : Db}

theorem groups_foldl {α : Type} {f : Db → α → Db} (hf : ∀ db a, (f db a).groups = db.groups)
    (as : List α) (db : Db) : (as.foldl f db).groups = db.groups := by
  induction as generalizing db with
  | nil => rfl
  | cons a as ih => exact (ih (f db a)).trans (hf db a)

theorem groups_refreshRows (db : Db) (answer : RosterAnswer) :
    (refreshRows call groupId db answer).groups = db.groups := by
  have hrole : ∀ db role, (refreshRole call groupId db role).groups = db.groups := by
    intro db role
    unfold refreshRole
    split <;> rfl
  have hassignment : ∀ founder pubkey db name,
      (refreshAssignment call groupId founder pubkey db name).groups = db.groups := by
    intro founder pubkey db name
    unfold refreshAssignment
    split
    · rfl
    · split <;> rfl
  have hmember : ∀ founder db m, (refreshMember call groupId founder db m).groups = db.groups := by
    intro founder db m
    unfold refreshMember
    split
    · rfl
    · exact groups_foldl (hassignment founder m.pubkey) m.roles _
  have hrelay : ∀ db relay, (refreshRelay call groupId db relay).groups = db.groups := by
    intro db relay
    simp only [refreshRelay]
    split <;> rfl
  unfold refreshRows
  rw [groups_foldl hrelay, groups_foldl (hmember answer.founderPubkey), groups_foldl hrole]

theorem groups_refreshMembers {answer : Except HttpError RosterAnswer}
    (h : refreshMembers p call groupId db answer = .ok db') : db'.groups = db.groups := by
  unfold refreshMembers at h
  dsimp only at h
  repeat' split at h
  all_goals cases h
  all_goals first
    | rfl
    | exact groups_refreshRows _ _

/-! ## Which groups are paused -/

theorem paused_eq (db : Db) (groupId : String) :
    db.paused groupId = ((db.groups.get groupId).map Group.paused).getD false := by
  unfold Db.paused
  cases db.groups.get groupId <;> rfl

theorem paused_applyFrame {o : OpenedFrame} {type : FrameType} {b : Bool}
    (h : applyFrame p call db o type = some (db', b)) (g : String) :
    (db'.groups.get g).map Group.paused = (db.groups.get g).map Group.paused := by
  cases hoff : type.offRoster with
  | true =>
    have hgroups : db'.groups = db.groups := congrArg Roster.groups (roster_of_offRoster hoff h)
    rw [hgroups]
  | false =>
    cases type with
    | symkeyRotate =>
      have hadopt : ∀ channel envelopes, ((adoptSymkey p call db channel envelopes).get g).map Group.paused =
            (db.groups.get g).map Group.paused := by
        intro channel envelopes
        unfold adoptSymkey
        split
        next hgroup =>
          refine Table.map_get_put Group.paused hgroup ?_ g
          rfl
        · rfl
      simp only [applyFrame, applySymkeyRotate] at h
      repeat' split at h
      all_goals cases h
      all_goals first
        | rfl
        | exact hadopt _ _
    | groupMeta =>
      simp only [applyFrame, applyGroupMeta] at h
      repeat' split at h
      case h_2 row hrow =>
        cases h
        refine Table.map_get_put Group.paused hrow ?_ g
        rfl
      all_goals cases h <;> rfl
    | rosterUpdate | rolesAssign | rolesDef | chatMute | presenceBeacon =>
      simp only [applyFrame, applyRosterUpdate, applyRolesAssign, applyRolesDef, applyChatMute,
        applyPresenceBeacon] at h
      repeat' split at h
      all_goals cases h <;> rfl
    | _ => cases hoff

theorem map_paused_step (p : Primitives) (n : Node) (d : Delivery) (g : String) :
    ((n.step p d).db.groups.get g).map Group.paused = (n.db.groups.get g).map Group.paused := by
  rw [(deliver_view (fun db => (db.groups.get g).map Group.paused) (fun _ _ => rfl) p n d).2]
  rcases accepted p n d with - | ⟨o, type⟩
  · rfl
  show ((n.handlerDb p d.call o type).groups.get g).map Group.paused = _
  unfold Node.handlerDb
  split
  · rfl
  next happ => exact paused_applyFrame happ g

theorem paused_step (p : Primitives) (n : Node) (d : Delivery) (g : String) :
    (n.step p d).db.paused g = n.db.paused g := by
  rw [paused_eq, paused_eq, map_paused_step]

theorem isSome_group_step (p : Primitives) (n : Node) (d : Delivery) (g : String) :
    ((n.step p d).db.groups.get g).isSome = (n.db.groups.get g).isSome := by
  rw [← Option.isSome_map (f := Group.paused), map_paused_step, Option.isSome_map]

theorem paused_storeSymkey (call : Call) (s : Sealing) (db : Db) (g : String) :
    (storeSymkey call s db g).paused g = db.paused g := by
  rw [paused_eq, paused_eq]
  refine congrArg (Option.getD · false) ?_
  unfold storeSymkey
  split
  · rfl
  next row hrow =>
    refine Table.map_get_put Group.paused hrow ?_ g
    rfl

end Lemmas

/-! ## Keys after a delivery -/

section Keys

variable {p : Primitives} {n : Node} {d : Delivery} {groupId : String}

theorem localSymkey_eq (p : Primitives) (db : Db) (groupId : String) :
    db.localSymkey p groupId = match db.authority.symkeys groupId with
      | none => none
      | some sealed => if sealed = [] then none else p.eciesOpen sealed := by
  simp only [Db.localSymkey, Db.authority]
  cases db.groups.get groupId <;> rfl

/-- The rotation is handed to its handler, and its `key` opens. -/
def TakesKey (p : Primitives) (n : Node) (d : Delivery) (groupId : String) (key : List UInt8) : Prop :=
  (accepted p n d).map (fun a => (a.2, a.1.channel, carriedKey p a.1)) = some (.symkeyRotate, groupId, some key) ∧
    OpensOwn p d.call key

instance TakesKey.instDecidable (p : Primitives) (n : Node) (d : Delivery) (groupId : String)
    (key : List UInt8) : Decidable (TakesKey p n d groupId key) :=
  inferInstanceAs (Decidable (_ = _ ∧ _))

theorem symkey_of_opens {o : OpenedFrame} (h : Opens p n d o) : (n.db.authority.symkeys o.channel).isSome := by
  unfold Opens receive at h
  split at h
  case h_1 => cases h
  case h_2 frame _ =>
  have hdb := db_seen n frame.frameId
  split at h
  case h_1 => cases h
  case h_2 n₁ hseen =>
  rw [hseen] at hdb
  replace hdb : n₁.db = n.db := hdb
  simp only [openInbound, hdb] at h
  split at h
  case isTrue => cases h
  case isFalse =>
  split at h
  case h_1 => cases h
  case h_2 key hkey =>
  split at h
  case isTrue => cases h
  case isFalse =>
  split at h
  case h_1 => cases h
  case h_2 opened hopened =>
    cases h
    rw [(openFrame_ok hopened).2.1]
    show ((n.db.groups.get frame.channel).map Group.groupSymkeyEnc).isSome
    unfold Db.localSymkey at hkey
    split at hkey
    · cases hkey
    next hrow => rw [hrow]; rfl

theorem localSymkey_of_takesKey {key : List UInt8} (h : TakesKey p n d groupId key) :
    (n.step p d).db.localSymkey p groupId = some key := by
  obtain ⟨htakes, hne, hopens⟩ := h
  obtain ⟨⟨o, type⟩, haccepted, heq⟩ := Option.map_eq_some_iff.mp htakes
  obtain ⟨rfl, heq⟩ := Prod.mk.inj heq
  obtain ⟨rfl, hcarried⟩ := Prod.mk.inj heq
  obtain ⟨sealed, hsealed⟩ := Option.isSome_iff_exists.mp (symkey_of_opens (accepted_eq_some.mp haccepted).1)
  rcases authority_step p n d with ⟨hnone, -⟩ | ⟨o', type', haccepted', hstep⟩
  · rw [hnone] at haccepted
    cases haccepted
  obtain ⟨rfl, rfl⟩ := Prod.mk.inj (Option.some.inj (haccepted'.symm.trans haccepted))
  have hkey : (n.step p d).db.authority.symkeys o'.channel = some (d.call.eciesSeal key) := by
    rw [hstep.symkeys, if_pos rfl, hcarried]
    show (if o'.channel = o'.channel then _ else _) = _
    rw [if_pos rfl, hsealed]
    rfl
  simp only [localSymkey_eq, hkey, if_neg hne, hopens]

theorem localSymkey_of_other (h : (accepted p n d).map Prod.snd ≠ some .symkeyRotate) :
    (n.step p d).db.localSymkey p groupId = n.db.localSymkey p groupId := by
  rw [localSymkey_eq, localSymkey_eq]
  rcases authority_step p n d with ⟨-, hsame⟩ | ⟨o, type, haccepted, hstep⟩
  · rw [hsame]
  have htype : type ≠ .symkeyRotate := by
    rintro rfl
    exact h (by rw [haccepted]; rfl)
  rw [hstep.symkeys, if_neg htype]

/-- A completed kick or leave on the issuer's own row of the group. -/
structure RotatesOwn (p : Primitives) (call : Call) (s : Sealing) (groupId : String) (db db' : Db) : Prop where
  key : OpensOwn p call s.symkey → db'.localSymkey p groupId = some s.symkey
  paused : db'.paused groupId = db.paused groupId

theorem rotatesOwn_kick {call : Call} {s : Sealing} {db db' : Db} {member : String} {publication : Publication}
    (h : kickMember p call s db groupId member = .ok (db', publication)) : RotatesOwn p call s groupId db db' := by
  unfold kickMember at h
  split at h
  case h_1 => cases h
  case h_2 g hlive =>
  split at h
  case isTrue => cases h
  case isFalse =>
  split at h
  case isTrue => cases h
  case isFalse =>
  split at h
  case isTrue => cases h
  case isFalse =>
  split at h
  case h_1 => cases h
  case h_2 =>
  split at h
  case h_1 => cases h
  case h_2 out hrotate =>
    cases h
    obtain ⟨-, rfl⟩ := publishSymkeyRotate_eq_some.mp hrotate
    have hrow : (db.removeMember groupId member).groups.get groupId = some g := (liveGroup_eq_some.mp hlive).1
    exact ⟨(localSymkey_storeSymkey hrow).mpr, paused_storeSymkey call s (db.removeMember groupId member) groupId⟩

theorem rotatesOwn_leave {call : Call} {s : Sealing} {db db' : Db} {publication : Publication}
    (h : leaveGroup p call s db groupId = .ok (db', publication)) : RotatesOwn p call s groupId db db' := by
  obtain ⟨⟨g, hlive, -⟩, -, -, rfl⟩ := leaveGroup_eq_ok.mp h
  exact ⟨(localSymkey_storeSymkey (liveGroup_eq_some.mp hlive).1).mpr, paused_storeSymkey call s db groupId⟩

end Keys

/-! ## The nodes of a group -/

/-- `pause_group` and `resume_group`. -/
def setPaused (db : Db) (groupId : String) (paused : Bool) : Except HttpError Db :=
  match db.liveGroup groupId with
  | none => .error ⟨404, "group not found"⟩
  | some g => .ok { db with groups := db.groups.put groupId { g with paused } }

theorem localSymkey_setPaused {p : Primitives} {db db' : Db} {groupId : String} {paused : Bool}
    (h : setPaused db groupId paused = .ok db') : db'.localSymkey p groupId = db.localSymkey p groupId := by
  unfold setPaused at h
  split at h
  · cases h
  next g hlive =>
    cases h
    simp only [Db.localSymkey, Table.get_put_self, (liveGroup_eq_some.mp hlive).1]

structure Rotation where
  envelope : Json
  /-- The key that its issuer minted. -/
  key : List UInt8
  issuer : String
  /-- The members it was delivered to. -/
  delivered : List String

def Rotation.Awaits (r : Rotation) (member : String) : Prop := member ≠ r.issuer ∧ member ∉ r.delivered

instance Rotation.Awaits.instDecidable (r : Rotation) (member : String) : Decidable (r.Awaits member) :=
  inferInstanceAs (Decidable (_ ∧ _))

structure System where
  nodes : String → Node
  /-- Who was not kicked and did not leave. -/
  remaining : List String
  rotations : List Rotation

inductive Event
  | kick (admin member : String) (call : Call) (s : Sealing)
  | leave (member : String) (call : Call) (s : Sealing)
  /-- The rotation with this number reaches a node. -/
  | rotation (index : Nat) (member : String) (entry : Entry) (call : Call)
  /-- Any other frame reaches a node. -/
  | frame (member : String) (d : Delivery)
  | refresh (member : String) (call : Call) (answer : Except HttpError RosterAnswer)
  | pause (member : String)
  | resume (member : String)

namespace System

variable (prims : String → Primitives) (groupId : String)

def own (member : String) : Primitives := { prims member with me := member }

def symkey (S : System) (member : String) : Option (List UInt8) :=
  (S.nodes member).db.localSymkey (own prims member) groupId

def paused (S : System) (member : String) : Bool := (S.nodes member).db.paused groupId

def setNode (S : System) (member : String) (n : Node) : System := { S with nodes := Function.update S.nodes member n }

def setDb (S : System) (member : String) : Except HttpError Db → System
  | .error _ => S
  | .ok db => S.setNode member { S.nodes member with db }

/-- A kick or a leave: the issuer's database changes, and the frame goes on the wire. -/
def issue (S : System) (issuer gone : String) (key : List UInt8) : Except HttpError (Db × Publication) → System
  | .error _ => S
  | .ok (db, publication) =>
    { nodes := Function.update S.nodes issuer { S.nodes issuer with db }
      remaining := S.remaining.filter (· ≠ gone)
      rotations := S.rotations ++ publication.envelope.toList.map fun envelope => ⟨envelope, key, issuer, []⟩ }

def kicked (S : System) (admin member : String) (call : Call) (s : Sealing) : Except HttpError (Db × Publication) :=
  kickMember (own prims admin) call s (S.nodes admin).db groupId member

def left (S : System) (member : String) (call : Call) (s : Sealing) : Except HttpError (Db × Publication) :=
  leaveGroup (own prims member) call s (S.nodes member).db groupId

def deliverRotation (S : System) (index : Nat) (member : String) (entry : Entry) (call : Call) : System :=
  match S.rotations[index]? with
  | none => S
  | some r =>
    { S.setNode member ((S.nodes member).step (own prims member) ⟨entry, call, r.envelope⟩) with
      rotations := S.rotations.set index { r with delivered := member :: r.delivered } }

def step (S : System) : Event → System
  | .kick admin member call s => S.issue admin member s.symkey (S.kicked prims groupId admin member call s)
  | .leave member call s => S.issue member member s.symkey (S.left prims groupId member call s)
  | .rotation index member entry call => S.deliverRotation prims index member entry call
  | .frame member d => S.setNode member ((S.nodes member).step (own prims member) d)
  | .refresh member call answer =>
    S.setDb member (refreshMembers (own prims member) call groupId (S.nodes member).db answer)
  | .pause member => S.setDb member (setPaused (S.nodes member).db groupId true)
  | .resume member => S.setDb member (setPaused (S.nodes member).db groupId false)

/-! ## Agreement -/

def Settled (S : System) : Prop := ∀ r ∈ S.rotations, ∀ i ∈ S.remaining, ¬r.Awaits i

def Unpaused (S : System) : Prop := ∀ i ∈ S.remaining, S.paused groupId i = false

def AllDelivered (S : System) : Prop := ∀ r ∈ S.rotations, ∀ i ∈ S.remaining, S.paused groupId i = false → ¬r.Awaits i

def Agree (S : System) : Prop :=
  ∀ i ∈ S.remaining, ∀ j ∈ S.remaining, S.symkey prims groupId i = S.symkey prims groupId j

/-- It starts when nobody waits or is paused, and its frame goes out. -/
def IssuedAlone (S : System) (issuer : String) (call : Call) (s : Sealing) : Except HttpError (Db × Publication) → Prop
  | .error _ => True
  | .ok (_, publication) => S.Settled ∧ S.Unpaused groupId ∧ publication.envelope.isSome = true ∧
      OpensOwn (own prims issuer) call s.symkey

/-- One rotation at a time: everyone who stays takes its key before the next. -/
def Orderly (S : System) : Event → Prop
  | .kick admin member call s => S.IssuedAlone prims groupId admin call s (S.kicked prims groupId admin member call s)
  | .leave member call s => S.IssuedAlone prims groupId member call s (S.left prims groupId member call s)
  | .rotation index member entry call =>
    ∀ r ∈ S.rotations[index]?, member ∈ S.remaining →
      if r.Awaits member then
        TakesKey (own prims member) (S.nodes member) ⟨entry, call, r.envelope⟩ groupId r.key
      else
        (accepted (own prims member) (S.nodes member) ⟨entry, call, r.envelope⟩).map Prod.snd ≠ some .symkeyRotate
  | .frame member d =>
    member ∈ S.remaining → (accepted (own prims member) (S.nodes member) d).map Prod.snd ≠ some .symkeyRotate
  | .pause member => member ∈ S.remaining → S.Settled
  | .refresh .. | .resume _ => True

instance AllDelivered.instDecidable (S : System) : Decidable (S.AllDelivered groupId) :=
  inferInstanceAs (Decidable (∀ r ∈ S.rotations, ∀ i ∈ S.remaining, _ → _))

instance Settled.instDecidable (S : System) : Decidable S.Settled :=
  inferInstanceAs (Decidable (∀ r ∈ S.rotations, ∀ i ∈ S.remaining, ¬r.Awaits i))

instance Unpaused.instDecidable (S : System) : Decidable (S.Unpaused groupId) :=
  inferInstanceAs (Decidable (∀ i ∈ S.remaining, _ = false))

instance IssuedAlone.instDecidable (S : System) (issuer : String) (call : Call) (s : Sealing) :
    (answer : Except HttpError (Db × Publication)) → Decidable (S.IssuedAlone prims groupId issuer call s answer)
  | .error _ => .isTrue trivial
  | .ok (_, publication) => inferInstanceAs (Decidable (S.Settled ∧ S.Unpaused groupId ∧
      publication.envelope.isSome = true ∧ OpensOwn (own prims issuer) call s.symkey))

instance Orderly.instDecidable (S : System) : (e : Event) → Decidable (S.Orderly prims groupId e)
  | .kick admin _ call s => IssuedAlone.instDecidable prims groupId S admin call s _
  | .leave member call s => IssuedAlone.instDecidable prims groupId S member call s _
  | .rotation index _ _ _ => inferInstanceAs (Decidable (∀ r ∈ S.rotations[index]?, _ → ite _ _ _))
  | .frame _ _ => inferInstanceAs (Decidable (_ ∈ _ → _ ≠ _))
  | .pause _ => inferInstanceAs (Decidable (_ ∈ _ → S.Settled))
  | .refresh .. | .resume _ => .isTrue trivial

/-- Whoever waits for no rotation holds the key `new`, and nobody is paused. -/
structure Inv (S : System) (new : List UInt8) : Prop where
  keys : ∀ i ∈ S.remaining, (∀ r ∈ S.rotations, ¬r.Awaits i) → S.symkey prims groupId i = some new
  carried : ∀ r ∈ S.rotations, ∀ i ∈ S.remaining, r.Awaits i → r.key = new
  unpaused : ¬S.Settled → S.Unpaused groupId

section Invariant

variable {prims : String → Primitives} {groupId : String} {S : System} {new : List UInt8}

theorem nodes_setNode (S : System) (member : String) (n : Node) (i : String) :
    (S.setNode member n).nodes i = if i = member then n else S.nodes i :=
  Function.update_apply S.nodes member n i

theorem symkey_setNode (S : System) (member : String) (n : Node) (i : String) :
    (S.setNode member n).symkey prims groupId i =
      if i = member then n.db.localSymkey (own prims i) groupId else S.symkey prims groupId i := by
  unfold symkey
  rw [nodes_setNode]
  split <;> rfl

theorem paused_setNode (S : System) (member : String) (n : Node) (i : String) :
    (S.setNode member n).paused groupId i = if i = member then n.db.paused groupId else S.paused groupId i := by
  unfold paused
  rw [nodes_setNode]
  split <;> rfl

theorem Inv.setNode (h : S.Inv prims groupId new) {member : String} {n : Node} (hkey : member ∈ S.remaining →
      n.db.localSymkey (own prims member) groupId = S.symkey prims groupId member)
    (hpaused : member ∈ S.remaining → ¬S.Settled → n.db.paused groupId = false) :
    (S.setNode member n).Inv prims groupId new := by
  refine ⟨fun i hi hnone => ?_, h.carried, fun hunsettled i hi => ?_⟩
  · rw [symkey_setNode]
    by_cases heq : i = member
    · subst heq
      rw [if_pos rfl, hkey hi]
      exact h.keys i hi hnone
    rw [if_neg heq]
    exact h.keys i hi hnone
  rw [paused_setNode]
  by_cases heq : i = member
  · subst heq
    rw [if_pos rfl]
    exact hpaused hi hunsettled
  rw [if_neg heq]
  exact h.unpaused hunsettled i hi

theorem Inv.setDb (h : S.Inv prims groupId new) {member : String} {answer : Except HttpError Db}
    (hkey : ∀ db, answer = .ok db → db.localSymkey (own prims member) groupId = S.symkey prims groupId member)
    (hpaused : ∀ db, answer = .ok db → member ∈ S.remaining → ¬S.Settled → db.paused groupId = false) :
    (S.setDb member answer).Inv prims groupId new := by
  cases answer with
  | error _ => exact h
  | ok db => exact h.setNode (fun _ => hkey db rfl) (hpaused db rfl)

theorem Inv.issue (h : S.Inv prims groupId new) {issuer gone : String} {call : Call} {s : Sealing}
    {answer : Except HttpError (Db × Publication)} (halone : S.IssuedAlone prims groupId issuer call s answer)
    (hown : ∀ db publication, answer = .ok (db, publication) →
      RotatesOwn (own prims issuer) call s groupId (S.nodes issuer).db db) :
    ∃ new', (S.issue issuer gone s.symkey answer).Inv prims groupId new' := by
  rcases answer with e | ⟨db, publication⟩
  · exact ⟨new, h⟩
  obtain ⟨hsettled, hunpaused, hpublished, hopens⟩ := halone
  obtain ⟨envelope, henvelope⟩ := Option.isSome_iff_exists.mp hpublished
  obtain ⟨hkey, hpaused⟩ := hown db publication rfl
  let S' := S.issue issuer gone s.symkey (.ok (db, publication))
  have hrotations : S'.rotations = S.rotations ++ [⟨envelope, s.symkey, issuer, []⟩] := by
    simp [S', System.issue, henvelope]
  have hremaining : ∀ i ∈ S'.remaining, i ∈ S.remaining := fun i hi => (List.mem_filter.mp hi).1
  have hnodes (i : String) : S'.nodes i = if i = issuer then { S.nodes issuer with db } else S.nodes i :=
    Function.update_apply S.nodes issuer _ i
  refine ⟨s.symkey, fun i hi hnone => ?_, fun r hr i hi hawaits => ?_, fun _ i hi => ?_⟩
  · -- only the issuer does not wait for the rotation
    have hissuer : i = issuer := by
      by_contra hne
      refine hnone ⟨envelope, s.symkey, issuer, []⟩ ?_ ⟨hne, List.not_mem_nil⟩
      rw [hrotations]
      exact List.mem_append_right _ (List.mem_singleton.mpr rfl)
    subst hissuer
    unfold symkey
    rw [hnodes, if_pos rfl]
    exact hkey hopens
  · rw [hrotations, List.mem_append, List.mem_singleton] at hr
    rcases hr with hold | rfl
    · exact absurd hawaits (hsettled r hold i (hremaining i hi))
    · rfl
  · unfold paused
    rw [hnodes]
    by_cases heq : i = issuer
    · subst heq
      rw [if_pos rfl]
      exact hpaused.trans (hunpaused i (hremaining i hi))
    rw [if_neg heq]
    exact hunpaused i (hremaining i hi)

theorem awaits_delivered {r : Rotation} {member i : String} :
    ({ r with delivered := member :: r.delivered } : Rotation).Awaits i ↔ r.Awaits i ∧ i ≠ member := by
  unfold Rotation.Awaits
  rw [List.mem_cons, not_or]
  tauto

theorem mem_set_of_ne {α : Type} {l : List α} {index : Nat} {a b x : α}
    (ha : l[index]? = some a) (hx : x ∈ l) (hne : x ≠ a) : x ∈ l.set index b := by
  obtain ⟨j, hj⟩ := List.mem_iff_getElem?.mp hx
  refine List.mem_iff_getElem?.mpr ⟨j, ?_⟩
  rw [List.getElem?_set_ne]
  · exact hj
  rintro rfl
  exact hne (Option.some.inj (hj.symm.trans ha))

theorem Inv.rotation (h : S.Inv prims groupId new) {index : Nat} {member : String} {entry : Entry}
    {call : Call} (horderly : S.Orderly prims groupId (.rotation index member entry call)) :
    (S.deliverRotation prims index member entry call).Inv prims groupId new := by
  unfold deliverRotation
  cases hr : S.rotations[index]? with
  | none => exact h
  | some r =>
  have hmem : r ∈ S.rotations := List.mem_of_getElem? hr
  have hset : ({ r with delivered := member :: r.delivered } : Rotation) ∈
      S.rotations.set index { r with delivered := member :: r.delivered } :=
    List.mem_set (List.getElem?_eq_some_iff.mp hr).1 _
  -- whoever waits afterwards waited before, for the same key
  have hwaited : ∀ r' ∈ S.rotations.set index { r with delivered := member :: r.delivered },
      ∀ i, r'.Awaits i → ∃ r'' ∈ S.rotations, r''.Awaits i ∧ r''.key = r'.key := by
    intro r' hr' i hawaits
    rcases List.mem_or_eq_of_mem_set hr' with hold | rfl
    · exact ⟨r', hold, hawaits, rfl⟩
    · exact ⟨r, hmem, (awaits_delivered.mp hawaits).1, rfl⟩
  refine ⟨fun i hi hnone => ?_, fun r' hr' i hi hawaits => ?_, fun hunsettled i hi => ?_⟩
  · -- everything that waited for `i`, but the delivered rotation, waits on
    have hothers : ∀ r'' ∈ S.rotations, r''.Awaits i → r'' = r := by
      intro r'' hr'' hawaits
      by_contra hne
      exact hnone r'' (mem_set_of_ne hr hr'' hne) hawaits
    show (S.setNode member _).symkey prims groupId i = some new
    rw [symkey_setNode]
    by_cases heq : i = member
    · subst heq
      rw [if_pos rfl]
      have htakes := horderly r hr hi
      by_cases hawaits : r.Awaits i
      · rw [if_pos hawaits] at htakes
        rw [localSymkey_of_takesKey htakes, h.carried r hmem i hi hawaits]
      rw [if_neg hawaits] at htakes
      rw [localSymkey_of_other htakes]
      refine h.keys i hi fun r'' hr'' hawaits'' => hawaits ?_
      rw [← hothers r'' hr'' hawaits'']
      exact hawaits''
    · rw [if_neg heq]
      refine h.keys i hi fun r'' hr'' hawaits'' => ?_
      obtain rfl := hothers r'' hr'' hawaits''
      exact hnone _ hset (awaits_delivered.mpr ⟨hawaits'', heq⟩)
  · obtain ⟨r'', hr'', hawaits'', hkey⟩ := hwaited r' hr' i hawaits
    rw [← hkey]
    exact h.carried r'' hr'' i hi hawaits''
  · have hbefore : ¬S.Settled := by
      intro hsettled
      refine hunsettled fun r' hr' j hj hawaits => ?_
      obtain ⟨r'', hr'', hawaits'', -⟩ := hwaited r' hr' j hawaits
      exact hsettled r'' hr'' j hj hawaits''
    show (S.setNode member _).paused groupId i = false
    rw [paused_setNode]
    by_cases heq : i = member
    · subst heq
      rw [if_pos rfl, paused_step]
      exact h.unpaused hbefore i hi
    rw [if_neg heq]
    exact h.unpaused hbefore i hi

/-- **An orderly event keeps the invariant.** -/
theorem Inv.step (e : Event) (horderly : S.Orderly prims groupId e)
    (h : ∃ new, S.Inv prims groupId new) : ∃ new, (S.step prims groupId e).Inv prims groupId new := by
  obtain ⟨new, h⟩ := h
  cases e with
  | kick admin member call s => exact h.issue horderly fun _ _ hkick => rotatesOwn_kick hkick
  | leave member call s => exact h.issue horderly fun _ _ hleave => rotatesOwn_leave hleave
  | rotation index member entry call => exact ⟨new, h.rotation horderly⟩
  | frame member d =>
    refine ⟨new, h.setNode (fun hi => localSymkey_of_other (horderly hi)) fun hi hunsettled => ?_⟩
    rw [paused_step]
    exact h.unpaused hunsettled member hi
  | refresh member call answer =>
    refine ⟨new, h.setDb (fun db hdb => ?_) fun db hdb hi hunsettled => ?_⟩
    · simp only [symkey, Db.localSymkey, groups_refreshMembers hdb]
    rw [paused_eq, groups_refreshMembers hdb, ← paused_eq]
    exact h.unpaused hunsettled member hi
  | pause member =>
    refine ⟨new, h.setDb (fun db hdb => localSymkey_setPaused hdb) fun _ _ hi hunsettled => ?_⟩
    exact absurd (horderly hi) hunsettled
  | resume member =>
    refine ⟨new, h.setDb (fun db hdb => localSymkey_setPaused hdb) fun db hdb _ _ => ?_⟩
    unfold setPaused at hdb
    split at hdb
    · cases hdb
    cases hdb
    simp only [Db.paused, Table.get_put_self]

theorem Inv.agree (h : S.Inv prims groupId new) (hall : S.AllDelivered groupId) : S.Agree prims groupId := by
  have hsettled : S.Settled := by
    by_contra hunsettled
    exact hunsettled fun r hr i hi => hall r hr i hi (h.unpaused hunsettled i hi)
  intro i hi j hj
  rw [h.keys i hi fun r hr => hsettled r hr i hi, h.keys j hj fun r hr => hsettled r hr j hj]

end Invariant

/-- **Agreement on the key.** -/
theorem symkeys_agree (prims : String → Primitives) (groupId : String) (S : System)
    (key : List UInt8) (hfresh : S.rotations = [])
    (hkey : ∀ i ∈ S.remaining, S.symkey prims groupId i = some key) (es : List Event)
    (hes : Along (step prims groupId) (Orderly prims groupId) S es)
    (hall : (run (step prims groupId) S es).AllDelivered groupId) :
    (run (step prims groupId) S es).Agree prims groupId := by
  have hinit : ∃ new, S.Inv prims groupId new := by
    refine ⟨key, fun i hi _ => hkey i hi, ?_, ?_⟩
    · rw [hfresh]
      intro r hr
      cases hr
    intro hunsettled
    refine absurd ?_ hunsettled
    unfold Settled
    rw [hfresh]
    intro r hr
    cases hr
  obtain ⟨new, hinv⟩ := run_invariant (P := fun S : System => ∃ new, S.Inv prims groupId new)
    (fun _ e horderly h => Inv.step e horderly h) hinit hes
  exact hinv.agree hall

end System

/-! ### A kick after a roster update

`alice` founded `g`; `carol` is an admin. All nodes start with the same rows, in which the X25519
keys of `alice`, `carol` and `dave` are known. -/

def exampleGroupNode : Node :=
  { exampleNode with
    db := { exampleNode.db with
      members := Table.putAll ∅ [(("g", "alice"), { joinedAt := "1", memberX25519Pub := "key of alice" }),
        (("g", "carol"), { joinedAt := "1", memberX25519Pub := "key of carol" }),
        (("g", "dave"), { joinedAt := "1", memberX25519Pub := "key of dave" })]
      memberRoles := Table.putAll ∅ [(("g", "alice", "founder"), ⟨"alice", "1"⟩),
        (("g", "carol", "admin"), ⟨"alice", "1"⟩), (("g", "dave", "member"), ⟨"alice", "1"⟩)] } }

def exampleCall : Call := ⟨"2", id, fun _ _ => none⟩

/-- `carol` has let `bob` in and tells the others. -/
def exampleRosterUpdate : Delivery := exampleDelivery .dispatch (exampleFrame "1" "roster.update" "carol" "carol")

def exampleFounder : Primitives :=
  { examplePrimitives [("group_id", .str "g"), ("action", .str "add"), ("member", .obj [("pubkey", .str "bob")])] with
    canonical := fun _ => exampleBytes "alice"
    me := "alice" }

def exampleKickPayload (n : Node) : List (String × Json) := [("group_id", .str "g"), ("kicked_pubkey", .str "dave"),
    ("envelopes", .obj (rotationEnvelopes exampleFounder (exampleSealing "2" "alice" 9)
      (n.db.removeMember "g" "dave") "g" "dave"))]

def exampleNodes (n : Node) (member : String) : Primitives :=
  if member = "alice" then exampleFounder else examplePrimitives (exampleKickPayload n)

theorem symkeys_agree_after_kick :
    let prims := exampleNodes exampleGroupNode
    let S : System := ⟨fun _ => exampleGroupNode, ["alice", "carol", "dave"], []⟩
    let es := [.kick "alice" "dave" exampleCall (exampleSealing "2" "alice" 9),
      .rotation 0 "carol" .dispatch exampleCall]
    (run (System.step prims "g") S es).symkey prims "g" "carol" = some (List.replicate 32 9) ∧
      (run (System.step prims "g") S es).Agree prims "g" := by
  intro prims S es
  obtain ⟨hkey, horderly, hall, hnew⟩ : (∀ i ∈ S.remaining, S.symkey prims "g" i = some (List.replicate 32 7)) ∧
      Along (System.step prims "g") (System.Orderly prims "g") S es ∧
      (run (System.step prims "g") S es).AllDelivered "g" ∧
      (run (System.step prims "g") S es).symkey prims "g" "carol" = some (List.replicate 32 9) := by
    decide +kernel
  exact ⟨hnew, System.symkeys_agree prims "g" S (List.replicate 32 7) rfl hkey es horderly hall⟩

/-- **A member is left behind.** -/
theorem member_left_behind :
    let prims := exampleNodes (exampleGroupNode.step exampleFounder exampleRosterUpdate)
    let S : System := ⟨fun _ => exampleGroupNode, ["alice", "bob", "carol", "dave"], []⟩
    let es := [.frame "alice" exampleRosterUpdate, .kick "alice" "dave" exampleCall (exampleSealing "2" "alice" 9),
      .rotation 0 "carol" .dispatch exampleCall, .rotation 0 "bob" .dispatch exampleCall]
    let S' := run (System.step prims "g") S es
    (∀ i ∈ S.remaining, S.symkey prims "g" i = some (List.replicate 32 7)) ∧
      S'.remaining = ["alice", "bob", "carol"] ∧ S'.AllDelivered "g" ∧ ¬S'.Agree prims "g" := by
  intro prims S es S'
  obtain ⟨hkey, hremaining, hall, hbob, hcarol⟩ :
      (∀ i ∈ S.remaining, S.symkey prims "g" i = some (List.replicate 32 7)) ∧
      S'.remaining = ["alice", "bob", "carol"] ∧ S'.AllDelivered "g" ∧
      S'.symkey prims "g" "bob" = some (List.replicate 32 7) ∧
      S'.symkey prims "g" "carol" = some (List.replicate 32 9) := by
    decide +kernel
  refine ⟨hkey, hremaining, hall, fun hagree => ?_⟩
  have hsame := hagree "bob" (by rw [hremaining]; decide) "carol" (by rw [hremaining]; decide)
  rw [hbob, hcarol] at hsame
  cases hsame

end NexusGrid.Groups

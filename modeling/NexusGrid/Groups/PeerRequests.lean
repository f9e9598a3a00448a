import NexusGrid.Groups.Agreement

/-! # Two requests of other nodes

Two endpoints of `group_peer.py` change rows on the word of another node.
-/

namespace NexusGrid.Groups

open Lib

structure UpdateDisplayNameBody where
  groupId : String
  memberPubkey : String
  displayName : String
  grantBlobB64 : String
  signatureB64 : String
deriving DecidableEq

section DisplayName

variable (sha256 : List UInt8 → List UInt8) (p : Primitives) (call : Call)

def displayNameNonce (name : String) : List UInt8 := sha256 (utf8 "set_display_name:" ++ utf8 name)

def verifyChallenge (admins : List String) (grantBlob nonce signature : List UInt8) : Bool :=
  match verifyGrant p call.now admins grantBlob with
  | none => false
  | some grant => p.verify grant.memberPubkey signature
      (utf8 "nexus.group.challenge.v1|" ++ nonce ++ sha256 grantBlob)

/-- The name that `update_display_name` stores. -/
def UpdateDisplayNameBody.stored (body : UpdateDisplayNameBody) : String := PyStr.take 64 (PyStr.strip body.displayName)

def peerGroupUpdateDisplayName (db : Db) (body : UpdateDisplayNameBody) : Except HttpError Db :=
  match p.b64decode body.grantBlobB64, p.b64decode body.signatureB64 with
  | some grantBlob, some signature =>
    match db.liveGroup body.groupId with
    | none => .error ⟨404, "group not found"⟩
    | some _ =>
      if verifyChallenge sha256 p call (db.adminPubkeySet body.groupId) grantBlob
          (displayNameNonce sha256 body.displayName) signature = false then
        .error ⟨401, "signature verification failed"⟩
      else match db.members.get (body.groupId, body.memberPubkey) with
        | none => .error ⟨404, "member not in this group"⟩
        | some row =>
          let row := { row with displayName := body.stored }
          .ok { db with members := db.members.put (body.groupId, body.memberPubkey) row }
  | _, _ => .error ⟨400, "malformed base64"⟩

def AcceptedWith (db db' : Db) (body : UpdateDisplayNameBody) (grant : Grant) : Prop :=
  peerGroupUpdateDisplayName sha256 p call db body = .ok db' ∧
    ∃ grantBlob, p.b64decode body.grantBlobB64 = some grantBlob ∧
      verifyGrant p call.now (db.adminPubkeySet body.groupId) grantBlob = some grant

/-- An accepted request changes the row that its grant names, and no other. -/
def OnlyOwnRow (db : Db) (body : UpdateDisplayNameBody) : Prop :=
  ∀ db' grant, AcceptedWith sha256 p call db db' body grant → db' = { db with members := db'.members } ∧
      ∀ k, k ≠ (grant.groupId, grant.memberPubkey) → db'.members.get k = db.members.get k

end DisplayName

section DisplayNameLemmas

variable {sha256 : List UInt8 → List UInt8} {p : Primitives} {call : Call} {db db' : Db}
  {body : UpdateDisplayNameBody}

theorem update_of_ok (h : peerGroupUpdateDisplayName sha256 p call db body = .ok db') :
    ∃ row, db.members.get (body.groupId, body.memberPubkey) = some row ∧
      db' = { db with members := (db.members.put (body.groupId, body.memberPubkey)
        { row with displayName := body.stored }) } := by
  unfold peerGroupUpdateDisplayName at h
  split at h
  case h_2 => cases h
  case h_1 =>
  split at h
  case h_1 => cases h
  case h_2 =>
  split at h
  case isTrue => cases h
  case isFalse =>
  split at h
  case h_1 => cases h
  case h_2 row hrow =>
    cases h
    exact ⟨row, hrow, rfl⟩

/-- **Whose display name a request changes.** -/
theorem display_name_own_row_iff (sha256 : List UInt8 → List UInt8) (p : Primitives) (call : Call)
    (db : Db) (body : UpdateDisplayNameBody) : OnlyOwnRow sha256 p call db body ↔
      ∀ db' grant, AcceptedWith sha256 p call db db' body grant →
        (body.groupId = grant.groupId ∧ body.memberPubkey = grant.memberPubkey) ∨
          (db.members.get (body.groupId, body.memberPubkey)).map Member.displayName = some body.stored := by
  constructor
  · intro h db' grant haccepted
    obtain ⟨row, hrow, hdb'⟩ := update_of_ok haccepted.1
    by_cases hown : (body.groupId, body.memberPubkey) = (grant.groupId, grant.memberPubkey)
    · exact .inl (Prod.mk.inj hown)
    -- the row of somebody else stays, so it had the name before
    right
    have hsame := (h db' grant haccepted).2 (body.groupId, body.memberPubkey) hown
    rw [hdb', hrow, Table.get_put_self] at hsame
    rw [hrow, Option.map_some, ← Option.some.inj hsame]
  · intro h db' grant haccepted
    obtain ⟨row, hrow, hdb'⟩ := update_of_ok haccepted.1
    refine ⟨by rw [hdb'], fun k hk => ?_⟩
    rw [hdb', Table.get_put]
    by_cases hself : k = (body.groupId, body.memberPubkey)
    · rw [if_pos hself, hself, hrow]
      rcases h db' grant haccepted with ⟨hgroup, hmember⟩ | hname
      · exact absurd (hself.trans (by rw [hgroup, hmember])) hk
      rw [hrow, Option.map_some] at hname
      rw [← Option.some.inj hname]
    · rw [if_neg hself]

end DisplayNameLemmas

/-- The grant of `bob` in the example group. -/
def exampleBobGrant : Grant := ⟨"g", "bob", [], "alice", "1", "9", ""⟩

/-- **A member renames another.** `bob` signs with the own key and grant, and names `alice`. -/
theorem bob_renames_alice :
    let body : UpdateDisplayNameBody := ⟨"g", "alice", "mallory", "bob", "bob"⟩
    (∃ db', AcceptedWith id (examplePrimitives []) exampleCall exampleNode.db db' body
        exampleBobGrant ∧
      (db'.members.get ("g", "alice")).map Member.displayName = some "mallory") ∧
      ¬OnlyOwnRow id (examplePrimitives []) exampleCall exampleNode.db body := by
  intro body
  have hgrant : verifyGrant (examplePrimitives []) exampleCall.now
      (exampleNode.db.adminPubkeySet "g") (exampleBytes "bob") = some exampleBobGrant := by
    decide +kernel
  have hresult : (peerGroupUpdateDisplayName id (examplePrimitives []) exampleCall exampleNode.db
      body).toOption.map (fun db' => (db'.members.get ("g", "alice")).map Member.displayName) =
      some (some "mallory") := by
    decide +kernel
  rcases hok : peerGroupUpdateDisplayName id (examplePrimitives []) exampleCall exampleNode.db body
    with e | db'
  · rw [hok] at hresult
    cases hresult
  rw [hok] at hresult
  have hname : (db'.members.get ("g", "alice")).map Member.displayName = some "mallory" := Option.some.inj hresult
  have haccepted : AcceptedWith id (examplePrimitives []) exampleCall exampleNode.db db' body
      exampleBobGrant := ⟨hok, exampleBytes "bob", rfl, hgrant⟩
  refine ⟨⟨db', haccepted, hname⟩, fun h => ?_⟩
  have hsame := (h db' exampleBobGrant haccepted).2 ("g", "alice") (by decide)
  rw [hsame] at hname
  exact absurd hname (by decide)

structure JoinDecisionBody where
  requestId : String
  groupId : String
  groupName : String := ""
  founderPubkey : String
  decision : String
  grantBlobB64 : String := ""
  defaultRole : String := "member"
  issuedAt : String := ""
  expiresAt : String := ""
  reason : String := ""
  privacyMode : String := "open"
  founderDisplayName : String := ""
  founderAddress : String := ""
  founderNodeId : String := ""
  symkeyEnvelopeB64 : String := ""
deriving DecidableEq

structure Joiner where
  /-- `user_display_name` of the settings. -/
  displayName : String
  x25519Pub : String
  nodeUuid : String
  /-- `secrets.token_hex(16)`. -/
  grantId : String

def allNonparametric : List String :=
  ["group:read", "group:invite", permGroupApprove, permMemberKick, permMemberMute, permRoleAssign,
    "service:list", "service:host", permRelayHost, "relay:use", permRelayShareContent, "task:run"]

def defaultRoles : List (String × List String) :=
  [("founder", allNonparametric), ("admin", allNonparametric), ("member", ["group:read", "relay:use", "task:run"])]

/-- `v or default` for texts. -/
def orElse (text default : String) : String := if text = "" then default else text

section JoinDecision

variable (p : Primitives) (call : Call) (j : Joiner)

def addDefaultRoles (groupId : String) (roles : Table (String × String) Role) : Option (Table (String × String) Role) :=
  defaultRoles.foldlM (fun t role =>
    t.insertNew (groupId, role.1) ⟨encodeRolePermissions role.2, call.now, call.now⟩) roles

def materializeGroup (body : JoinDecisionBody) (db : Db) : Option Db :=
  match db.groups.get body.groupId with
  | some _ => some db
  | none => do
    let roles ← addDefaultRoles call body.groupId db.roles
    let members ← db.members.insertNew (body.groupId, body.founderPubkey) {
      joinedAt := call.now
      displayName := body.founderDisplayName
      peerAddress := body.founderAddress
      nodeId := body.founderNodeId }
    let memberRoles ← db.memberRoles.insertNew (body.groupId, body.founderPubkey, "founder")
      ⟨body.founderPubkey, call.now⟩
    let groups := db.groups.put body.groupId {
      founderPubkey := body.founderPubkey
      groupSymkeyEnc := if body.symkeyEnvelopeB64 = "" then [] else (p.b64decode body.symkeyEnvelopeB64).getD []
      name := body.groupName
      createdAt := call.now
      privacyMode := orElse body.privacyMode "open"
      founderAddress := body.founderAddress }
    return { db with groups, roles, members, memberRoles }

def materializeMember (body : JoinDecisionBody) (db : Db) : Option Db :=
  match db.members.get (body.groupId, p.me) with
  | some _ => some db
  | none => do
    let members ← db.members.insertNew (body.groupId, p.me) {
      joinedAt := call.now
      lastHeartbeatAt := call.now
      displayName := j.displayName
      memberX25519Pub := j.x25519Pub
      nodeId := j.nodeUuid }
    let messages := addSystemMessage call body.groupId ("sysjoin-" ++ p.me ++ "-" ++ call.now)
      (orElse j.displayName (PyStr.take 8 p.me) ++ " joined the chat") db.messages
    let memberRoles ← db.memberRoles.insertNew
      (body.groupId, p.me, orElse body.defaultRole "member") ⟨body.founderPubkey, call.now⟩
    return { db with members, messages, memberRoles }

def materializeGrant (body : JoinDecisionBody) (grantBlob : List UInt8) (db : Db) : Option Db := do
  let grants ← db.grants.insertNew j.grantId {
    groupId := body.groupId
    memberPubkey := p.me
    issuedByPubkey := body.founderPubkey
    issuedAt := orElse body.issuedAt call.now
    expiresAt := orElse body.expiresAt call.now
    nonce := ""
    signature := grantBlob
    rolesJson := "[\"" ++ orElse body.defaultRole "member" ++ "\"]" }
  return { db with grants }

def Db.ownGrants (db : Db) (groupId : String) : List (String × GroupGrant) :=
  db.grants.rows.filter fun r => r.2.groupId = groupId && r.2.memberPubkey = p.me

def peerGroupJoinDecision (db : Db) (body : JoinDecisionBody) : Except HttpError Db :=
  if body.decision ∉ ["approved", "rejected"] then
    .error ⟨400, "decision must be approved or rejected"⟩
  else if body.decision = "rejected" then .ok db
  else if body.grantBlobB64 = "" then
    .error ⟨400, "approved decisions must carry grant_blob_b64"⟩
  else match p.b64decode body.grantBlobB64 with
    | none => .error ⟨400, "grant_blob_b64 is not base64"⟩
    | some grantBlob =>
      match db.ownGrants p body.groupId with
      -- `scalar_one_or_none` raises
      | _ :: _ :: _ => .error ⟨500, "Internal Server Error"⟩
      | [_] => .ok db
      | [] =>
        match ((materializeGroup p call body db).bind (materializeMember p call j body)).bind
            (materializeGrant p call j body grantBlob) with
        | none => .error ⟨500, "Internal Server Error"⟩
        | some db => .ok db

structure GroupRows where
  group : Option Group
  members : String → Option Member
  roles : String → Option Role
  memberRoles : String × String → Option RoleAssignment
  grants : String → Option GroupGrant

def Db.groupRows (db : Db) (groupId : String) : GroupRows where
  group := db.groups.get groupId
  members := fun member => db.members.get (groupId, member)
  roles := fun role => db.roles.get (groupId, role)
  memberRoles := fun key => db.memberRoles.get (groupId, key)
  grants := fun grantId => (db.grants.get grantId).filter (fun grant => grant.groupId = groupId)

/-- A grant to this node, by the founder of the group it asked to join. -/
def GrantVerified (asked : String → Option String) (body : JoinDecisionBody) : Prop :=
  ∃ founder grantBlob grant, asked body.groupId = some founder ∧ p.b64decode body.grantBlobB64 = some grantBlob ∧
    verifyGrant p call.now [founder] grantBlob = some grant ∧
    grant.groupId = body.groupId ∧ grant.memberPubkey = p.me

/-- A decision changes rows only with a verified grant, on a node outside the group. -/
def DecisionVerified (asked : String → Option String) (db : Db) (body : JoinDecisionBody) : Prop :=
  ∀ db', peerGroupJoinDecision p call j db body = .ok db' → ∀ groupId, db'.groupRows groupId ≠ db.groupRows groupId →
      GrantVerified p call asked body ∧ db.members.get (groupId, p.me) = none

end JoinDecision

section JoinDecisionLemmas

variable {p : Primitives} {call : Call} {j : Joiner} {db db' : Db} {body : JoinDecisionBody}

theorem key_ne {α : Type} {g h : String} (hne : h ≠ g) (a b : α) : (h, a) ≠ (g, b) := fun heq => hne (Prod.mk.inj heq).1

theorem get_addDefaultRoles {groupId h : String} {t t' : Table (String × String) Role}
    (ht : addDefaultRoles call groupId t = some t') (hne : h ≠ groupId) (role : String) :
    t'.get (h, role) = t.get (h, role) := by
  unfold addDefaultRoles at ht
  generalize defaultRoles = roles at ht
  induction roles generalizing t with
  | nil =>
    cases ht
    rfl
  | cons r roles ih =>
    obtain ⟨t₁, hrole, hrest⟩ := Option.bind_eq_some_iff.mp ht
    rw [ih hrest, Table.get_insertNew_ne hrole (key_ne hne _ _)]

theorem materializeGroup_spec (h : materializeGroup p call body db = some db') :
    db'.grants = db.grants ∧ ∀ g, g ≠ body.groupId → db'.groupRows g = db.groupRows g := by
  unfold materializeGroup at h
  split at h
  · cases h
    exact ⟨rfl, fun _ _ => rfl⟩
  simp only [Option.bind_eq_bind, Option.bind_eq_some_iff, Option.pure_def, Option.some.injEq] at h
  obtain ⟨roles, hroles, members, hmembers, memberRoles, hmemberRoles, rfl⟩ := h
  refine ⟨rfl, fun g hne => ?_⟩
  unfold Db.groupRows
  congr 1
  · exact Table.get_put_ne _ _ hne
  · exact funext fun m => Table.get_insertNew_ne hmembers (key_ne hne _ _)
  · exact funext fun r => get_addDefaultRoles hroles hne r
  · exact funext fun k => Table.get_insertNew_ne hmemberRoles (key_ne hne _ _)

theorem materializeMember_spec (h : materializeMember p call j body db = some db') :
    db'.grants = db.grants ∧ ∀ g, g ≠ body.groupId → db'.groupRows g = db.groupRows g := by
  unfold materializeMember at h
  split at h
  · cases h
    exact ⟨rfl, fun _ _ => rfl⟩
  simp only [Option.bind_eq_bind, Option.bind_eq_some_iff, Option.pure_def, Option.some.injEq] at h
  obtain ⟨members, hmembers, memberRoles, hmemberRoles, rfl⟩ := h
  refine ⟨rfl, fun g hne => ?_⟩
  unfold Db.groupRows
  congr 1
  · exact funext fun m => Table.get_insertNew_ne hmembers (key_ne hne _ _)
  · exact funext fun k => Table.get_insertNew_ne hmemberRoles (key_ne hne _ _)

theorem materializeGrant_new {grantBlob : List UInt8} (h : materializeGrant p call j body grantBlob db = some db') :
    db.grants.get j.grantId = none ∧ ∃ grant, grant.groupId = body.groupId ∧
        db' = { db with grants := db.grants.put j.grantId grant } := by
  simp only [materializeGrant, Option.bind_eq_bind, Option.bind_eq_some_iff, Option.pure_def, Option.some.injEq] at h
  obtain ⟨grants, hgrants, rfl⟩ := h
  obtain ⟨hnew, rfl⟩ := Table.insertNew_eq_some.mp hgrants
  exact ⟨hnew, _, rfl, rfl⟩

theorem groupRows_materializeGrant {grantBlob : List UInt8}
    (h : materializeGrant p call j body grantBlob db = some db') {g : String}
    (hne : g ≠ body.groupId) : db'.groupRows g = db.groupRows g := by
  obtain ⟨hnew, grant, hgroup, rfl⟩ := materializeGrant_new h
  unfold Db.groupRows
  congr 1
  funext grantId
  by_cases hid : grantId = j.grantId
  · subst hid
    rw [Table.get_put_self, hnew]
    have hother : ¬grant.groupId = g := fun heq => hne (heq ▸ hgroup)
    simp [hother]
  · rw [Table.get_put_ne _ _ hid]

theorem groupRows_ne {db₁ : Db} {grantBlob : List UInt8} (hgrants : db₁.grants = db.grants)
    (h : materializeGrant p call j body grantBlob db₁ = some db') :
    db'.groupRows body.groupId ≠ db.groupRows body.groupId := by
  intro hsame
  obtain ⟨hnew, grant, hgroup, rfl⟩ := materializeGrant_new h
  have hrow := congrFun (congrArg GroupRows.grants hsame) j.grantId
  dsimp only [Db.groupRows] at hrow
  rw [Table.get_put_self, ← hgrants, hnew] at hrow
  simp [hgroup] at hrow

/-- When a decision changes the rows of its group. -/
theorem groupRows_changes_iff (h : peerGroupJoinDecision p call j db body = .ok db') (g : String) :
    db'.groupRows g ≠ db.groupRows g ↔
      g = body.groupId ∧ body.decision = "approved" ∧ db.ownGrants p body.groupId = [] := by
  unfold peerGroupJoinDecision at h
  split at h
  case isTrue => cases h
  case isFalse hdecision =>
  split at h
  case isTrue hrejected =>
    cases h
    refine iff_of_false (fun hne => hne rfl) ?_
    rintro ⟨-, happroved, -⟩
    rw [happroved] at hrejected
    exact absurd hrejected (by decide)
  case isFalse hnot =>
  have happroved : body.decision = "approved" := by
    rcases List.mem_pair.mp (not_not.mp hdecision) with happroved | hrejected
    · exact happroved
    · exact absurd hrejected hnot
  split at h
  case isTrue => cases h
  case isFalse =>
  split at h
  case h_1 => cases h
  case h_2 grantBlob _ =>
  split at h
  case h_1 => cases h
  case h_2 r hown =>
    cases h
    refine iff_of_false (fun hne => hne rfl) ?_
    rintro ⟨-, -, hnone⟩
    rw [hnone] at hown
    cases hown
  case h_3 hown =>
  split at h
  case h_1 => cases h
  case h_2 db₁ hrows =>
    cases h
    obtain ⟨db₂, hrows, hgrant⟩ := Option.bind_eq_some_iff.mp hrows
    obtain ⟨db₃, hgroup, hmember⟩ := Option.bind_eq_some_iff.mp hrows
    obtain ⟨hgrants₃, hrows₃⟩ := materializeGroup_spec hgroup
    obtain ⟨hgrants₂, hrows₂⟩ := materializeMember_spec hmember
    constructor
    · intro hne
      refine ⟨?_, happroved, hown⟩
      by_contra hg
      apply hne
      rw [groupRows_materializeGrant hgrant hg, hrows₂ g hg, hrows₃ g hg]
    · rintro ⟨rfl, -, -⟩
      exact groupRows_ne (hgrants₂.trans hgrants₃) hgrant

/-- **When a join decision is backed by its grant.** -/
theorem decision_verified_iff (p : Primitives) (call : Call) (j : Joiner)
    (asked : String → Option String) (db : Db) (body : JoinDecisionBody) : DecisionVerified p call j asked db body ↔
      ∀ db', peerGroupJoinDecision p call j db body = .ok db' → body.decision = "approved" →
        db.ownGrants p body.groupId = [] →
        GrantVerified p call asked body ∧ db.members.get (body.groupId, p.me) = none := by
  constructor
  · intro h db' hok happroved hown
    exact h db' hok _ ((groupRows_changes_iff hok _).mpr ⟨rfl, happroved, hown⟩)
  intro h db' hok groupId hchanges
  obtain ⟨rfl, happroved, hown⟩ := (groupRows_changes_iff hok groupId).mp hchanges
  exact h db' hok happroved hown

end JoinDecisionLemmas

def exampleEmptyDb : Db := { exampleNode.db with groups := ∅, members := ∅, roles := ∅, memberRoles := ∅ }

/-- **A node is made admin of a group it never asked for.** The grant in the approval is signed by nobody. -/
theorem unasked_decision_applies :
    let body : JoinDecisionBody := {
      requestId := "r"
      groupId := "h"
      founderPubkey := "mallory"
      decision := "approved"
      grantBlobB64 := "no grant"
      defaultRole := "admin" }
    let j : Joiner := ⟨"", "", "", "1"⟩
    (peerGroupJoinDecision (examplePrimitives []) exampleCall j exampleEmptyDb body).toOption.map
        (fun db' => (db'.hasPermission "h" "carol" permMemberKick, db'.adminPubkeySet "h")) =
      some (true, ["carol", "mallory"]) ∧
      ¬DecisionVerified (examplePrimitives []) exampleCall j (fun _ => none) exampleEmptyDb body := by
  intro body j
  have hresult : (peerGroupJoinDecision (examplePrimitives []) exampleCall j exampleEmptyDb
      body).toOption.map (fun db' => (db'.hasPermission "h" "carol" permMemberKick,
        db'.adminPubkeySet "h")) = some (true, ["carol", "mallory"]) := by
    decide +kernel
  refine ⟨hresult, fun h => ?_⟩
  rcases hok : peerGroupJoinDecision (examplePrimitives []) exampleCall j exampleEmptyDb body
    with e | db'
  · rw [hok] at hresult
    cases hresult
  have hchanges := (groupRows_changes_iff hok "h").mpr ⟨rfl, rfl, rfl⟩
  obtain ⟨⟨founder, _, _, hasked, _⟩, -⟩ := h db' hok "h" hchanges
  cases hasked

end NexusGrid.Groups

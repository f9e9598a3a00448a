import NexusGrid.Lib.Json
import NexusGrid.Lib.PyStr
import NexusGrid.Lib.Run
import NexusGrid.Lib.Table

/-! # Pair requests at the issuer

A node that has issued a pair invite gets the probes made with it from the relay (`_handle_incoming_pair_probe` in
`networking/relay_client.py`).
-/

namespace NexusGrid.Pairing

open Lib

inductive InviteStatus
  | active
  | redeemed
  | rejected
  | revoked
  | expired
deriving DecidableEq

def InviteStatus.text : InviteStatus → String
  | .active => "active"
  | .redeemed => "redeemed"
  | .rejected => "rejected"
  | .revoked => "revoked"
  | .expired => "expired"

/-- A row of `pair_invites`. -/
structure PairInvite where
  issuerPubkey : String
  issuedAt : String
  expiresAt : String
  maxUses : Nat
  usedCount : Nat
  status : InviteStatus
  lastUsedAt : String
  lastRedeemerPubkey : String
  signedBlob : String
  isPermanent : Bool
deriving DecidableEq

inductive Decision
  | pending
  | accepted
  | rejected
deriving DecidableEq

def Decision.text : Decision → String
  | .pending => "pending"
  | .accepted => "accepted"
  | .rejected => "rejected"

/-- A row of `pair_attempts`, for an invite and a redeemer. -/
structure PairAttempt where
  firstSeenAt : String
  decidedAt : String
  decision : Decision
deriving DecidableEq

/-- What pairing writes of a row of `peers`. -/
structure PairedPeer where
  status : String
  role : String
  displayName : String
  relayUrls : List String
deriving DecidableEq

structure IncomingPairRequest where
  transientId : String
  inviteId : String
  bobPubkey : String
  bobRelayUrls : List String
  bobDisplayName : String
deriving DecidableEq

/-- A `pair_reply` to the relay; `reason` is empty for an accept. -/
structure PairReply where
  transientId : String
  decision : Decision
  reason : String
deriving DecidableEq

/-- Where `_handle_incoming_pair_probe` waits. -/
inductive ProbeStage
  /-- The invite's row has passed its check; for the attempt. -/
  | rowRead (row : PairInvite)
  /-- There is no attempt yet; for the commit. -/
  | attemptRead (row : PairInvite)
  /-- The attempt is recorded. -/
  | recorded (row : PairInvite)
deriving DecidableEq

inductive Verdict
  | accept
  | reject
deriving DecidableEq

/-- Where `accept_pair_request` and `reject_pair_request` wait. -/
inductive DecideStage
  | popped
  | rowRead (row : Option PairInvite)
  | attemptRead (row : Option PairInvite) (attempt : Option PairAttempt)
  /-- Only `accept_pair_request` reads the peer. -/
  | peerRead (row : Option PairInvite) (attempt : Option PairAttempt) (peer : Option PairedPeer)
deriving DecidableEq

inductive PairTask
  | probe (req : IncomingPairRequest) (stage : ProbeStage)
  | decide (verdict : Verdict) (req : IncomingPairRequest) (stage : DecideStage)
  | revoke (inviteId : String) (row : PairInvite)
deriving DecidableEq

inductive PairCommit
  | accepted (req : IncomingPairRequest)
  | rejected (req : IncomingPairRequest)
  | revoked (inviteId : String)
deriving DecidableEq

/-- The issuer's tables, requests, handlers, replies and decisions. -/
structure PairDesk where
  invites : Table String PairInvite := ∅
  attempts : Table (String × String) PairAttempt := ∅
  peers : Table String PairedPeer := ∅
  pending : Table String IncomingPairRequest := ∅
  tasks : Table Nat PairTask := ∅
  replies : List PairReply := []
  log : List PairCommit := []

structure PairEnv where
  /-- `get_local_group_pubkey() or ""`. -/
  me : String
  /-- Python's `repr` of arrays and objects. -/
  repr : Json → String
  /-- The `invite_id` that `verify_pair_invite` returns at a time. -/
  verifyInvite : String → String → String → Option String

/-- The request of a probe; `none` without a transient id. -/
def readRequest (env : PairEnv) (data : List (String × Json)) : Option IncomingPairRequest :=
  let transientId := PyStr.strip (Json.textDefault env.repr data "transient_id")
  if transientId = "" then none
  else (Json.objAt data "inv_payload").map fun payload => {
    transientId
    inviteId := PyStr.strip (Json.textDefault env.repr payload "invite_id")
    bobPubkey := PyStr.strip (Json.textDefault env.repr data "bob_pubkey")
    bobRelayUrls := match Json.get data "bob_relay_urls" with
      | .arr urls => Json.strings urls
      | _ => []
    bobDisplayName := PyStr.take 80 (PyStr.strip (Json.textDefault env.repr data "bob_display_name")) }

def refusal (env : PairEnv) (req : IncomingPairRequest) : Option String :=
  if req.inviteId = "" ∨ req.bobPubkey = "" then some "malformed probe"
  else if env.me ≠ "" ∧ req.bobPubkey = env.me then some "cannot pair with self"
  else none

/-- `row.max_uses or 1`. -/
def PairInvite.limit (row : PairInvite) : Nat := if row.maxUses = 0 then 1 else row.maxUses

def checkRow : Option PairInvite → Except String PairInvite
  | none => .error "unknown invite"
  | some row =>
    if row.status = .rejected ∨ row.status = .revoked ∨ row.status = .expired then
      .error ("invite " ++ row.status.text)
    else if ¬ row.isPermanent ∧ row.status = .redeemed ∧ row.limit ≤ row.usedCount then
      .error "invite already redeemed"
    else .ok row

/-- A column at the commit of a session that has loaded `old` and assigned `new`. -/
def column {α : Type} [DecidableEq α] (old new current : α) : α := if new = old then current else new

/-- The row after a session has changed `old` to `new`. -/
def PairInvite.commit (old new current : PairInvite) : PairInvite where
  issuerPubkey := column old.issuerPubkey new.issuerPubkey current.issuerPubkey
  issuedAt := column old.issuedAt new.issuedAt current.issuedAt
  expiresAt := column old.expiresAt new.expiresAt current.expiresAt
  maxUses := column old.maxUses new.maxUses current.maxUses
  usedCount := column old.usedCount new.usedCount current.usedCount
  status := column old.status new.status current.status
  lastUsedAt := column old.lastUsedAt new.lastUsedAt current.lastUsedAt
  lastRedeemerPubkey := column old.lastRedeemerPubkey new.lastRedeemerPubkey current.lastRedeemerPubkey
  signedBlob := column old.signedBlob new.signedBlob current.signedBlob
  isPermanent := column old.isPermanent new.isPermanent current.isPermanent

def PairInvite.decided (row : PairInvite) (verdict : Verdict) (bob now : String) : PairInvite where
  __ := row
  status := if row.isPermanent then row.status
    else match verdict with
      | .accept => .redeemed
      | .reject => .rejected
  usedCount := row.usedCount + 1
  lastUsedAt := now
  lastRedeemerPubkey := bob

def PairInvite.revoked (row : PairInvite) (now : String) : PairInvite where
  __ := row
  status := .revoked
  lastUsedAt := now

/-- The rows after the commit of a session that has loaded `old`. -/
def commitRow (invites : Table String PairInvite) (id : String) (old : Option PairInvite)
    (change : PairInvite → PairInvite) : Table String PairInvite :=
  match old, invites.get id with
  | some old, some current => invites.put id (old.commit (change old) current)
  | _, _ => invites

def commitAttempt (attempts : Table (String × String) PairAttempt) (req : IncomingPairRequest)
    (old : Option PairAttempt) (decision : Decision) (now : String) : Table (String × String) PairAttempt :=
  match old with
  | none => attempts
  | some old => attempts.put (req.inviteId, req.bobPubkey) { old with decision := decision, decidedAt := now }

/-- The peer that an accept inserts or updates, if that works. -/
def commitPeer (peers : Table String PairedPeer) (req : IncomingPairRequest) (old : Option PairedPeer) :
    Option (Table String PairedPeer) :=
  let urls := req.bobRelayUrls.dedup.insertionSort (· ≤ ·)
  match old with
  | none => peers.insertNew req.bobPubkey ⟨"trusted", "master", PyStr.take 80 req.bobDisplayName, urls⟩
  | some old => (peers.get req.bobPubkey).map fun current =>
    peers.put req.bobPubkey { current with
      status := column old.status "trusted" current.status
      relayUrls := column old.relayUrls urls current.relayUrls }

inductive PairEvent
  | probe (k : Nat) (data : List (String × Json))
  | decide (k : Nat) (verdict : Verdict) (transientId : String)
  /-- The user revokes an invite; its row is read. -/
  | revoke (k : Nat) (inviteId : String)
  /-- A handler goes on, at a time. -/
  | resume (k : Nat) (now : String)
  /-- `prune_stale`. -/
  | prune (stale : IncomingPairRequest → Bool)
  /-- A handler ends with an exception. -/
  | fail (k : Nat)

namespace PairDesk

def setTask (s : PairDesk) (k : Nat) (t : PairTask) : PairDesk := { s with tasks := s.tasks.put k t }

def endTask (s : PairDesk) (k : Nat) : PairDesk := { s with tasks := s.tasks.delete k }

def autoReject (s : PairDesk) (req : IncomingPairRequest) (reason : String) : PairDesk :=
  { s with replies := s.replies ++ [⟨req.transientId, .rejected, reason⟩] }

/-- `pair_handshake.add`. -/
def park (s : PairDesk) (req : IncomingPairRequest) : PairDesk :=
  { s with pending := s.pending.put req.transientId req }

/-- The blob is verified once more and the request is parked. -/
def finishProbe (env : PairEnv) (s : PairDesk) (req : IncomingPairRequest) (row : PairInvite) (now : String) :
    PairDesk :=
  if env.verifyInvite (PyStr.strip row.signedBlob) row.issuerPubkey now = some req.inviteId then s.park req
  else s.autoReject req "local invite signature mismatch"

/-- The commit of `accept_pair_request`. -/
def commitAccept (s : PairDesk) (req : IncomingPairRequest) (row : Option PairInvite)
    (attempt : Option PairAttempt) (peer : Option PairedPeer) (now : String) : PairDesk :=
  match commitPeer s.peers req peer with
  | none => s
  | some peers =>
    { s with
      invites := commitRow s.invites req.inviteId row fun r => r.decided .accept req.bobPubkey now
      attempts := commitAttempt s.attempts req attempt .accepted now
      peers := peers
      replies := s.replies ++ [⟨req.transientId, .accepted, ""⟩]
      log := s.log ++ [.accepted req] }

/-- The commit of `reject_pair_request`. -/
def commitReject (s : PairDesk) (req : IncomingPairRequest) (row : Option PairInvite)
    (attempt : Option PairAttempt) (now : String) : PairDesk :=
  { s with
    invites := commitRow s.invites req.inviteId row fun r => r.decided .reject req.bobPubkey now
    attempts := commitAttempt s.attempts req attempt .rejected now
    replies := s.replies ++ [⟨req.transientId, .rejected, "rejected by user"⟩]
    log := s.log ++ [.rejected req] }

/-- The commit of `revoke_pair_invite`. -/
def commitRevoke (s : PairDesk) (inviteId : String) (row : PairInvite) (now : String) : PairDesk :=
  { s with
    invites := commitRow s.invites inviteId (some row) fun r => r.revoked now
    log := s.log ++ [.revoked inviteId] }

def resume (env : PairEnv) (s : PairDesk) (k : Nat) (now : String) : PairTask → PairDesk
  | .probe req (.rowRead row) =>
    match s.attempts.get (req.inviteId, req.bobPubkey) with
    | none => s.setTask k (.probe req (.attemptRead row))
    | some ⟨_, _, .pending⟩ => s.endTask k
    | some ⟨_, _, decision⟩ => (s.endTask k).autoReject req ("already " ++ decision.text ++ " previously")
  | .probe req (.attemptRead row) =>
    match s.attempts.insertNew (req.inviteId, req.bobPubkey) ⟨now, "", .pending⟩ with
    | none => s.endTask k
    | some attempts => { s.setTask k (.probe req (.recorded row)) with attempts := attempts }
  | .probe req (.recorded row) => (s.endTask k).finishProbe env req row now
  | .decide v req .popped => s.setTask k (.decide v req (.rowRead (s.invites.get req.inviteId)))
  | .decide v req (.rowRead row) =>
    s.setTask k (.decide v req (.attemptRead row (s.attempts.get (req.inviteId, req.bobPubkey))))
  | .decide .accept req (.attemptRead row attempt) =>
    s.setTask k (.decide .accept req (.peerRead row attempt (s.peers.get req.bobPubkey)))
  | .decide .reject req (.attemptRead row attempt) => (s.endTask k).commitReject req row attempt now
  | .decide _ req (.peerRead row attempt peer) => (s.endTask k).commitAccept req row attempt peer now
  | .revoke inviteId row => (s.endTask k).commitRevoke inviteId row now

def step (env : PairEnv) (s : PairDesk) : PairEvent → PairDesk
  | .probe k data =>
    match s.tasks.get k, readRequest env data with
    | none, some req =>
      match refusal env req, checkRow (s.invites.get req.inviteId) with
      | some reason, _ => s.autoReject req reason
      | none, .error reason => s.autoReject req reason
      | none, .ok row => s.setTask k (.probe req (.rowRead row))
    | _, _ => s
  | .decide k verdict transientId =>
    match s.tasks.get k, s.pending.get transientId with
    | none, some req => { s.setTask k (.decide verdict req .popped) with pending := s.pending.delete transientId }
    | _, _ => s
  | .revoke k inviteId =>
    match s.tasks.get k, s.invites.get inviteId with
    | none, some row =>
      if row.status = .redeemed ∨ row.status = .rejected then s else s.setTask k (.revoke inviteId row)
    | _, _ => s
  | .resume k now =>
    match s.tasks.get k with
    | some t => s.resume env k now t
    | none => s
  | .prune stale => { s with pending := s.pending.deleteWhere fun _ r => stale r }
  | .fail k => s.endTask k

end PairDesk

end NexusGrid.Pairing

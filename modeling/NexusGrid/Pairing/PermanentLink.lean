import NexusGrid.Pairing.Requests
import NexusGrid.Relay.PairProbe

/-! # The permanent pair link

`get_permanent_pair_link` gives out one link that `PERMANENT_MAX_USES` people may use.
-/

namespace NexusGrid.Pairing

open Lib Security

/-! ## The endpoint -/

structure LinkCall where
  issuerPubkey : String
  issuerPrivkey : String
  /-- `my_relay_pool_urls()`. -/
  relayUrls : List String
  /-- `get_or_create_node_uuid()`. -/
  nodeUuid : String
  /-- `secrets.token_hex(32)`. -/
  token : String
  token_ne : token ≠ ""
  strip_token : PyStr.strip token = token
  issuedAt : String
  expiresAt : String

structure PermanentLink where
  inviteId : String
  row : PairInvite
  k : String
  n : String
  r : List String
  inv : String

inductive LinkError
  | http (status : Nat) (detail : String)
  | raised
deriving DecidableEq

def permanentMaxUses : Nat := 1000000

def PairInvite.invite (row : PairInvite) (id : String) : Security.PairInvite :=
  ⟨id, row.issuerPubkey, row.issuedAt, row.expiresAt, row.maxUses⟩

def permanentRows (s : PairDesk) (issuerPubkey : String) : List (String × PairInvite) :=
  s.invites.rows.filter fun r => r.2.isPermanent && r.2.issuerPubkey = issuerPubkey

def LinkCall.newRow (c : LinkCall) (blob : String) : PairInvite where
  issuerPubkey := c.issuerPubkey
  issuedAt := c.issuedAt
  expiresAt := c.expiresAt
  maxUses := permanentMaxUses
  usedCount := 0
  status := .active
  lastUsedAt := ""
  lastRedeemerPubkey := ""
  signedBlob := blob
  isPermanent := true

/-- `encode_pair_link`, up to the text of the link. -/
def encodePairLink (c : LinkCall) (id : String) (row : PairInvite) : Except LinkError PermanentLink :=
  if c.issuerPubkey.length ≠ 64 ∨ PyStr.strip c.nodeUuid = "" then .error .raised
  else .ok ⟨id, row, c.issuerPubkey, c.nodeUuid, c.relayUrls, row.signedBlob⟩

def getPermanentPairLink (p : InvitePrimitives) (c : LinkCall) (s : PairDesk) :
    PairDesk × Except LinkError PermanentLink :=
  if c.issuerPubkey = "" ∨ c.issuerPrivkey = "" then
    (s, .error (.http 409 "local group keypair not initialised"))
  else if c.relayUrls = [] then
    (s, .error (.http 409 ("no relay is currently subscribed — start or bind a relay " ++
      "first (Network → Local Relay), then try again")))
  else
    match permanentRows s c.issuerPubkey with
    | [] =>
      let inv := ⟨c.token, c.issuerPubkey, c.issuedAt, c.expiresAt, permanentMaxUses⟩
      match pairInviteBlob p inv c.issuerPrivkey with
      | none => (s, .error .raised)
      | some blob =>
        match s.invites.insertNew c.token (c.newRow blob) with
        | none => (s, .error .raised)
        | some invites => ({ s with invites := invites }, encodePairLink c c.token (c.newRow blob))
    | [(id, row)] => (s, encodePairLink c id row)
    -- `scalar_one_or_none` raises
    | _ => (s, .error .raised)

structure Issued (p : InvitePrimitives) (privkey id : String) (row : PairInvite) : Prop where
  id_ne : id ≠ ""
  strip_id : PyStr.strip id = id
  permanent : row.isPermanent = true
  active : row.status = .active
  blob : pairInviteBlob p (row.invite id) privkey = some row.signedBlob

section Endpoint

variable {p : InvitePrimitives} {c : LinkCall} {s t : PairDesk} {link : PermanentLink}

theorem encodePairLink_eq_ok {id : String} {row : PairInvite} (h : encodePairLink c id row = .ok link) :
    link = ⟨id, row, c.issuerPubkey, c.nodeUuid, c.relayUrls, row.signedBlob⟩ := by
  rw [encodePairLink] at h
  split_ifs at h
  exact (Except.ok.inj h).symm

theorem link_of_getPermanentPairLink (h : getPermanentPairLink p c s = (t, .ok link))
    (hold : ∀ id row, s.invites.get id = some row → row.isPermanent = true →
      row.issuerPubkey = c.issuerPubkey → Issued p c.issuerPrivkey id row) :
    t.invites.get link.inviteId = some link.row ∧ Issued p c.issuerPrivkey link.inviteId link.row ∧
      link.row.issuerPubkey = c.issuerPubkey ∧ link.inv = link.row.signedBlob := by
  rw [getPermanentPairLink] at h
  split_ifs at h
  · simp at h
  · simp at h
  split at h
  · -- a new row
    dsimp only at h
    split at h
    · simp at h
    next blob hblob =>
      split at h
      · simp at h
      next invites hinsert =>
        obtain ⟨rfl, hlink⟩ := Prod.mk.inj h
        obtain rfl := encodePairLink_eq_ok hlink
        have hget : invites.get c.token = some (c.newRow blob) := by
          rw [Table.insertNew] at hinsert
          split at hinsert
          · rw [← Option.some.inj hinsert, Table.get_put_self]
          · cases hinsert
        exact ⟨hget, ⟨c.token_ne, c.strip_token, rfl, rfl, hblob⟩, rfl, rfl⟩
  · -- the row that is there
    next id row hrows =>
      obtain ⟨rfl, hlink⟩ := Prod.mk.inj h
      obtain rfl := encodePairLink_eq_ok hlink
      have hmem : (id, row) ∈ permanentRows s c.issuerPubkey := by
        rw [hrows]
        exact List.mem_singleton_self _
      rw [permanentRows, List.mem_filter, Table.mem_rows, Bool.and_eq_true, decide_eq_true_iff] at hmem
      obtain ⟨hget, hperm, hissuer⟩ := hmem
      exact ⟨hget, hold id row hget hperm hissuer, hissuer, rfl⟩
  · simp at h

theorem Issued.checked {privkey id : String} {row : PairInvite} (h : Issued p privkey id row) :
    row.issuerPubkey.length = 64 ∧ 1 ≤ (row.maxUses : Int) := by
  have hblob := h.blob
  rw [pairInviteBlob, Option.map_eq_some_iff] at hblob
  obtain ⟨message, hsign, -⟩ := hblob
  rw [signPairInvite, Option.ite_none_right_eq_some] at hsign
  obtain ⟨hchecks, -⟩ := hsign
  simp only [inviteChecks, Bool.and_eq_true, decide_eq_true_eq] at hchecks
  exact ⟨hchecks.1.1.1, hchecks.1.2⟩

end Endpoint

/-! ## Redeemers, relay and issuer -/

structure LinkPrimitives (ι τ : Type) extends InvitePrimitives, toRelay : Relay.Primitives ι τ

/-- What `redeem_pair_link` tells about the redeemer. -/
structure Redeemer where
  pubkey : String
  pubkey_ne : pubkey ≠ ""
  strip_pubkey : PyStr.strip pubkey = pubkey
  nodeId : String
  relayUrls : List String
  displayName : String
  message : String
  requestId : String

/-- The probe of `redeem_pair_link`. -/
def probeFrame (inv : String) (bob : Redeemer) : List (String × Json) :=
  [("type", .str "pair_invite_probe"), ("inv", .str inv), ("bob_pubkey", .str bob.pubkey),
    ("bob_node_id", .str bob.nodeId), ("bob_relay_urls", .arr (bob.relayUrls.map .str)),
    ("bob_display_name", .str (PyStr.take 80 (PyStr.strip bob.displayName))),
    ("bob_message", .str (PyStr.take 500 (PyStr.strip bob.message))), ("request_id", .str bob.requestId)]

/-- A redeemer uses the link, at times of the relay and the issuer. -/
structure Visit (τ : Type) where
  bob : Redeemer
  transientId : String
  transientId_ne : transientId ≠ ""
  strip_transientId : PyStr.strip transientId = transientId
  now : τ
  handler : Nat
  clock : String

inductive LinkEvent (τ : Type)
  | visit (v : Visit τ)
  | other (e : Relay.Probe τ)

def LinkEvent.redeemer {τ : Type} : LinkEvent τ → Option String
  | visit v => some v.bob.pubkey
  | other _ => none

structure LinkWorld (ι τ : Type) (cfg : Relay.Settings) where
  redemptions : Relay.Redemptions ι τ cfg.pairRedemptionCacheMax
  desk : PairDesk

section System

variable {ι τ : Type} [DecidableEq ι] [LinearOrder τ] (p : LinkPrimitives ι τ) {cfg : Relay.Settings}
  (link : PermanentLink)

/-- The issuer of the link: its handlers verify with `verify_pair_invite`. -/
def issuerEnv : PairEnv where
  me := link.row.issuerPubkey
  repr := p.repr
  verifyInvite blob issuer now :=
    match verifyPairInvite p.toInvitePrimitives blob issuer now with
    | .ok (some inv) => some inv.inviteId
    | _ => none

/-- The steps of `_handle_incoming_pair_probe`. -/
def handleIncomingPairProbe (k : Nat) (frame : List (String × Json)) (clock : String) : List PairEvent :=
  [.probe k frame, .resume k clock, .resume k clock, .resume k clock]

namespace LinkWorld

def atRelay (w : LinkWorld ι τ cfg) (v : Visit τ) : Relay.Redemptions ι τ cfg.pairRedemptionCacheMax × Relay.ProbeEnd :=
  Relay.pairInviteProbe p.toRelay cfg w.redemptions link.n none
    ⟨some (.obj (probeFrame link.inv v.bob)), v.now⟩ ⟨true, v.transientId, true⟩

def step (w : LinkWorld ι τ cfg) : LinkEvent τ → LinkWorld ι τ cfg
  | .visit v =>
    match w.atRelay p link v with
    | (t, .forwarded frame) =>
      ⟨t, run (PairDesk.step (issuerEnv p link)) w.desk (handleIncomingPairProbe v.handler frame v.clock)⟩
    | (t, _) => ⟨t, w.desk⟩
  | .other e => ⟨(Relay.admitProbe p.toRelay w.redemptions e).1, w.desk⟩

def Reaches (w : LinkWorld ι τ cfg) : LinkEvent τ → Prop
  | .visit v => (∃ frame, (w.atRelay p link v).2 = .forwarded frame) ∧
      ∃ req, (w.step p link (.visit v)).desk.pending.get v.transientId = some req ∧
        req.inviteId = link.inviteId ∧ req.bobPubkey = v.bob.pubkey
  | .other _ => True

def Unclaimed (key : ι) (w : LinkWorld ι τ cfg) : LinkEvent τ → Prop
  | .visit _ => key ∉ w.redemptions.entries.map Claim.key
  | .other _ => True

end LinkWorld

/-! ## A visit at the relay -/

/-- A link that works: its invite verifies, its ids register, its expiry is a date. -/
structure Usable (cfg : Relay.Settings) (privkey : String) (key : ι) (expires : τ) : Prop where
  reads : Reads p.toInvitePrimitives (link.row.invite link.inviteId) privkey link.inv
  node : Relay.validateNodeId cfg link.n = true
  dictKey : p.dictKey (.str link.inviteId) = some key
  timestamp : p.timestamp (Relay.zuluOffset link.row.expiresAt) = some expires

variable {p} {link} {privkey : String} {key : ι} {expires : τ}

omit [DecidableEq ι] in
theorem checkProbe_visit (hissued : Issued p.toInvitePrimitives privkey link.inviteId link.row)
    (h : Usable p link cfg privkey key expires) {v : Visit τ} (hnow : v.now < expires) :
    Relay.checkProbe p.toRelay ⟨some (.obj (probeFrame link.inv v.bob)), v.now⟩ =
      .ok ⟨probeFrame link.inv v.bob, (link.row.invite link.inviteId).payload,
        ⟨key, .str link.row.issuerPubkey, v.now⟩⟩ := by
  have hread : Relay.readEnvelope p.toRelay link.inv = some ⟨(link.row.invite link.inviteId).payload,
        .str ((link.row.invite link.inviteId).signature p.toInvitePrimitives privkey),
        link.row.issuerPubkey, link.row.expiresAt, link.inviteId⟩ := by
    obtain ⟨envelope, hloads, hpayload, hsignature⟩ := h.reads.envelope
    have hloads' : p.toRelay.loads link.inv = some envelope := hloads
    rw [Relay.readEnvelope, hloads']
    simp only [Option.bind_eq_bind, Option.bind_some, hpayload, hsignature, payload_items, Json.text,
      Option.pure_def, PairInvite.invite]
  have hverify : Relay.verifyPairInvite p.toRelay link.inv v.now = .ok (some (link.row.invite link.inviteId).payload) :=
    (Relay.verifyPairInvite_eq_some p.toRelay).mpr ⟨_, expires, hread, rfl, hissued.checked.1,
      congrArg some h.reads.length_signature, hissued.id_ne, h.reads.signatureOk, h.timestamp, hnow⟩
  refine (Relay.checkProbe_eq_ok p.toRelay).mpr ⟨rfl, rfl, h.reads.blob_ne, hverify, ?_, ?_, rfl⟩
  · rw [(payload_items _).1]
    exact h.dictKey
  · exact (payload_items _).2.1

def visitFrame (p : LinkPrimitives ι τ) (link : PermanentLink) (v : Visit τ) (key : ι) : List (String × Json) :=
  Relay.forwardedFrame p.toRelay v.transientId ⟨probeFrame link.inv v.bob,
    (link.row.invite link.inviteId).payload, ⟨key, .str link.row.issuerPubkey, v.now⟩⟩

section

variable (hissued : Issued p.toInvitePrimitives privkey link.inviteId link.row)
  (h : Usable p link cfg privkey key expires)
include hissued h

theorem atRelay_eq (w : LinkWorld ι τ cfg) {v : Visit τ} (hnow : v.now < expires) :
    (w.atRelay p link v).2 = if key ∈ w.redemptions.entries.map Claim.key
      then .rejected "invite already redeemed" 4003 else .forwarded (visitFrame p link v key) := by
  have horigin : Relay.originAllowed cfg none = true := by simp [Relay.originAllowed]
  rw [LinkWorld.atRelay, Relay.pairInviteProbe, if_neg (by simp [h.node]), if_neg (by simp [horigin]),
    Relay.admitProbe, checkProbe_visit hissued h hnow]
  cases hclaim : w.redemptions.claim ⟨key, .str link.row.issuerPubkey, v.now⟩ with
  | none => simp [hclaim, ClaimTable.claim_eq_none_iff.mp hclaim]
  | some t =>
    have hkey : key ∉ w.redemptions.entries.map Claim.key := by
      intro hmem
      rw [ClaimTable.claim_eq_none_iff.mpr hmem] at hclaim
      cases hclaim
    simp [hclaim, hkey, visitFrame]

theorem redemptions_visit (w : LinkWorld ι τ cfg) {v : Visit τ} (hnow : v.now < expires) :
    (w.step p link (.visit v)).redemptions =
      (w.redemptions.claim ⟨key, .str link.row.issuerPubkey, v.now⟩).getD w.redemptions := by
  have hstep : (w.step p link (.visit v)).redemptions = (w.atRelay p link v).1 := by
    rw [LinkWorld.step]
    split
    next t frame heq => rw [heq]
    next t e hne heq => rw [heq]
  have horigin : Relay.originAllowed cfg none = true := by simp [Relay.originAllowed]
  rw [hstep, LinkWorld.atRelay, Relay.pairInviteProbe, if_neg (by simp [h.node]),
    if_neg (by simp [horigin]), Relay.admitProbe, checkProbe_visit hissued h hnow]
  cases hclaim : w.redemptions.claim ⟨key, .str link.row.issuerPubkey, v.now⟩ with
  | none => simp [hclaim]
  | some t => simp [hclaim]

end

/-! ## A visit at the issuer -/

def Visit.request (link : PermanentLink) (v : Visit τ) : IncomingPairRequest where
  transientId := v.transientId
  inviteId := link.inviteId
  bobPubkey := v.bob.pubkey
  bobRelayUrls := v.bob.relayUrls
  bobDisplayName := PyStr.take 80 (PyStr.strip (PyStr.take 80 (PyStr.strip v.bob.displayName)))

omit [DecidableEq ι] [LinearOrder τ] in
theorem readRequest_visit (hissued : Issued p.toInvitePrimitives privkey link.inviteId link.row)
    (v : Visit τ) (key : ι) : readRequest (issuerEnv p link) (visitFrame p link v key) = some (v.request link) := by
  set frame := visitFrame p link v key with hframe
  have htransient : Json.textDefault p.repr frame "transient_id" = v.transientId := rfl
  have hbob : Json.textDefault p.repr frame "bob_pubkey" = v.bob.pubkey := rfl
  have hname : Json.textDefault p.repr frame "bob_display_name" = PyStr.take 80 (PyStr.strip v.bob.displayName) := rfl
  have hpayload : ∃ payload, Json.objAt frame "inv_payload" = some payload ∧
      Json.textDefault p.repr payload "invite_id" = link.inviteId := by
    rw [hframe, visitFrame, payload_eq]
    exact ⟨_, rfl, rfl⟩
  have hurls : Json.get frame "bob_relay_urls" = .arr (v.bob.relayUrls.map .str) := by
    have hget : Json.get frame "bob_relay_urls" =
        if (Json.arr (v.bob.relayUrls.map .str)).truthy then .arr (v.bob.relayUrls.map .str) else .arr [] := rfl
    rw [hget]
    cases v.bob.relayUrls with
    | nil => rfl
    | cons url urls => rfl
  have hstrings : Json.strings (v.bob.relayUrls.map .str) = v.bob.relayUrls := by
    simp [Json.strings, List.filterMap_map]
  obtain ⟨payload, hobj, hid⟩ := hpayload
  simp only [readRequest, issuerEnv, htransient, v.strip_transientId, if_neg v.transientId_ne, hobj,
    Option.map_some, hid, hissued.strip_id, hbob, v.bob.strip_pubkey, hurls, hstrings, hname, Visit.request]

theorem run_handleIncomingPairProbe {env : PairEnv} {s : PairDesk} {k : Nat} {frame : List (String × Json)}
    {clock : String} {req : IncomingPairRequest} {row : PairInvite} (hk : s.tasks.get k = none)
    (hreq : readRequest env frame = some req) (hrefusal : refusal env req = none)
    (hrow : s.invites.get req.inviteId = some row) (hcheck : checkRow (some row) = .ok row)
    (hattempt : s.attempts.get (req.inviteId, req.bobPubkey) = none)
    (hverify : env.verifyInvite (PyStr.strip row.signedBlob) row.issuerPubkey clock = some req.inviteId) :
    run (PairDesk.step env) s (handleIncomingPairProbe k frame clock) = { s with
        attempts := s.attempts.put (req.inviteId, req.bobPubkey) ⟨clock, "", .pending⟩
        pending := s.pending.put req.transientId req
        tasks := (((s.tasks.put k (.probe req (.rowRead row))).put k (.probe req (.attemptRead row))).put k
          (.probe req (.recorded row))).delete k } := by
  simp only [handleIncomingPairProbe, run_cons, run_nil]
  rw [show s.step env (.probe k frame) = s.setTask k (.probe req (.rowRead row)) by
    simp [PairDesk.step, hk, hreq, hrefusal, hrow, hcheck]]
  simp [PairDesk.step, PairDesk.setTask, PairDesk.resume, hattempt, Table.insertNew, PairDesk.endTask,
    PairDesk.finishProbe, hverify, PairDesk.park]

/-- A visit in time, by someone new who is not the issuer. -/
structure Visit.Welcome (link : PermanentLink) (expires : τ) (s : PairDesk) (v : Visit τ) : Prop where
  now : v.now < expires
  clock : v.clock < link.row.expiresAt
  stranger : v.bob.pubkey ≠ link.row.issuerPubkey
  first : s.attempts.get (link.inviteId, v.bob.pubkey) = none
  idle : s.tasks.get v.handler = none

omit [DecidableEq ι] in
theorem run_visit (hissued : Issued p.toInvitePrimitives privkey link.inviteId link.row)
    (h : Usable p link cfg privkey key expires) (hinv : link.inv = link.row.signedBlob) {s t : PairDesk}
    (hrow : s.invites.get link.inviteId = some link.row) {v : Visit τ} (hv : v.Welcome link expires s)
    (ht : run (PairDesk.step (issuerEnv p link)) s
      (handleIncomingPairProbe v.handler (visitFrame p link v key) v.clock) = t) :
    t.invites = s.invites ∧ t.pending = s.pending.put v.transientId (v.request link) ∧
      t.attempts = s.attempts.put (link.inviteId, v.bob.pubkey) ⟨v.clock, "", .pending⟩ ∧
      ∀ k, s.tasks.get k = none → t.tasks.get k = none := by
  have hrefusal : refusal (issuerEnv p link) (v.request link) = none := by
    simp [refusal, Visit.request, issuerEnv, hissued.id_ne, v.bob.pubkey_ne, hv.stranger]
  have hcheck : checkRow (some link.row) = .ok link.row := by simp [checkRow, hissued.active]
  have hverify : (issuerEnv p link).verifyInvite (PyStr.strip link.row.signedBlob) link.row.issuerPubkey
      v.clock = some link.inviteId := by
    have hok := h.reads.verifyPairInvite hissued.checked.1 hissued.checked.2 hv.clock
    have hok' : verifyPairInvite p.toInvitePrimitives link.inv link.row.issuerPubkey v.clock = _ := hok
    rw [← hinv, h.reads.strip_blob, issuerEnv]
    dsimp only
    rw [hok']
    rfl
  have hrun := run_handleIncomingPairProbe hv.idle (readRequest_visit hissued v key) hrefusal hrow hcheck
    hv.first hverify
  rw [ht] at hrun
  subst hrun
  refine ⟨rfl, rfl, rfl, fun k hk => ?_⟩
  by_cases heq : k = v.handler
  · simp [heq, Table.get_delete]
  · simp [Table.get_delete, Table.get_put, heq, hk]

/-! ## Sequences of visits -/

/-- A visit reaches the issuer exactly if the relay has no claim of the invite. -/
theorem step_visit (hissued : Issued p.toInvitePrimitives privkey link.inviteId link.row)
    (h : Usable p link cfg privkey key expires) (hinv : link.inv = link.row.signedBlob)
    {w w' : LinkWorld ι τ cfg} (hrow : w.desk.invites.get link.inviteId = some link.row) {v : Visit τ}
    (hv : v.Welcome link expires w.desk) (hw' : w.step p link (.visit v) = w') :
    (w.Reaches p link (.visit v) ↔ w.Unclaimed key (.visit v)) ∧ w'.desk.invites.get link.inviteId = some link.row ∧
      ∀ v' : Visit τ, v'.bob.pubkey ≠ v.bob.pubkey → v'.Welcome link expires w.desk →
        v'.Welcome link expires w'.desk := by
  have hend := atRelay_eq hissued h w hv.now
  by_cases hkey : key ∈ w.redemptions.entries.map Claim.key
  · -- refused at the relay
    rw [if_pos hkey] at hend
    have hdesk : w'.desk = w.desk := by
      rw [← hw', LinkWorld.step]
      split
      next t frame heq =>
        rw [heq] at hend
        cases hend
      · rfl
    refine ⟨⟨?_, fun hun => absurd hkey hun⟩, by rwa [hdesk], fun v' _ hv' => by rwa [hdesk]⟩
    rintro ⟨⟨frame, hframe⟩, -⟩
    rw [hend] at hframe
    cases hframe
  · -- forwarded
    rw [if_neg hkey] at hend
    have hdesk : w'.desk = run (PairDesk.step (issuerEnv p link)) w.desk
        (handleIncomingPairProbe v.handler (visitFrame p link v key) v.clock) := by
      rw [← hw', LinkWorld.step]
      split
      next t frame heq =>
        rw [heq] at hend
        rw [Relay.ProbeEnd.forwarded.inj hend]
      next t e hne heq =>
        rw [heq] at hend
        exact absurd hend (hne _)
    obtain ⟨hinvites, hpending, hattempts, htasks⟩ := run_visit hissued h hinv hrow hv hdesk.symm
    refine ⟨⟨fun _ => hkey, fun _ => ⟨⟨_, hend⟩, v.request link, ?_, rfl, rfl⟩⟩, by rw [hinvites, hrow], ?_⟩
    · rw [hw', hpending, Table.get_put_self]
    intro v' hne hv'
    refine ⟨hv'.now, hv'.clock, hv'.stranger, ?_, htasks _ hv'.idle⟩
    rw [hattempts, Table.get_put_ne _ _ (by simpa using hne)]
    exact hv'.first

theorem along_reaches_iff (hissued : Issued p.toInvitePrimitives privkey link.inviteId link.row)
    (h : Usable p link cfg privkey key expires) (hinv : link.inv = link.row.signedBlob)
    {w : LinkWorld ι τ cfg} (hrow : w.desk.invites.get link.inviteId = some link.row)
    {es : List (LinkEvent τ)} (hbobs : (es.filterMap LinkEvent.redeemer).Nodup)
    (hes : ∀ v, .visit v ∈ es → v.Welcome link expires w.desk) :
    Along (LinkWorld.step p link) (LinkWorld.Reaches p link) w es ↔
      Along (LinkWorld.step p link) (LinkWorld.Unclaimed key) w es := by
  induction es generalizing w with
  | nil => exact Iff.rfl
  | cons e es ih =>
    cases e with
    | other e =>
      have hbobs' : (es.filterMap LinkEvent.redeemer).Nodup := hbobs
      exact and_congr Iff.rfl (ih hrow hbobs' fun v hv => hes v (.tail _ hv))
    | visit v =>
      obtain ⟨hiff, hrow', hwelcome⟩ := step_visit hissued h hinv hrow (hes v (.head _)) rfl
      have hcons : (v.bob.pubkey :: es.filterMap LinkEvent.redeemer).Nodup := hbobs
      rw [List.nodup_cons] at hcons
      refine and_congr hiff (ih hrow' hcons.2 fun v' hv' => hwelcome v' ?_ ?_)
      · rintro heq
        exact hcons.1 (List.mem_filterMap.mpr ⟨.visit v', hv', congrArg some heq⟩)
      · exact hes v' (.tail _ hv')

/-- **The permanent link.** -/
theorem visits_reach_iff {c : LinkCall} {s t : PairDesk}
    (hlink : getPermanentPairLink p.toInvitePrimitives c s = (t, .ok link))
    (hold : ∀ id row, s.invites.get id = some row → row.isPermanent = true →
      row.issuerPubkey = c.issuerPubkey → Issued p.toInvitePrimitives c.issuerPrivkey id row)
    (h : Usable p link cfg c.issuerPrivkey key expires)
    (redemptions : Relay.Redemptions ι τ cfg.pairRedemptionCacheMax)
    (es : List (LinkEvent τ)) (hbobs : (es.filterMap LinkEvent.redeemer).Nodup)
    (hes : ∀ v, .visit v ∈ es → v.Welcome link expires t) :
    Along (LinkWorld.step p link) (LinkWorld.Reaches p link) (⟨redemptions, t⟩ : LinkWorld ι τ cfg) es ↔
      Along (LinkWorld.step p link) (LinkWorld.Unclaimed key) (⟨redemptions, t⟩ : LinkWorld ι τ cfg) es := by
  obtain ⟨hrow, hissued, -, hinv⟩ := link_of_getPermanentPairLink hlink hold
  exact along_reaches_iff hissued h hinv hrow hbobs hes

end System

/-! ## Two redeemers -/

def exampleCall : LinkCall where
  issuerPubkey := Relay.exampleHex 64 'a'
  issuerPrivkey := Relay.exampleHex 64 'p'
  relayUrls := ["wss://relay"]
  nodeUuid := "node-a"
  token := "i"
  token_ne := by decide
  strip_token := by decide
  issuedAt := "2026-01-01T00:00:00"
  expiresAt := "2125-12-08T00:00:00"

def exampleLink : PermanentLink :=
  ⟨"i", exampleCall.newRow "blob", exampleCall.issuerPubkey, "node-a", ["wss://relay"], "blob"⟩

/-- One issuer; the blob of its invite is `blob`. -/
def exampleLinkPrimitives : LinkPrimitives String Nat where
  derive _ := some exampleCall.issuerPubkey
  sha256 _ := []
  encrypt _ _ _ _ := []
  loads text := if text = "blob" then
      some (.obj [("payload", (exampleLink.row.invite "i").payload), ("signature", .str (Relay.exampleHex 128 's'))])
    else none
  repr _ := ""
  fromHex _ := some []
  publicKey _ := some []
  verify _ _ _ := true
  toInt _ := none
  sign _ _ := Relay.exampleHex 128 's'
  b64url _ := "blob"
  timestamp _ := some 4920000000
  dictKey
    | .str s => some s
    | _ => none

def exampleDeskWithLink : PairDesk := { invites := Table.put ∅ "i" exampleLink.row }

theorem exampleLink_returned : getPermanentPairLink exampleLinkPrimitives.toInvitePrimitives exampleCall {} =
      (exampleDeskWithLink, .ok exampleLink) := by
  have hkey : exampleCall.issuerPubkey.length = 64 := Relay.length_exampleHex 64 'a'
  have hpriv : exampleCall.issuerPrivkey.length = 64 := Relay.length_exampleHex 64 'p'
  have hne : exampleCall.issuerPubkey ≠ "" ∧ exampleCall.issuerPrivkey ≠ "" :=
    ⟨fun h => by simp [h] at hkey, fun h => by simp [h] at hpriv⟩
  have hblob : pairInviteBlob exampleLinkPrimitives.toInvitePrimitives
      ⟨"i", exampleCall.issuerPubkey, exampleCall.issuedAt, exampleCall.expiresAt, permanentMaxUses⟩
      exampleCall.issuerPrivkey = some "blob" := by
    have hchecks : inviteChecks exampleLinkPrimitives.toPrimitives exampleCall.issuerPubkey
        exampleCall.issuerPrivkey permanentMaxUses = true := by
      simp [inviteChecks, hkey, hpriv, permanentMaxUses, exampleLinkPrimitives]
    rw [pairInviteBlob, signPairInvite, if_pos hchecks]
    rfl
  have hnode : PyStr.strip exampleCall.nodeUuid ≠ "" := by decide
  have hrows : permanentRows {} exampleCall.issuerPubkey = [] := rfl
  have htoken : exampleCall.token = "i" := rfl
  rw [getPermanentPairLink, if_neg (by simp [hne]), if_neg (by simp [exampleCall]), hrows]
  have hinsert : Table.insertNew (∅ : Table String PairInvite) "i" (exampleCall.newRow "blob") =
      some (Table.put ∅ "i" exampleLink.row) := rfl
  have hencode : encodePairLink exampleCall "i" (exampleCall.newRow "blob") = .ok exampleLink := by
    rw [encodePairLink, if_neg (by simp [hkey, hnode])]
    rfl
  simp only [htoken, hblob, hinsert, hencode, exampleDeskWithLink]

theorem exampleLink_usable : Usable exampleLinkPrimitives exampleLink {} exampleCall.issuerPrivkey "i" 4920000000 where
  reads := {
    blob_ne := by decide
    strip_blob := by decide
    loads_blob := rfl
    length_signature := Relay.length_exampleHex 128 's'
    verifies := ⟨[], [], rfl, rfl, rfl⟩ }
  node := by decide
  dictKey := rfl
  timestamp := rfl

theorem exampleLink_issued :
    Issued exampleLinkPrimitives.toInvitePrimitives exampleCall.issuerPrivkey "i" exampleLink.row :=
  (link_of_getPermanentPairLink exampleLink_returned fun _ _ hrow => nomatch hrow).2.1

def exampleRedeemer (pubkey : String) (hne : pubkey ≠ "") (hstrip : PyStr.strip pubkey = pubkey) :
    Redeemer := ⟨pubkey, hne, hstrip, "node-b", ["wss://relay"], "", "", "r"⟩

def exampleBob : Visit Nat :=
  ⟨exampleRedeemer "bob" (by decide) (by decide), "pair-probe-1", by decide, by decide, 1800000000, 0,
    "2027-01-15T08:00:00"⟩

def exampleCarol : Visit Nat :=
  ⟨exampleRedeemer "carol" (by decide) (by decide), "pair-probe-2", by decide, by decide, 1800000060, 0,
    "2027-01-15T08:01:00"⟩

theorem exampleVisits_welcome {v : Visit Nat} (h : v = exampleBob ∨ v = exampleCarol) :
    v.Welcome exampleLink 4920000000 exampleDeskWithLink := by
  have hissuer : exampleLink.row.issuerPubkey.length = 64 := Relay.length_exampleHex 64 'a'
  have hlt : v.bob.pubkey.length < 64 ∧ v.now < 4920000000 ∧ v.clock < exampleLink.row.expiresAt := by
    rcases h with rfl | rfl <;> decide
  exact ⟨hlt.2.1, hlt.2.2, fun heq => by rw [heq, hissuer] at hlt; omega, rfl, rfl⟩

def exampleStart : LinkWorld String Nat {} := ⟨.empty, exampleDeskWithLink⟩

theorem exampleVisits_all_welcome : ∀ v, .visit v ∈ [LinkEvent.visit exampleBob, .visit exampleCarol] →
    v.Welcome exampleLink 4920000000 exampleDeskWithLink := by
  intro v hv
  simp only [List.mem_cons, LinkEvent.visit.injEq, List.not_mem_nil, or_false] at hv
  exact exampleVisits_welcome hv

/-- The first visit has claimed the invite. -/
theorem not_unclaimed_carol : ¬ (exampleStart.step exampleLinkPrimitives exampleLink (.visit exampleBob)).Unclaimed
    "i" (.visit exampleCarol) := by
  have hclaimed := redemptions_visit exampleLink_issued exampleLink_usable exampleStart
    (exampleVisits_welcome (.inl rfl)).now
  rw [LinkWorld.Unclaimed, hclaimed]
  simp [exampleStart, ClaimTable.claim, ClaimTable.empty]

/-- One redeemer alone is parked, and of two not both. -/
theorem visits_reach_iff_two :
    Along (LinkWorld.step exampleLinkPrimitives exampleLink) (LinkWorld.Reaches exampleLinkPrimitives exampleLink)
      exampleStart [.visit exampleBob] ∧
    ¬ Along (LinkWorld.step exampleLinkPrimitives exampleLink) (LinkWorld.Reaches exampleLinkPrimitives exampleLink)
      exampleStart [.visit exampleBob, .visit exampleCarol] := by
  constructor
  · refine (visits_reach_iff exampleLink_returned (fun _ _ hrow => nomatch hrow) exampleLink_usable .empty
      [.visit exampleBob] (by simp [LinkEvent.redeemer])
      fun v hv => exampleVisits_all_welcome v (List.mem_cons.mpr (.inl (List.mem_singleton.mp hv)))).mpr ?_
    exact ⟨by simp [LinkWorld.Unclaimed, ClaimTable.empty], trivial⟩
  · intro h
    obtain ⟨-, hcarol, -⟩ := (visits_reach_iff exampleLink_returned (fun _ _ hrow => nomatch hrow) exampleLink_usable
      .empty [.visit exampleBob, .visit exampleCarol] (by decide) exampleVisits_all_welcome).mp h
    exact not_unclaimed_carol hcarol

/-- The second of two people is refused by the relay. -/
theorem second_visit_refused : getPermanentPairLink exampleLinkPrimitives.toInvitePrimitives exampleCall {} =
        (exampleDeskWithLink, .ok exampleLink) ∧
      ¬ ∀ es : List (LinkEvent Nat), (es.filterMap LinkEvent.redeemer).Nodup →
        (∀ v, .visit v ∈ es → v.Welcome exampleLink 4920000000 exampleDeskWithLink) →
        Along (LinkWorld.step exampleLinkPrimitives exampleLink) (LinkWorld.Reaches exampleLinkPrimitives exampleLink)
          (⟨.empty, exampleDeskWithLink⟩ : LinkWorld String Nat {}) es := by
  refine ⟨exampleLink_returned, fun h => ?_⟩
  have hbobs : ([LinkEvent.visit exampleBob, .visit exampleCarol].filterMap LinkEvent.redeemer).Nodup := by decide
  have hreach := h _ hbobs exampleVisits_all_welcome
  rw [along_reaches_iff exampleLink_issued exampleLink_usable rfl rfl hbobs exampleVisits_all_welcome] at hreach
  exact not_unclaimed_carol hreach.2.1

end NexusGrid.Pairing

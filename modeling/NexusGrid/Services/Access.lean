import NexusGrid.Lib.Run
import NexusGrid.Services.GrantUpdate

/-! # Requesting access to a service

The other way in which a consumer's row of a grant is written: `request_access` asks the provider's node and stores
the grant that comes back.
-/

namespace NexusGrid.Services

open Lib

/-! ## The consumer -/

/-- The columns of `service_grants` that are not in `ServiceGrant`. -/
structure GrantAddress where
  providerUuid : String := ""
  consumerUuid : String := ""
  access : String := ""
  createdAt : String := ""
deriving DecidableEq

/-- The rows of `service_grants` on one node, in two tables with the same key. -/
structure Holdings where
  grants : Table String ServiceGrant
  addresses : Table String GrantAddress

namespace Holdings

def row (h : Holdings) (grantId : String) : Option ServiceGrant × Option GrantAddress :=
  (h.grants.get grantId, h.addresses.get grantId)

def put (h : Holdings) (grantId : String) (grant : ServiceGrant) (address : GrantAddress) : Holdings :=
  ⟨h.grants.put grantId grant, h.addresses.put grantId address⟩

/-- `created_at` of a row, unless it is empty. -/
def createdAt (h : Holdings) (grantId now : String) : String :=
  match h.addresses.get grantId with
  | some address => if address.createdAt = "" then now else address.createdAt
  | none => now

def grantDict (h : Holdings) (grantId : String) (grant : ServiceGrant) : List (String × Json) :=
  let address := (h.addresses.get grantId).getD {}
  [("grant_id", .str grantId), ("service_name", .str grant.serviceName),
    ("provider_pubkey", .str grant.providerPubkey), ("consumer_pubkey", .str grant.consumerPubkey),
    ("provider_uuid", .str address.providerUuid), ("consumer_uuid", .str address.consumerUuid),
    ("status", .str grant.status), ("access", .str address.access),
    ("created_at", .str address.createdAt), ("decided_at", .str grant.decidedAt)]

end Holdings

/-- What `peer_http_post` returns. -/
structure Response where
  status : Int
  body : Json

/-- A call of `request_access`: its arguments, and what the node adds. -/
structure AccessRequest where
  peerUuid : String
  serviceName : String
  providerPubkey : String
  /-- `get_local_group_pubkey()`. -/
  consumerPubkey : String
  /-- `get_or_create_node_uuid()`. -/
  consumerUuid : String
  /-- `iso_now()`. -/
  ts : String
  /-- `uuid.uuid4().hex`, for an answer without an id. -/
  freshId : String
deriving DecidableEq

def AccessRequest.IsFor (q : AccessRequest) (g : ServiceGrant) : Prop :=
  g.serviceName = q.serviceName ∧ g.providerPubkey = q.providerPubkey ∧ g.consumerPubkey = q.consumerPubkey

instance AccessRequest.IsFor.instDecidable (q : AccessRequest) (g : ServiceGrant) : Decidable (q.IsFor g) :=
  inferInstanceAs (Decidable (_ ∧ _ ∧ _))

/-- What `request_access` makes of the answer. -/
inductive Answer
  | grant (fields : List (String × Json))
  | refused (error : Json)
  | raised

section Consumer

variable (c : Primitives) (q : AccessRequest) (h : Holdings)

def readAnswer (res : Response) : Answer :=
  if res.status ≠ 200 then .refused (.str ("unreachable (" ++ toString res.status ++ ")"))
  else match Json.objAt [("body", res.body)] "body" with
    | none => .raised
    | some body =>
      if (Json.get body "ok").truthy = false then
        .refused (if (Json.get body "error").truthy then Json.get body "error" else .str "refused")
      else match Json.objAt body "grant" with
        | none => .raised
        | some fields => .grant fields

def AccessRequest.grantOf (fields : List (String × Json)) : ServiceGrant where
  serviceName := q.serviceName
  providerPubkey := q.providerPubkey
  consumerPubkey := q.consumerPubkey
  status := Json.textOr c.repr fields "status" "pending"
  decidedAt := Json.textAt c.repr fields "decided_at"

def AccessRequest.addressOf (fields : List (String × Json)) (createdAt : String) : GrantAddress where
  providerUuid := q.peerUuid
  consumerUuid := q.consumerUuid
  access := Json.textAt c.repr fields "access"
  createdAt := createdAt

/-- The id under which `request_access` looks for a row. -/
def answerId (fields : List (String × Json)) : String := Json.textAt c.repr fields "grant_id"

/-- Store the grant of an answer, and its id. -/
def storeGrant (fields : List (String × Json)) : Option (String × Holdings) :=
  match h.grants.get (answerId c fields) with
  | some _ =>
    let grantId := answerId c fields
    let address := q.addressOf c fields (h.createdAt grantId q.ts)
    some (grantId, h.put grantId (q.grantOf c fields) address)
  | none =>
    let grantId := Json.textOr c.repr fields "grant_id" q.freshId
    match h.grants.get grantId with
    | some _ => none
    | none => some (grantId, h.put grantId (q.grantOf c fields) (q.addressOf c fields q.ts))

/-- `request_access`, from the answer on: the rows, and what it returns. -/
def requestAccess (res : Response) : Holdings × Answer :=
  match readAnswer res with
  | .grant fields =>
    match storeGrant c q h fields with
    | none => (h, .raised)
    | some (grantId, h') => (h', .grant (h'.grantDict grantId (q.grantOf c fields)))
  | answer => (h, answer)

/-- Only the row of the request is created or modified. -/
def OnlyRequestedRow (res : Response) : Prop := ∀ grantId, (requestAccess c q h res).1.row grantId ≠ h.row grantId →
    (∀ g ∈ h.grants.get grantId, q.IsFor g) ∧ ∀ g ∈ (requestAccess c q h res).1.grants.get grantId, q.IsFor g

end Consumer

section ConsumerLemmas

variable {c : Primitives} {q : AccessRequest} {h h' : Holdings} {res : Response} {grantId : String}
  {fields : List (String × Json)}

theorem Holdings.row_put_ne {id : String} (hne : id ≠ grantId) (g : ServiceGrant)
    (address : GrantAddress) : (h.put grantId g address).row id = h.row id := by
  unfold Holdings.row Holdings.put
  rw [Table.get_put_ne _ _ hne, Table.get_put_ne _ _ hne]

/-- An old row is overwritten only under the id of the answer. -/
theorem storeGrant_spec (hstore : storeGrant c q h fields = some (grantId, h')) :
    (∃ address, h' = h.put grantId (q.grantOf c fields) address) ∧
      ∀ g ∈ h.grants.get grantId, grantId = answerId c fields := by
  unfold storeGrant at hstore
  split at hstore
  case h_1 =>
    cases hstore
    exact ⟨⟨_, rfl⟩, fun _ _ => rfl⟩
  case h_2 =>
    dsimp only at hstore
    split at hstore
    case h_1 => cases hstore
    case h_2 hfree =>
      cases hstore
      refine ⟨⟨_, rfl⟩, fun g hg => ?_⟩
      rw [hfree] at hg
      cases hg

theorem storeGrant_of_some {g : ServiceGrant} (hg : h.grants.get (answerId c fields) = some g) :
    ∃ address, storeGrant c q h fields =
      some (answerId c fields, h.put (answerId c fields) (q.grantOf c fields) address) := by
  unfold storeGrant
  rw [hg]
  exact ⟨_, rfl⟩

theorem requestAccess_of_grant (hread : readAnswer res = .grant fields)
    (hstore : storeGrant c q h fields = some (grantId, h')) : (requestAccess c q h res).1 = h' := by
  unfold requestAccess
  rw [hread]
  dsimp only
  rw [hstore]

theorem requestAccess_cases (c : Primitives) (q : AccessRequest) (h : Holdings) (res : Response) :
    (requestAccess c q h res).1 = h ∨ ∃ fields grantId h', readAnswer res = .grant fields ∧
      storeGrant c q h fields = some (grantId, h') ∧ (requestAccess c q h res).1 = h' := by
  cases hread : readAnswer res with
  | grant fields =>
    cases hstore : storeGrant c q h fields with
    | none =>
      left
      unfold requestAccess
      rw [hread]
      dsimp only
      rw [hstore]
    | some result =>
      obtain ⟨grantId, h'⟩ := result
      exact .inr ⟨fields, grantId, h', rfl, hstore, requestAccess_of_grant hread hstore⟩
  | refused error =>
    left
    unfold requestAccess
    rw [hread]
  | raised =>
    left
    unfold requestAccess
    rw [hread]

theorem AccessRequest.isFor_grantOf : q.IsFor (q.grantOf c fields) := ⟨rfl, rfl, rfl⟩

/-- **Which row an answer changes.** -/
theorem access_changes_own_row_iff (c : Primitives) (q : AccessRequest) (h : Holdings) (res : Response) :
    OnlyRequestedRow c q h res ↔ ∀ fields, readAnswer res = .grant fields →
        ∀ g ∈ h.grants.get (answerId c fields), q.IsFor g := by
  constructor
  · intro honly fields hread g hg
    by_contra hother
    obtain ⟨address, hstore⟩ := storeGrant_of_some hg
    have hend := requestAccess_of_grant hread hstore
    refine hother ((honly (answerId c fields) fun hsame => ?_).1 g hg)
    -- the row is now that of the request, so it has changed
    rw [hend] at hsame
    have hrow : some (q.grantOf c fields) = some g :=
      calc some (q.grantOf c fields)
          = ((h.put (answerId c fields) (q.grantOf c fields) address).row (answerId c fields)).1 :=
            (Table.get_put_self _ _ _).symm
        _ = (h.row (answerId c fields)).1 := congrArg Prod.fst hsame
        _ = some g := hg
    exact hother (Option.some.inj hrow ▸ AccessRequest.isFor_grantOf)
  · intro hcond id hchanged
    rcases requestAccess_cases c q h res with hsame | ⟨fields, grantId, h', hread, hstore, hend⟩
    · rw [hsame] at hchanged
      exact absurd rfl hchanged
    rw [hend] at hchanged ⊢
    obtain ⟨⟨address, rfl⟩, hold⟩ := storeGrant_spec hstore
    by_cases hid : id = grantId
    · subst hid
      refine ⟨fun g hg => ?_, fun g hg => ?_⟩
      · rw [hold g hg] at hg
        exact hcond fields hread g hg
      cases (Table.get_put_self _ _ _).symm.trans hg
      exact AccessRequest.isFor_grantOf
    · exact absurd (Holdings.row_put_ne hid _ _) hchanged

end ConsumerLemmas

/-- The request of `bob` to `mallory` for the service `cache`. -/
def exampleRequest : AccessRequest where
  peerUuid := "m"
  serviceName := "cache"
  providerPubkey := "mallory"
  consumerPubkey := "bob"
  consumerUuid := "b"
  ts := "2026-01-02"
  freshId := "new"

/-- **The answer of one provider takes the grant of another.** -/
theorem answer_takes_other_grant :
    let h : Holdings := ⟨exampleGrants, Table.put ∅ "g1" ⟨"a", "b", "free", "2026-01-01"⟩⟩
    let res : Response := ⟨200, .obj [("ok", .bool true),
      ("grant", .obj [("grant_id", .str "g1"), ("status", .str "denied")])]⟩
    h.grants.get "g1" = some ⟨"db", "alice", "bob", "approved", "2026-01-01"⟩ ∧
      (requestAccess examplePrimitives exampleRequest h res).1.grants.get "g1" =
        some ⟨"cache", "mallory", "bob", "denied", ""⟩ ∧
      ¬OnlyRequestedRow examplePrimitives exampleRequest h res := by
  intro h res
  obtain ⟨hold, hnew⟩ : h.grants.get "g1" = some ⟨"db", "alice", "bob", "approved", "2026-01-01"⟩ ∧
      (requestAccess examplePrimitives exampleRequest h res).1.grants.get "g1" =
        some ⟨"cache", "mallory", "bob", "denied", ""⟩ := by
    decide +kernel
  refine ⟨hold, hnew, fun honly => ?_⟩
  have hchanged : (requestAccess examplePrimitives exampleRequest h res).1.row "g1" ≠ h.row "g1" := by
    intro hsame
    have hgrant := congrArg Prod.fst hsame
    change (requestAccess examplePrimitives exampleRequest h res).1.grants.get "g1" = h.grants.get "g1" at hgrant
    exact absurd hgrant (by decide)
  exact absurd ((honly "g1" hchanged).1 _ hold) (by decide)

/-! ## The provider -/

structure Host where
  /-- `get_local_group_pubkey()`. -/
  pubkey : String
  nodeUuid : String
  /-- `_is_known_peer`, of the uuid and the public key of a consumer. -/
  isKnownPeer : String → String → Bool
  /-- The access mode of a hosted service: `free`, `permission` or `paid`. -/
  access : String → Option String

/-- What `handle_service_request` reads of a body. -/
structure ServiceRequest where
  service : String
  consumer : String
  consumerUuid : String
  ts : String
  sig : String
deriving DecidableEq

def stmtRequest : String := "service_request"

def reqPayload (provider service consumer consumerUuid ts : String) : List (String × String) :=
  [("provider", provider), ("service", service), ("consumer", consumer), ("consumer_uuid", consumerUuid), ("ts", ts)]

def refusal (error : String) : Json := .obj [("ok", .bool false), ("error", .str error)]

def granted (fields : List (String × Json)) : Json := .obj [("ok", .bool true), ("grant", .obj fields)]

section Provider

variable (c : Primitives) (host : Host) (now : String) (h : Holdings)

def Holdings.existing (service consumer : String) : Option (String × ServiceGrant) :=
  h.grants.rows.find? fun r => r.2.serviceName = service && r.2.consumerPubkey = consumer &&
    r.2.providerPubkey = host.pubkey

def firstDecision (access : String) : String × String :=
  if access = "paid" then ("denied", now)
  else if access = "free" then ("approved", now)
  else ("pending", "")

def openGrant (grantId access : String) (r : ServiceRequest) : ServiceGrant × Holdings :=
  let grant : ServiceGrant := {
    serviceName := r.service
    providerPubkey := host.pubkey
    consumerPubkey := r.consumer
    status := (firstDecision now access).1
    decidedAt := (firstDecision now access).2 }
  (grant, h.put grantId grant {
    providerUuid := host.nodeUuid
    consumerUuid := r.consumerUuid
    access := access
    createdAt := h.createdAt grantId now })

def handleServiceRequest (freshId : String) (r : ServiceRequest) : Holdings × Json :=
  if r.consumer = "" ∨ verifyStatement c stmtRequest
      (reqPayload host.pubkey r.service r.consumer r.consumerUuid r.ts) r.sig r.consumer = false then
    (h, refusal "bad_signature")
  else if host.isKnownPeer r.consumerUuid r.consumer = false then (h, refusal "not_connected")
  else match host.access r.service with
    | none => (h, refusal "no_such_service")
    | some access =>
      match h.existing host r.service r.consumer with
      | some (grantId, grant) =>
        if grant.status = "approved" ∨ grant.status = "pending" then
          (h, granted (h.grantDict grantId grant))
        else
          let (grant, h) := openGrant host now h grantId access r
          (h, granted (h.grantDict grantId grant))
      | none =>
        let (grant, h) := openGrant host now h freshId access r
        (h, granted (h.grantDict freshId grant))

def Holdings.decided (grantId : String) (grant : ServiceGrant) (status : String) : Holdings × List (String × Json) :=
  let grant := { grant with status := status, decidedAt := now }
  let h := { h with grants := h.grants.put grantId grant }
  (h, h.grantDict grantId grant)

def decideRequest (grantId : String) (approve : Bool) : Except String (Holdings × List (String × Json)) :=
  match h.grants.get grantId with
  | none => .error "not_found"
  | some grant =>
    if grant.providerPubkey ≠ host.pubkey then .error "not_found"
    else if grant.status ≠ "pending" then .error "not_pending"
    else .ok (h.decided now grantId grant (if approve then "approved" else "denied"))

def revokeGrant (grantId : String) : Except String (Holdings × List (String × Json)) :=
  match h.grants.get grantId with
  | none => .error "not_found"
  | some grant =>
    if grant.providerPubkey ≠ host.pubkey then .error "not_found"
    else .ok (h.decided now grantId grant "revoked")

end Provider

structure Decision where
  status : String
  decidedAt : String
  stamped : decidedAt ≠ ""

/-- The row shows the effect of a decision. -/
def ServiceGrant.Shows (g : ServiceGrant) (d : Decision) : Prop := g.status = d.status ∧ g.decidedAt = d.decidedAt

structure Link where
  provider : Holdings
  consumer : Holdings
  answers : List (AccessRequest × Response)
  updates : List (List (String × Json))

namespace Link

inductive Event
  | request (q : AccessRequest) (sig now freshId : String)
  /-- An answer arrives. -/
  | answer (index : Nat)
  | decide (grantId : String) (approve : Bool) (now sig : String)
  | revoke (grantId now sig : String)
  | deliver (index : Nat)

def push (L : Link) (sig : String) : Except String (Holdings × List (String × Json)) → Link
  | .error _ => L
  | .ok (provider, fields) =>
    { L with provider, updates := L.updates ++ [[("grant", .obj fields), ("sig", .str sig)]] }

section Step

variable (c : Primitives) (host : Host) (me : String)

def step (L : Link) : Event → Link
  | .request q sig now freshId =>
    let q := { q with consumerPubkey := me }
    let (provider, body) := handleServiceRequest c host now L.provider freshId
      ⟨q.serviceName, me, q.consumerUuid, q.ts, sig⟩
    { L with provider, answers := L.answers ++ [(q, ⟨200, body⟩)] }
  | .answer index =>
    match L.answers[index]? with
    | none => L
    | some (q, res) =>
      { L with
        consumer := (requestAccess c q L.consumer res).1
        answers := L.answers.eraseIdx index }
  | .decide grantId approve now sig => L.push sig (decideRequest host now L.provider grantId approve)
  | .revoke grantId now sig => L.push sig (revokeGrant host now L.provider grantId)
  | .deliver index =>
    match L.updates[index]? with
    | none => L
    | some body =>
      let grants := (applyGrantUpdate c me L.consumer.grants body).grants
      { L with consumer := { L.consumer with grants } }

/-- The decisions that a row shows later are not older. -/
def NeverGoesBack (grantId : String) (L : Link) (es : List Event) : Prop :=
  ∀ pre pre', pre <+: pre' → pre' <+: es → ∀ g ∈ (run (step c host me) L pre).consumer.grants.get grantId,
    ∀ g' ∈ (run (step c host me) L pre').consumer.grants.get grantId,
    ∀ d d' : Decision, g.Shows d → g'.Shows d' → d.decidedAt ≤ d'.decidedAt

end Step

end Link

def Answer.NotOlder (c : Primitives) (grantId : String) (old : Option ServiceGrant) : Answer → Prop
  | .grant fields => answerId c fields = grantId → ∀ g ∈ old, g.decidedAt ≤ Json.textAt c.repr fields "decided_at"
  | .refused _ | .raised => True

instance Answer.NotOlder.instDecidable (c : Primitives) (grantId : String)
    (old : Option ServiceGrant) : (a : Answer) → Decidable (a.NotOlder c grantId old)
  | .grant _ => inferInstanceAs (Decidable (_ → ∀ g ∈ old, _ ≤ _))
  | .refused _ | .raised => .isTrue trivial

namespace Link

/-- An answer that arrives is not older than the row. -/
def KeepsOrder (c : Primitives) (grantId : String) (L : Link) : Event → Prop
  | .answer index => ∀ a ∈ L.answers[index]?, (readAnswer a.2).NotOlder c grantId (L.consumer.grants.get grantId)
  | _ => True

instance KeepsOrder.instDecidable (c : Primitives) (grantId : String) (L : Link) :
    (e : Event) → Decidable (KeepsOrder c grantId L e)
  | .answer _ => inferInstanceAs (Decidable (∀ a ∈ _, _))
  | .request .. | .decide .. | .revoke .. | .deliver _ => .isTrue trivial

/-- The row of the grant stays, and its `decided_at` does not go down. -/
def Forward (grantId : String) (L L' : Link) : Prop :=
  ∀ g ∈ L.consumer.grants.get grantId, ∃ g' ∈ L'.consumer.grants.get grantId, g.decidedAt ≤ g'.decidedAt

section Order

variable {c : Primitives} {host : Host} {me grantId : String} {L : Link}

theorem empty_le (s : String) : "" ≤ s := by
  refine not_lt.mp fun hlt => ?_
  exact List.not_lt_nil _ hlt

theorem forward_refl (L : Link) : Forward grantId L L := fun g hg => ⟨g, hg, le_refl _⟩

theorem forward_trans (L₁ L₂ L₃ : Link) (h₁ : Forward grantId L₁ L₂) (h₂ : Forward grantId L₂ L₃) :
    Forward grantId L₁ L₃ := by
  intro g hg
  obtain ⟨g', hg', hle⟩ := h₁ g hg
  obtain ⟨g'', hg'', hle'⟩ := h₂ g' hg'
  exact ⟨g'', hg'', hle.trans hle'⟩

theorem le_decidedAt_write {u : GrantUpdate} {g : ServiceGrant} (hfresh : u.stale g = false) :
    g.decidedAt ≤ (u.write g).decidedAt := by
  show g.decidedAt ≤ if u.decidedAt = "" then g.decidedAt else u.decidedAt
  split
  · exact le_refl _
  next hstamp =>
    by_cases hrow : g.decidedAt = ""
    · rw [hrow]
      exact empty_le _
    by_contra hlt
    have hstale : u.stale g = true := by simp [GrantUpdate.stale, hrow, hstamp, not_le.mp hlt]
    rw [hstale] at hfresh
    cases hfresh

theorem forward_applyGrantUpdate {grants : Table String ServiceGrant} {body : List (String × Json)}
    {g : ServiceGrant} (hg : grants.get grantId = some g) :
    ∃ g', (applyGrantUpdate c me grants body).grants.get grantId = some g' ∧ g.decidedAt ≤ g'.decidedAt := by
  by_cases happlies : ∃ u, readGrantUpdate c body = some u ∧ u.Applies c me grantId g
  · obtain ⟨u, hbody, happ⟩ := happlies
    exact ⟨_, get_applyGrantUpdate_of_applies hbody hg happ, le_decidedAt_write happ.fresh⟩
  refine ⟨g, get_applyGrantUpdate_of_not_applies hg fun u hbody happ => ?_, le_refl _⟩
  exact happlies ⟨u, hbody, happ⟩

theorem forward_requestAccess {q : AccessRequest} {h : Holdings} {res : Response} {g : ServiceGrant}
    (hg : h.grants.get grantId = some g) (horder : (readAnswer res).NotOlder c grantId (h.grants.get grantId)) :
    ∃ g', (requestAccess c q h res).1.grants.get grantId = some g' ∧ g.decidedAt ≤ g'.decidedAt := by
  rcases requestAccess_cases c q h res with hsame | ⟨fields, id, h', hread, hstore, hend⟩
  · exact ⟨g, by rw [hsame, hg], le_refl _⟩
  rw [hend]
  obtain ⟨⟨address, rfl⟩, hold⟩ := storeGrant_spec hstore
  by_cases hid : id = grantId
  · subst hid
    rw [hread] at horder
    exact ⟨q.grantOf c fields, Table.get_put_self _ _ _, horder (hold g hg).symm g hg⟩
  · exact ⟨g, (Table.get_put_ne _ _ (Ne.symm hid)).trans hg, le_refl _⟩

theorem consumer_push (L : Link) (sig : String) (result : Except String (Holdings × List (String × Json))) :
    (L.push sig result).consumer = L.consumer := by
  cases result with
  | error => rfl
  | ok => rfl

theorem forward_step (L : Link) (e : Event) (horder : KeepsOrder c grantId L e) :
    Forward grantId L (L.step c host me e) := by
  intro g hg
  cases e with
  | request q sig now freshId => exact ⟨g, hg, le_refl _⟩
  | answer index =>
    unfold step
    dsimp only
    split
    · exact ⟨g, hg, le_refl _⟩
    next q res hmem => exact forward_requestAccess hg (horder (q, res) hmem)
  | decide id approve now sig =>
    refine ⟨g, ?_, le_refl _⟩
    show g ∈ (L.push sig _).consumer.grants.get grantId
    rw [consumer_push]
    exact hg
  | revoke id now sig =>
    refine ⟨g, ?_, le_refl _⟩
    show g ∈ (L.push sig _).consumer.grants.get grantId
    rw [consumer_push]
    exact hg
  | deliver index =>
    unfold step
    dsimp only
    split
    · exact ⟨g, hg, le_refl _⟩
    · exact forward_applyGrantUpdate hg

/-- **The status of a grant never goes back.** -/
theorem grant_never_goes_back (c : Primitives) (host : Host) (me grantId : String) (L : Link)
    (es : List Event) (horder : Along (step c host me) (KeepsOrder c grantId) L es) :
    NeverGoesBack c host me grantId L es := by
  intro pre pre' hpre hpre' g hg g' hg' d d' hd hd'
  have hforward : Forward grantId (run (step c host me) L pre) (run (step c host me) L pre') :=
    run_rel forward_refl forward_trans forward_step horder hpre hpre'
  obtain ⟨g'', hg'', hle⟩ := hforward g hg
  cases hg''.symm.trans hg'
  rw [← hd.2, ← hd'.2]
  exact hle

end Order

end Link

def exampleHost : Host where
  pubkey := "alice"
  nodeUuid := "a"
  isKnownPeer _ _ := true
  access service := if service = "db" then some "permission" else none

def exampleAccess (now : String) : Link.Event := .request ⟨"a", "db", "alice", "bob", "b", now, "new"⟩ "bob" now "g1"

def exampleLink : Link := ⟨⟨∅, ∅⟩, ⟨∅, ∅⟩, [], []⟩

def exampleDecisions : List Link.Event :=
  [exampleAccess "1", .answer 0, .decide "g1" true "2" "alice", .deliver 0, .revoke "g1" "4" "alice", .deliver 1]

def exampleRow (es : List Link.Event) : Option ServiceGrant :=
  (run (Link.step examplePrimitives exampleHost "bob") exampleLink es).consumer.grants.get "g1"

namespace Link

/-- The approval arrives once more after the revocation, and is refused. -/
theorem revocation_stands :
    exampleRow (exampleDecisions ++ [.deliver 0]) = some ⟨"db", "alice", "bob", "revoked", "4"⟩ ∧
      NeverGoesBack examplePrimitives exampleHost "bob" "g1" exampleLink (exampleDecisions ++ [.deliver 0]) := by
  obtain ⟨hrow, horder⟩ : exampleRow (exampleDecisions ++ [.deliver 0]) = some ⟨"db", "alice", "bob", "revoked", "4"⟩ ∧
      Along (step examplePrimitives exampleHost "bob") (KeepsOrder examplePrimitives "g1") exampleLink
        (exampleDecisions ++ [.deliver 0]) := by
    decide +kernel
  exact ⟨hrow, grant_never_goes_back _ _ _ _ _ _ horder⟩

/-- **A request brings an old approval back.** -/
theorem request_revives_approval :
    let es := exampleDecisions ++ [exampleAccess "5", .answer 0, .deliver 0]
    exampleRow exampleDecisions = some ⟨"db", "alice", "bob", "revoked", "4"⟩ ∧
      exampleRow es = some ⟨"db", "alice", "bob", "approved", "2"⟩ ∧
      ¬NeverGoesBack examplePrimitives exampleHost "bob" "g1" exampleLink es := by
  intro es
  obtain ⟨hrevoked, happroved⟩ : exampleRow exampleDecisions = some ⟨"db", "alice", "bob", "revoked", "4"⟩ ∧
      exampleRow es = some ⟨"db", "alice", "bob", "approved", "2"⟩ := by
    decide +kernel
  refine ⟨hrevoked, happroved, fun h => ?_⟩
  have hle := h exampleDecisions es (List.prefix_append _ _) (List.prefix_refl _) _ hrevoked _
    happroved ⟨"revoked", "4", by decide⟩ ⟨"approved", "2", by decide⟩ ⟨rfl, rfl⟩ ⟨rfl, rfl⟩
  exact absurd hle (by decide)

end Link

end NexusGrid.Services

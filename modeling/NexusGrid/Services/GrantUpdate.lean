import NexusGrid.Lib.Json
import NexusGrid.Lib.Table

/-! # Status updates of service grants

A consumer keeps a row for every grant it holds.
-/

namespace NexusGrid.Services

open Lib

structure Primitives where
  /-- `_load_pubkey(key).verify(signature, message)` raises nothing. -/
  verify : String → List UInt8 → List UInt8 → Bool
  /-- `base64.b64decode`; `none` when it raises. -/
  b64decode : String → Option (List UInt8)
  /-- Python's `repr` of arrays and objects. -/
  repr : Json → String

def statementDomain : List UInt8 := "nexus-signed-statement-v1".toList.map (fun c => UInt8.ofNat c.toNat) ++ [0]

def statementMaterial (kind : String) (payload : List (String × String)) : List UInt8 :=
  statementDomain ++ Json.dumps (("_kind", kind) :: payload)

def verifyStatement (c : Primitives) (kind : String) (payload : List (String × String))
    (sigB64 signerPubkey : String) : Bool :=
  if signerPubkey = "" ∨ sigB64 = "" then false
  else match c.b64decode sigB64 with
    | none => false
    | some sig => c.verify signerPubkey sig (statementMaterial kind payload)

/-- A row of `service_grants`, without the columns that addressing uses. -/
structure ServiceGrant where
  serviceName : String
  providerPubkey : String
  consumerPubkey : String
  status : String
  decidedAt : String
deriving DecidableEq

def stmtGrantUpdate : String := "service_grant_update"

def grantPayload (grantId provider service consumer status decidedAt : String) : List (String × String) :=
  [("grant_id", grantId), ("provider", provider), ("service", service), ("consumer", consumer),
    ("status", status), ("decided_at", decidedAt)]

/-- The fields of `grant` as `str(value or "")`, and the signature. -/
structure GrantUpdate where
  grantId : String
  provider : String
  service : String
  consumer : String
  status : String
  decidedAt : String
  sig : String
deriving DecidableEq

/-- The reading of a body; `none` when `grant` is no object and the handler raises. -/
def readGrantUpdate (c : Primitives) (body : List (String × Json)) : Option GrantUpdate :=
  (Json.objAt body "grant").map fun grant => {
    grantId := Json.textAt c.repr grant "grant_id"
    provider := Json.textAt c.repr grant "provider_pubkey"
    service := Json.textAt c.repr grant "service_name"
    consumer := Json.textAt c.repr grant "consumer_pubkey"
    status := Json.textAt c.repr grant "status"
    decidedAt := Json.textAt c.repr grant "decided_at"
    sig := Json.textAt c.repr body "sig" }

/-- The signature of the update verifies under `key`. -/
def GrantUpdate.signedBy (c : Primitives) (u : GrantUpdate) (key : String) : Bool := verifyStatement c stmtGrantUpdate
    (grantPayload u.grantId u.provider u.service u.consumer u.status u.decidedAt) u.sig key

def GrantUpdate.stale (u : GrantUpdate) (g : ServiceGrant) : Bool :=
  g.decidedAt ≠ "" && u.decidedAt ≠ "" && u.decidedAt < g.decidedAt

def GrantUpdate.write (u : GrantUpdate) (g : ServiceGrant) : ServiceGrant where
  __ := g
  status := if u.status = "" then g.status else u.status
  decidedAt := if u.decidedAt = "" then g.decidedAt else u.decidedAt

inductive Reply
  | ok
  | error (reason : String)
  | raised
deriving DecidableEq

/-- What a call returns: the rows, the reply, and the grant whose tunnels are closed. -/
structure Outcome where
  grants : Table String ServiceGrant
  reply : Reply
  closed : Option String

/-- `apply_grant_update`, on the node with the public key `me`. -/
def applyGrantUpdate (c : Primitives) (me : String) (grants : Table String ServiceGrant)
    (body : List (String × Json)) : Outcome :=
  match readGrantUpdate c body with
  | none => ⟨grants, .raised, none⟩
  | some u =>
    if u.signedBy c u.provider = false then ⟨grants, .error "bad_signature", none⟩
    else if u.consumer ≠ me then ⟨grants, .error "not_mine", none⟩
    else match grants.get u.grantId with
      | none => ⟨grants, .error "unknown_grant", none⟩
      | some g =>
        if u.stale g then ⟨grants, .error "stale_update", none⟩
        else
          let g' := u.write g
          ⟨grants.put u.grantId g', .ok,
            if g'.status = "revoked" ∨ g'.status = "denied" then some u.grantId else none⟩

section Change

variable {c : Primitives} {me : String} {grants : Table String ServiceGrant}
  {body : List (String × Json)} {u : GrantUpdate} {id : String} {r : ServiceGrant}

/-- The update passes every check of the handler for the row `r` with the id `id`. -/
structure GrantUpdate.Applies (c : Primitives) (me id : String) (r : ServiceGrant)
    (u : GrantUpdate) : Prop where
  signed : u.signedBy c u.provider = true
  consumer : u.consumer = me
  grantId : u.grantId = id
  fresh : u.stale r = false

theorem get_applyGrantUpdate_of_applies (hbody : readGrantUpdate c body = some u)
    (hr : grants.get id = some r) (h : u.Applies c me id r) :
    (applyGrantUpdate c me grants body).grants.get id = some (u.write r) := by
  obtain ⟨hsigned, hconsumer, rfl, hfresh⟩ := h
  simp [applyGrantUpdate, hbody, hsigned, hconsumer, hr, hfresh]

theorem get_applyGrantUpdate_of_not_applies (hr : grants.get id = some r)
    (h : ∀ u, readGrantUpdate c body = some u → ¬u.Applies c me id r) :
    (applyGrantUpdate c me grants body).grants.get id = some r := by
  unfold applyGrantUpdate
  cases hbody : readGrantUpdate c body with
  | none => exact hr
  | some u =>
    dsimp only
    split
    case isTrue => exact hr
    case isFalse hsigned =>
    split
    case isTrue => exact hr
    case isFalse hconsumer =>
    cases hg : grants.get u.grantId with
    | none => exact hr
    | some g =>
      dsimp only
      split
      case isTrue => exact hr
      case isFalse hfresh =>
        by_cases hid : u.grantId = id
        · -- the row that was found is `r`, so the update would apply to it
          rw [hid, hr] at hg
          cases hg
          refine absurd ⟨?_, not_not.mp hconsumer, hid, ?_⟩ (h u hbody)
          · exact (Bool.not_eq_false _).mp hsigned
          · exact (Bool.not_eq_true _).mp hfresh
        · rw [Table.get_put_ne grants _ (Ne.symm hid)]
          exact hr

end Change

/-- The body carries a signature that verifies under `key`. -/
def SignedUnder (c : Primitives) (body : List (String × Json)) (key : String) : Prop :=
  ∃ u, readGrantUpdate c body = some u ∧ u.signedBy c key = true

/-- The row `r` changes its status only on the word of its provider. -/
def OnlyProviderChanges (c : Primitives) (me : String) (grants : Table String ServiceGrant)
    (id : String) (r : ServiceGrant) (body : List (String × Json)) : Prop :=
  ∀ r', (applyGrantUpdate c me grants body).grants.get id = some r' →
    (r'.status ≠ r.status → SignedUnder c body r.providerPubkey) ∧ (¬SignedUnder c body r.providerPubkey → r' = r)

/-- **When only the provider can change a grant.** -/
theorem only_provider_changes_iff (c : Primitives) (me : String)
    (grants : Table String ServiceGrant) (id : String) (r : ServiceGrant)
    (body : List (String × Json)) (hr : grants.get id = some r) : OnlyProviderChanges c me grants id r body ↔
      ∀ u, readGrantUpdate c body = some u → u.Applies c me id r →
        u.provider = r.providerPubkey ∨ u.signedBy c r.providerPubkey = true ∨ u.write r = r := by
  constructor
  · intro h u hbody happlies
    by_cases hsigned : u.signedBy c r.providerPubkey = true
    · exact .inr (.inl hsigned)
    have hnot : ¬SignedUnder c body r.providerPubkey := by
      rintro ⟨u', hbody', hsigned'⟩
      cases hbody'.symm.trans hbody
      exact hsigned hsigned'
    have hwritten := get_applyGrantUpdate_of_applies hbody hr happlies
    exact .inr (.inr ((h _ hwritten).2 hnot))
  · intro h r' hr'
    by_cases happlies : ∃ u, readGrantUpdate c body = some u ∧ u.Applies c me id r
    · obtain ⟨u, hbody, happ⟩ := happlies
      rw [get_applyGrantUpdate_of_applies hbody hr happ] at hr'
      cases hr'
      rcases h u hbody happ with hprovider | hsigned | hsame
      · have hown : SignedUnder c body r.providerPubkey := ⟨u, hbody, hprovider ▸ happ.signed⟩
        exact ⟨fun _ => hown, fun hnot => absurd hown hnot⟩
      · have hown : SignedUnder c body r.providerPubkey := ⟨u, hbody, hsigned⟩
        exact ⟨fun _ => hown, fun hnot => absurd hown hnot⟩
      rw [hsame]
      exact ⟨fun hne => absurd rfl hne, fun _ => rfl⟩
    · have hnone : ∀ u, readGrantUpdate c body = some u → ¬u.Applies c me id r :=
        fun u hbody happ => happlies ⟨u, hbody, happ⟩
      rw [get_applyGrantUpdate_of_not_applies hr hnone] at hr'
      cases hr'
      exact ⟨fun hne => absurd rfl hne, fun _ => rfl⟩

/-! ### Two updates

Signatures that name the key they were made with: one that verifies under a key is made with
that key. -/

def examplePrimitives : Primitives where
  verify key sig _ := sig = key.toList.map fun c => UInt8.ofNat c.toNat
  b64decode s := some (s.toList.map fun c => UInt8.ofNat c.toNat)
  repr _ := ""

def exampleBody (key status : String) : List (String × Json) :=
  [("grant", .obj [("grant_id", .str "g1"), ("provider_pubkey", .str key),
      ("service_name", .str "db"), ("consumer_pubkey", .str "bob"), ("status", .str status),
      ("decided_at", .str "2026-01-02")]),
    ("sig", .str key)]

def exampleGrants : Table String ServiceGrant := Table.put ∅ "g1" ⟨"db", "alice", "bob", "approved", "2026-01-01"⟩

/-- The provider revokes the grant. -/
theorem only_provider_changes_revoke :
    ((applyGrantUpdate examplePrimitives "bob" exampleGrants (exampleBody "alice" "revoked")).grants.get
        "g1").map ServiceGrant.status = some "revoked" ∧
      OnlyProviderChanges examplePrimitives "bob" exampleGrants "g1"
        ⟨"db", "alice", "bob", "approved", "2026-01-01"⟩ (exampleBody "alice" "revoked") := by
  refine ⟨by decide, (only_provider_changes_iff _ _ _ _ _ _ (by decide)).mpr ?_⟩
  intro u hu _
  left
  cases hu
  decide

/-- **Somebody else revokes the grant.** -/
theorem stranger_revokes_grant : ((applyGrantUpdate examplePrimitives "bob" exampleGrants
        (exampleBody "mallory" "revoked")).grants.get "g1").map ServiceGrant.status = some "revoked" ∧
      ¬SignedUnder examplePrimitives (exampleBody "mallory" "revoked") "alice" := by
  refine ⟨by decide, ?_⟩
  rintro ⟨u, hu, hsigned⟩
  cases hu
  cases hsigned

end NexusGrid.Services

import NexusGrid.Groups.Rotation

/-! # Refreshing grants

An admin signs the grants it has issued again before they expire (`refresh_my_issued_grants`).
-/

namespace NexusGrid.Groups

open Lib

section Refreshing

variable (p : Primitives) (s : Sealing) (now newExpires : String)

/-- The roles `roles_json` gives: no list, no roles. -/
def GroupGrant.roles (row : GroupGrant) : List String :=
  match p.loads (utf8 (if row.rolesJson = "" then "[]" else row.rolesJson)) with
  | some (.arr roles) => roles.map (·.text p.repr)
  | _ => []

/-- What is signed again for a row. -/
def GroupGrant.renewed (row : GroupGrant) (nonce : String) : Grant :=
  ⟨row.groupId, row.memberPubkey, row.roles p, p.me, now, newExpires, nonce⟩

/-- A row this node has issued, with time left. -/
def GroupGrant.Renewable (row : GroupGrant) : Prop := row.issuedByPubkey = p.me ∧ now < row.expiresAt

instance (row : GroupGrant) : Decidable (row.Renewable p now) := by
  unfold GroupGrant.Renewable
  infer_instance

/-- The body of the loop; `none` when `sign_grant` raises. -/
def refreshRow (nonce : String) (row : GroupGrant) : Option GroupGrant :=
  if row.Renewable p now then
    if row.memberPubkey.length ≠ 64 then none
    else some { row with
      issuedAt := now
      expiresAt := newExpires
      nonce := nonce
      signature := signGrant p s (row.renewed p now newExpires nonce) }
  else some row

/-- `refresh_my_issued_grants`, with the nonce drawn for each row; `none` when it raises. -/
def refreshMyIssuedGrants (nonces : String → String) (rows : List (String × GroupGrant)) :
    Option (List (String × GroupGrant)) :=
  rows.mapM fun r => (refreshRow p s now newExpires (nonces r.1) r.2).map (r.1, ·)

/-- The payload that is signed. -/
def Grant.payload (g : Grant) : List (String × Json) :=
  [("group_id", .str g.groupId), ("member_pubkey", .str g.memberPubkey), ("roles", .arr (g.roles.map .str)),
    ("issued_by_pubkey", .str p.me), ("issued_at", .str g.issuedAt), ("expires_at", .str g.expiresAt),
    ("nonce", .str g.nonce)]

/-- The blob of `g` is read as its fields in some order, and its signature verifies. -/
structure Signs (g : Grant) : Prop where
  loads : ∃ payload signatureHex, p.loads (signGrant p s g) =
      some (.obj [("payload", .obj payload), ("signature", .str signatureHex)]) ∧
    (∀ k, payload.lookup k = (g.payload p).lookup k) ∧ signatureHex.length = 128 ∧
    ∃ signature, p.fromHex signatureHex = some signature ∧ p.verify p.me signature (p.canonical (.obj payload)) = true

/-- It is kept, or its blob is accepted until the new expiry. -/
structure Refreshed (nonce : String) (row row' : GroupGrant) : Prop where
  same : row'.groupId = row.groupId ∧ row'.memberPubkey = row.memberPubkey ∧ row'.roles p = row.roles p
  kept : row.expiresAt ≤ now ∨ row.issuedByPubkey ≠ p.me → row' = row
  accepted : row.Renewable p now → row'.expiresAt = newExpires ∧ ∀ admins, p.me ∈ admins → ∀ t,
    verifyGrant p t admins row'.signature =
      if newExpires ≤ t then none else some (row.renewed p now newExpires nonce)

variable {p s now newExpires}

theorem strings_map_str (roles : List String) : Json.strings (roles.map .str) = roles := by
  induction roles with
  | nil => rfl
  | cons r roles ih => exact congrArg (r :: ·) ih

theorem readGrant_payload {g : Grant} {payload : List (String × Json)} (hme : g.issuedByPubkey = p.me)
    (h : ∀ k, payload.lookup k = (g.payload p).lookup k) : readGrant payload = some g := by
  have hread : readGrant payload = readGrant (g.payload p) := by simp only [readGrant, h]
  rw [hread]
  simp [readGrant, Grant.payload, List.lookup_cons, strings_map_str, ← hme]

/-- A grant that was signed is accepted until it expires. -/
theorem verifyGrant_signGrant {g : Grant} {admins : List String} (hsigns : Signs p s g) (hme : g.issuedByPubkey = p.me)
    (hadmin : p.me ∈ admins) (t : String) :
    verifyGrant p t admins (signGrant p s g) = if g.expiresAt ≤ t then none else some g := by
  obtain ⟨payload, signatureHex, hloads, hfields, hlen, signature, hhex, hverify⟩ := hsigns.loads
  have hpayload : List.lookup "payload" [("payload", Json.obj payload), ("signature", .str signatureHex)] =
      some (.obj payload) := rfl
  have hsignature : List.lookup "signature" [("payload", Json.obj payload), ("signature", .str signatureHex)] =
      some (.str signatureHex) := rfl
  simp only [verifyGrant, hloads, hpayload, hsignature, readGrant_payload hme hfields, hhex, hme, hadmin, hlen, hverify,
    not_true, ne_eq, Bool.true_eq_false, false_or]

theorem refreshed_of_refreshRow {nonce : String} {row row' : GroupGrant}
    (hsigns : row.Renewable p now → Signs p s (row.renewed p now newExpires nonce))
    (h : refreshRow p s now newExpires nonce row = some row') : Refreshed p now newExpires nonce row row' := by
  unfold refreshRow at h
  split_ifs at h with hrenew hlen <;> obtain rfl := Option.some.inj h
  · refine ⟨⟨rfl, rfl, rfl⟩, fun hkeep => ?_, fun _ => ⟨rfl, fun admins hadmin t => ?_⟩⟩
    · exact (hkeep.elim (fun hexpired => hexpired hrenew.2) (fun hissuer => hissuer hrenew.1)).elim
    · exact verifyGrant_signGrant (hsigns hrenew) rfl hadmin t
  · exact ⟨⟨rfl, rfl, rfl⟩, fun _ => rfl, fun h => absurd h hrenew⟩

/-- **Refreshed grants.** -/
theorem refreshMyIssuedGrants_spec {nonces : String → String} {rows rows' : List (String × GroupGrant)}
    (hsigns : ∀ r ∈ rows, r.2.Renewable p now → Signs p s (r.2.renewed p now newExpires (nonces r.1)))
    (h : refreshMyIssuedGrants p s now newExpires nonces rows = some rows') :
    List.Forall₂ (fun r r' => r'.1 = r.1 ∧ Refreshed p now newExpires (nonces r.1) r.2 r'.2) rows rows' := by
  induction rows generalizing rows' with
  | nil =>
    cases h
    exact .nil
  | cons r rows ih =>
    rw [refreshMyIssuedGrants, List.mapM_cons, Option.bind_eq_bind, Option.bind_eq_some_iff] at h
    obtain ⟨r', hr', h⟩ := h
    rw [Option.bind_eq_bind, Option.bind_eq_some_iff] at h
    obtain ⟨rest, hrest, heq⟩ := h
    cases heq
    obtain ⟨row', hrow', rfl⟩ := Option.map_eq_some_iff.mp hr'
    refine .cons ⟨rfl, refreshed_of_refreshRow (hsigns r (.head _)) hrow'⟩ ?_
    exact ih (fun q hq => hsigns q (List.mem_cons_of_mem r hq)) hrest

end Refreshing

/-- A row that `exampleRenewer` has issued. -/
def exampleIssuedRow : GroupGrant where
  groupId := "g"
  memberPubkey := "0000000000000000000000000000000000000000000000000000000000000000"
  issuedByPubkey := "alice"
  issuedAt := "1"
  expiresAt := "3"
  nonce := ""
  signature := []
  rolesJson := "[]"

def exampleRenewal : Grant := ⟨"g", exampleIssuedRow.memberPubkey, [], "alice", "2", "4", "n"⟩

/-- A node whose own blobs read as `exampleRenewal`. -/
def exampleRenewer : Primitives :=
  { examplePrimitives [] with
    me := "alice"
    loads := fun _ => some (.obj [("payload", .obj [("group_id", .str "g"),
        ("member_pubkey", .str exampleIssuedRow.memberPubkey), ("roles", .arr []), ("issued_by_pubkey", .str "alice"),
        ("issued_at", .str "2"), ("expires_at", .str "4"), ("nonce", .str "n")]),
      ("signature", .str (exampleIssuedRow.memberPubkey ++ exampleIssuedRow.memberPubkey))]) }

theorem refreshMyIssuedGrants_spec_renewed : ∃ row',
    refreshMyIssuedGrants exampleRenewer (exampleSealing "" "alice" 0) "2" "4" (fun _ => "n")
      [("1", exampleIssuedRow)] =
        some [("1", row')] ∧
      verifyGrant exampleRenewer "3" ["alice"] row'.signature = some exampleRenewal := by
  have hrenew : exampleIssuedRow.Renewable exampleRenewer "2" := by decide +kernel
  have hrun : refreshMyIssuedGrants exampleRenewer (exampleSealing "" "alice" 0) "2" "4" (fun _ => "n")
      [("1", exampleIssuedRow)] = some [("1", { exampleIssuedRow with
        issuedAt := "2", expiresAt := "4", nonce := "n", signature := [] })] := by decide +kernel
  have hspec := refreshMyIssuedGrants_spec (fun r hr _ => by
    obtain rfl := List.mem_singleton.mp hr
    exact ⟨_, _, rfl, fun k => rfl, by decide +kernel, _, rfl, by decide +kernel⟩) hrun
  cases hspec with
  | cons h _ => exact ⟨_, hrun, ((h.2.accepted hrenew).2 ["alice"] (by decide) "3").trans (by decide +kernel)⟩

end NexusGrid.Groups

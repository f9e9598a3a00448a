import NexusGrid.Security.Messages

/-! # Signed pair invites

The blob of a pair invite is the base64 text of an envelope: the payload and its signature (`sign_pair_invite`).
-/

namespace NexusGrid.Security

open Lib

structure InviteReader where
  /-- `json.loads(_b64url_dec(text).decode("utf-8"))`; `none` when it raises. -/
  loads : String → Option Json
  /-- Python's `repr` of arrays and objects. -/
  repr : Json → String
  /-- `bytes.fromhex`; `none` when it raises. -/
  fromHex : String → Option (List UInt8)
  /-- The raw bytes of `Ed25519PublicKey.from_public_bytes(bytes.fromhex(text))`; `none` when it
  raises. -/
  publicKey : String → Option (List UInt8)
  /-- `key.verify(signature, message)` raises nothing. -/
  verify : List UInt8 → List UInt8 → List UInt8 → Bool

structure InvitePrimitives extends Primitives, InviteReader where
  /-- `int(v)` of what is neither an integer nor a boolean; `none` when it raises. -/
  toInt : Json → Option Int
  /-- `priv.sign(message).hex()`. -/
  sign : String → List UInt8 → String
  /-- `_b64url_enc`. -/
  b64url : List UInt8 → String

/-- The class `PairInvite`. -/
structure PairInvite where
  inviteId : String
  issuerPubkey : String
  issuedAt : String
  expiresAt : String
  maxUses : Int
deriving DecidableEq

def PairInvite.fields (inv : PairInvite) : List (String × Json) :=
  pairInviteFields inv.inviteId inv.issuerPubkey inv.issuedAt inv.expiresAt inv.maxUses

/-- The signature verifies under a key; an error when it is no text. -/
def signatureOk (p : InviteReader) (issuerPubkey : String) (sigHex payload : Json) : Except Unit Bool :=
  match p.publicKey issuerPubkey with
  | none => .ok false
  | some key =>
    match sigHex with
    | .str text => .ok ((p.fromHex text).any fun sig => p.verify key sig payload.canonical)
    | _ => .error ()

section Invite

variable (p : InvitePrimitives)

/-- The blob that `sign_pair_invite` returns; `none` when it raises. -/
def pairInviteBlob (inv : PairInvite) (privkey : String) : Option String :=
  (signPairInvite p.toPrimitives inv.inviteId inv.issuerPubkey inv.issuedAt inv.expiresAt inv.maxUses
    privkey).map fun message =>
      p.b64url (Json.canonical
        (.obj [("payload", .obj inv.fields), ("signature", .str (p.sign privkey message))]))

/-- `int(v)`. -/
def intOf : Json → Option Int
  | .int n => some n
  | .bool b => some (if b then 1 else 0)
  | v => p.toInt v

/-- The payload, the signature and the fields; `none` when one is missing. -/
def readPairInvite (blob : String) : Option (Json × Json × PairInvite) := do
  let envelope ← p.loads blob
  let payload ← envelope.item "payload"
  let sigHex ← envelope.item "signature"
  let inviteId ← payload.item "invite_id"
  let issuerPubkey ← payload.item "issuer_pubkey"
  let issuedAt ← payload.item "issued_at"
  let expiresAt ← payload.item "expires_at"
  let maxUses ← (payload.item "max_uses").bind (intOf p)
  return (payload, sigHex, ⟨inviteId.text p.repr, issuerPubkey.text p.repr, issuedAt.text p.repr,
    expiresAt.text p.repr, maxUses⟩)

/-- `verify_pair_invite`; an empty `expected` stands for none. -/
def verifyPairInvite (blob expected now : String) : Except Unit (Option PairInvite) :=
  match readPairInvite p blob with
  | none => .ok none
  | some (payload, sigHex, inv) =>
    if inv.issuerPubkey.length ≠ 64 then .ok none
    else
      match sigHex.len with
      | none => .error ()
      | some n =>
        if n ≠ 128 ∨ inv.maxUses < 1 ∨ (expected ≠ "" ∧ expected ≠ inv.issuerPubkey) then .ok none
        else
          match signatureOk p.toInviteReader inv.issuerPubkey sigHex payload with
          | .error () => .error ()
          | .ok false => .ok none
          -- two texts are compared, not two dates
          | .ok true => if inv.expiresAt ≤ now then .ok none else .ok (some inv)

def PairInvite.signature (inv : PairInvite) (privkey : String) : String :=
  p.sign privkey (Json.canonical (.obj inv.fields))

def PairInvite.payload (inv : PairInvite) : Json := .obj (Json.sorted inv.fields)

structure Reads (inv : PairInvite) (privkey blob : String) : Prop where
  blob_ne : blob ≠ ""
  strip_blob : PyStr.strip blob = blob
  loads_blob : p.loads blob = some (.obj [("payload", inv.payload), ("signature", .str (inv.signature p privkey))])
  length_signature : (inv.signature p privkey).length = 128
  verifies : ∃ key sig, p.publicKey inv.issuerPubkey = some key ∧ p.fromHex (inv.signature p privkey) = some sig ∧
    p.verify key sig (Json.canonical (.obj inv.fields)) = true

variable {p} {inv : PairInvite} {privkey blob : String}

theorem payload_eq (inv : PairInvite) : inv.payload =
    .obj [("expires_at", .str inv.expiresAt), ("invite_id", .str inv.inviteId),
      ("issued_at", .str inv.issuedAt), ("issuer_pubkey", .str inv.issuerPubkey), ("max_uses", .int inv.maxUses)] := by
  simp +decide only [PairInvite.payload, PairInvite.fields, pairInviteFields, Json.sorted,
    List.insertionSort_cons, List.insertionSort_nil, List.orderedInsert_cons, List.orderedInsert_nil,
    if_true, if_false]

theorem Reads.signatureOk (h : Reads p inv privkey blob) :
    signatureOk p.toInviteReader inv.issuerPubkey (.str (inv.signature p privkey)) inv.payload = .ok true := by
  obtain ⟨key, sig, hkey, hsig, hverify⟩ := h.verifies
  rw [← Json.canonical_sorted] at hverify
  simp [Security.signatureOk, hkey, hsig, PairInvite.payload, hverify]

@[simp] theorem payload_items (inv : PairInvite) : inv.payload.item "invite_id" = some (.str inv.inviteId) ∧
    inv.payload.item "issuer_pubkey" = some (.str inv.issuerPubkey) ∧
    inv.payload.item "issued_at" = some (.str inv.issuedAt) ∧
    inv.payload.item "expires_at" = some (.str inv.expiresAt) ∧
    inv.payload.item "max_uses" = some (.int inv.maxUses) := by
  rw [payload_eq]
  exact ⟨rfl, rfl, rfl, rfl, rfl⟩

theorem Reads.envelope (h : Reads p inv privkey blob) :
    ∃ envelope, p.loads blob = some envelope ∧ envelope.item "payload" = some inv.payload ∧
      envelope.item "signature" = some (.str (inv.signature p privkey)) :=
  ⟨_, h.loads_blob, rfl, rfl⟩

theorem Reads.readPairInvite (h : Reads p inv privkey blob) :
    readPairInvite p blob = some (inv.payload, .str (inv.signature p privkey), inv) := by
  obtain ⟨envelope, hloads, hpayload, hsignature⟩ := h.envelope
  rw [Security.readPairInvite, hloads]
  simp only [Option.bind_eq_bind, Option.bind_some, hpayload, hsignature, payload_items, Json.text, intOf,
    Option.pure_def]

theorem Reads.verifyPairInvite (h : Reads p inv privkey blob) (hkey : inv.issuerPubkey.length = 64)
    (huses : 1 ≤ inv.maxUses) {now : String} (hnow : now < inv.expiresAt) :
    verifyPairInvite p blob inv.issuerPubkey now = .ok (some inv) := by
  have hlen : Json.len (.str (inv.signature p privkey)) = some 128 := congrArg some h.length_signature
  simp only [Security.verifyPairInvite, h.readPairInvite, hkey, hlen, h.signatureOk]
  simp [not_lt.mpr huses, hnow]

end Invite

end NexusGrid.Security

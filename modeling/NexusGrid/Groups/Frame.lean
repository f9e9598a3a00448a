import NexusGrid.Groups.State

/-! # Sealed frames

What a member publishes to a group is a sealed frame (`group_frame.py`).
-/

namespace NexusGrid.Groups

open Lib

structure Primitives where
  /-- The hex key loads and verifies the signature of the message. -/
  verify : String → List UInt8 → List UInt8 → Bool
  b64decode : String → Option (List UInt8)
  fromHex : String → Option (List UInt8)
  /-- `ChaCha20Poly1305(key).decrypt(nonce, ciphertext, aad)`. -/
  decrypt : List UInt8 → List UInt8 → List UInt8 → List UInt8 → Option (List UInt8)
  /-- `json.loads(bytes.decode("utf-8"))`. -/
  loads : List UInt8 → Option Json
  /-- `_canonical_payload_bytes`. -/
  canonical : Json → List UInt8
  /-- `ecies_open` with this node's private key. -/
  eciesOpen : List UInt8 → Option (List UInt8)
  /-- `fingerprint_for_bytes` of a source text. -/
  fingerprint : String → String
  /-- Python's `repr` of arrays and objects. -/
  repr : Json → String
  /-- Python's `int` of values that are no integers. -/
  toInt : Json → Option Int
  /-- `get_local_group_pubkey()`. -/
  me : String

/-- What differs from call to call. -/
structure Call where
  /-- `iso_now()`. -/
  now : String
  /-- `ecies_seal` to this node's own key. -/
  eciesSeal : List UInt8 → List UInt8
  /-- By address and node id. -/
  post : String → String → Option Nat

structure GroupFrame where
  frameId : String
  channel : String
  frameType : String
  senderGrantB64 : String
  nonceB64 : String
  ciphertextB64 : String
  signatureB64 : String
deriving DecidableEq

/-- `str(d[key])`. -/
def requireText (repr : Json → String) (fields : List (String × Json)) (key : String) : Except String String :=
  match fields.lookup key with
  | none => .error ("frame missing field: '" ++ key ++ "'")
  | some v => .ok (v.text repr)

def GroupFrame.fromDict (repr : Json → String) : Json → Except String GroupFrame
  | .obj d => do
    let frameId ← requireText repr d "frame_id"
    let channel ← requireText repr d "channel"
    let frameType ← requireText repr d "frame_type"
    let senderGrantB64 ← requireText repr d "sender_grant_b64"
    let nonceB64 ← requireText repr d "nonce_b64"
    let ciphertextB64 ← requireText repr d "ciphertext_b64"
    let signatureB64 ← requireText repr d "signature_b64"
    return ⟨frameId, channel, frameType, senderGrantB64, nonceB64, ciphertextB64, signatureB64⟩
  | _ => .error "object is not subscriptable"

def utf8 (s : String) : List UInt8 := s.toUTF8.toList

/-- `b"|"`. -/
def bar : List UInt8 := [124]

def GroupFrame.aad (f : GroupFrame) : List UInt8 :=
  utf8 "nexus.group.frame.aad.v1|" ++ utf8 f.channel ++ bar ++ utf8 f.frameType ++ bar ++ utf8 f.frameId

def GroupFrame.signatureMaterial (f : GroupFrame) (nonce ciphertext : List UInt8) : List UInt8 :=
  utf8 "nexus.group.frame.sig.v1|" ++ utf8 f.frameId ++ bar ++ utf8 f.channel ++ bar ++
    utf8 f.frameType ++ bar ++ nonce ++ bar ++ ciphertext

structure Grant where
  groupId : String
  memberPubkey : String
  roles : List String
  issuedByPubkey : String
  issuedAt : String
  expiresAt : String
  nonce : String
deriving DecidableEq

def readGrant (payload : List (String × Json)) : Option Grant :=
  match payload.lookup "group_id", payload.lookup "member_pubkey", payload.lookup "roles",
    payload.lookup "issued_by_pubkey", payload.lookup "issued_at", payload.lookup "expires_at",
    payload.lookup "nonce" with
  | some (.str groupId), some (.str memberPubkey), some (.arr roles), some (.str issuedByPubkey),
    some (.str issuedAt), some (.str expiresAt), some (.str nonce) =>
    if (Json.strings roles).length = roles.length then
      some ⟨groupId, memberPubkey, Json.strings roles, issuedByPubkey, issuedAt, expiresAt, nonce⟩
    else none
  | _, _, _, _, _, _, _ => none

def verifyGrant (p : Primitives) (now : String) (admins : List String) (blob : List UInt8) : Option Grant :=
  match p.loads blob with
  | some (.obj envelope) =>
    match envelope.lookup "payload", envelope.lookup "signature" with
    | some (.obj payload), some (.str signatureHex) =>
      match readGrant payload, p.fromHex signatureHex with
      | some grant, some signature =>
        if grant.issuedByPubkey ∉ admins ∨ signatureHex.length ≠ 128 ∨
            p.verify grant.issuedByPubkey signature (p.canonical (.obj payload)) = false ∨
            grant.expiresAt ≤ now then none
        else some grant
      | _, _ => none
    | _, _ => none
  | _ => none

structure OpenedFrame where
  frameId : String
  channel : String
  frameType : String
  senderPubkey : String
  senderGrant : Grant
  payload : List UInt8
deriving DecidableEq

def openFrame (p : Primitives) (now : String) (symkey : List UInt8) (admins : List String)
    (frame : GroupFrame) : Except String OpenedFrame :=
  if symkey.length ≠ 32 then .error "symkey wrong length"
  else match p.b64decode frame.senderGrantB64, p.b64decode frame.nonceB64,
      p.b64decode frame.ciphertextB64, p.b64decode frame.signatureB64 with
    | some grantBlob, some nonce, some ciphertext, some signature =>
      if nonce.length ≠ 12 then .error "nonce wrong length"
      else match verifyGrant p now admins grantBlob with
        | none => .error "grant failed verification"
        | some grant =>
          if grant.groupId ≠ frame.channel then .error "grant.group_id != frame.channel"
          else if p.verify grant.memberPubkey signature
              (frame.signatureMaterial nonce ciphertext) = false then
            .error "frame signature invalid"
          else match p.decrypt symkey nonce ciphertext frame.aad with
            | none => .error "aead decryption failed"
            | some payload => .ok ⟨frame.frameId, frame.channel, frame.frameType, grant.memberPubkey, grant, payload⟩
    | _, _, _, _ => .error "base64 decode failed"

theorem openFrame_ok {p : Primitives} {now : String} {symkey : List UInt8} {admins : List String}
    {frame : GroupFrame} {o : OpenedFrame} (h : openFrame p now symkey admins frame = .ok o) :
    o.frameId = frame.frameId ∧ o.channel = frame.channel ∧ o.frameType = frame.frameType ∧
      o.senderGrant.groupId = o.channel ∧ o.senderPubkey = o.senderGrant.memberPubkey := by
  unfold openFrame at h
  split at h
  case isTrue => simp at h
  case isFalse =>
  split at h
  case h_2 => simp at h
  case h_1 =>
  split at h
  case isTrue => simp at h
  case isFalse =>
  split at h
  case h_1 => simp at h
  case h_2 grant _ =>
  split at h
  case isTrue => simp at h
  case isFalse hgroup =>
  split at h
  case isTrue => simp at h
  case isFalse =>
  split at h
  case h_1 => simp at h
  case h_2 =>
    cases h
    exact ⟨rfl, rfl, rfl, not_not.mp hgroup, rfl⟩

end NexusGrid.Groups

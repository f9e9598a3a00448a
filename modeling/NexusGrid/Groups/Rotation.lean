import NexusGrid.Groups.Authority

/-! # Publishing frames and rotating the key

`seal_frame`, `publish_frame` and `publish_symkey_rotate`, and the endpoints `kick_member` and `leave_group`.
-/

namespace NexusGrid.Groups

open Lib

/-- What publishing adds: the private keys, the encodings, and what is drawn afresh. -/
structure Sealing where
  /-- `uuid.uuid4().hex`. -/
  frameId : String
  /-- `secrets.token_bytes(NONCE_LEN)`. -/
  nonce : List UInt8
  /-- `mint_group_symkey()`. -/
  symkey : List UInt8
  /-- `_secrets.token_hex(16)`, the nonce of the founder's own grant. -/
  grantNonce : String
  /-- When that grant expires: a day from now. -/
  expiresAt : String
  b64encode : List UInt8 → String
  hex : List UInt8 → String
  /-- `json.dumps(.., separators=(",", ":")).encode("utf-8")`. -/
  dumps : Json → List UInt8
  /-- `ChaCha20Poly1305(key).encrypt(nonce, payload, aad)`. -/
  encrypt : List UInt8 → List UInt8 → List UInt8 → List UInt8 → List UInt8
  /-- The signature of this node's Ed25519 key. -/
  sign : List UInt8 → List UInt8
  /-- `ecies_seal` to the X25519 key of a member; `none` when it raises. -/
  sealTo : String → List UInt8 → Option (List UInt8)

def GroupFrame.toDict (f : GroupFrame) : Json :=
  .obj [("frame_id", .str f.frameId), ("channel", .str f.channel), ("frame_type", .str f.frameType),
    ("sender_grant_b64", .str f.senderGrantB64), ("nonce_b64", .str f.nonceB64),
    ("ciphertext_b64", .str f.ciphertextB64), ("signature_b64", .str f.signatureB64)]

structure HttpError where
  status : Nat
  detail : String
deriving DecidableEq

/-- What became of a frame: `publish_frame` skips it, or puts it on the wire. -/
inductive Publication
  | skippedPaused
  | skippedNoSymkey
  | skippedNoGrant
  | published (envelope : Json)

def Publication.envelope : Publication → Option Json
  | published envelope => some envelope
  | _ => none

def Db.liveGroup (db : Db) (groupId : String) : Option Group := (db.groups.get groupId).filter fun g => g.deletedAt = ""

section Publishing

variable (p : Primitives) (call : Call) (s : Sealing)

/-- `seal_frame`; `none` when it raises. -/
def sealFrame (channel frameType : String) (payload symkey grantBlob : List UInt8) : Option GroupFrame :=
  if channel = "" ∨ frameType = "" ∨ symkey.length ≠ 32 ∨ grantBlob = [] then none
  else
    let frame : GroupFrame := ⟨s.frameId, channel, frameType, s.b64encode grantBlob, s.b64encode s.nonce, "", ""⟩
    let ciphertext := s.encrypt symkey s.nonce payload frame.aad
    let signature := s.sign (frame.signatureMaterial s.nonce ciphertext)
    some { frame with
      ciphertextB64 := s.b64encode ciphertext
      signatureB64 := s.b64encode signature }

/-- `sign_grant` with this node's key. -/
def signGrant (g : Grant) : List UInt8 :=
  let payload := Json.obj [("group_id", .str g.groupId), ("member_pubkey", .str g.memberPubkey),
    ("roles", .arr (g.roles.map .str)), ("issued_by_pubkey", .str p.me),
    ("issued_at", .str g.issuedAt), ("expires_at", .str g.expiresAt), ("nonce", .str g.nonce)]
  p.canonical (.obj [("payload", payload), ("signature", .str (s.hex (s.sign (p.canonical payload))))])

/-- `_local_grant_blob`: the latest grant of this node. -/
def Db.localGrantBlob (db : Db) (groupId : String) : Option (List UInt8) :=
  let own := db.grants.rows.filter fun r => r.2.groupId = groupId && r.2.memberPubkey = p.me
  match (own.insertionSort fun a b => b.2.issuedAt ≤ a.2.issuedAt).head? with
  | none => none
  | some r => if r.2.signature = [] then none else some r.2.signature

/-- `_local_founder_grant_blob`: the founder signs a grant for the occasion. -/
def Db.localFounderGrantBlob (db : Db) (groupId : String) : Option (List UInt8) :=
  match db.groups.get groupId with
  | none => none
  | some g =>
    if g.founderPubkey ≠ p.me then none
    else some (signGrant p s ⟨groupId, p.me, ["founder"], p.me, call.now, s.expiresAt, s.grantNonce⟩)

/-- `publish_frame`, up to the envelope that goes on the wire; `none` when it raises. -/
def publishFrame (db : Db) (groupId frameType : String) (payload : Json) : Option Publication :=
  if db.paused groupId then some .skippedPaused
  else match db.localSymkey p groupId with
    | none => some .skippedNoSymkey
    | some symkey =>
      match (db.localGrantBlob p groupId).or (db.localFounderGrantBlob p call s groupId) with
      | none => some .skippedNoGrant
      | some grantBlob =>
        (sealFrame s groupId frameType (s.dumps payload) symkey grantBlob).map fun frame => .published frame.toDict

/-- A copy of the new key for each other member with an X25519 key on the roster. -/
def rotationEnvelopes (db : Db) (groupId kickedPubkey : String) : List (String × Json) :=
  db.members.rows.filterMap fun r =>
    let x25519 := PyStr.strip r.2.memberX25519Pub
    if r.1.1 ≠ groupId ∨ r.1.2 = p.me ∨ r.1.2 = kickedPubkey ∨ x25519 = "" then none
    else (s.sealTo x25519 s.symkey).map fun envelope => (r.1.2, .str (s.b64encode envelope))

/-- The payload of a `symkey.rotate` frame. -/
def rotationPayload (db : Db) (groupId kickedPubkey : String) : Json :=
  .obj [("group_id", .str groupId), ("kicked_pubkey", .str kickedPubkey),
    ("envelopes", .obj (rotationEnvelopes p s db groupId kickedPubkey))]

/-- The key that `publish_symkey_rotate` stores on this node. -/
def storeSymkey (db : Db) (groupId : String) : Db :=
  match db.groups.get groupId with
  | none => db
  | some g =>
    let row := { g with groupSymkeyEnc := call.eciesSeal s.symkey }
    { db with groups := db.groups.put groupId row }

def publishSymkeyRotate (db : Db) (groupId kickedPubkey : String) : Option (Db × Publication) :=
  (publishFrame p call s db groupId "symkey.rotate" (rotationPayload p s db groupId kickedPubkey)).map
    fun publication => (storeSymkey call s db groupId, publication)

def Db.removeMember (db : Db) (groupId pubkey : String) : Db :=
  { db with
    members := db.members.delete (groupId, pubkey)
    memberRoles := db.memberRoles.deleteWhere fun k _ => k.1 = groupId && k.2.1 = pubkey
    grants := db.grants.deleteWhere fun _ r => r.groupId = groupId && r.memberPubkey = pubkey }

def kickMember (db : Db) (groupId memberPubkey : String) : Except HttpError (Db × Publication) :=
  match db.liveGroup groupId with
  | none => .error ⟨404, "group not found"⟩
  | some g =>
    if db.hasPermission groupId p.me permMemberKick = false then
      .error ⟨403, "caller lacks permission 'member:kick' in group " ++ groupId⟩
    else if memberPubkey = p.me then .error ⟨409, "cannot kick yourself"⟩
    else if memberPubkey = g.founderPubkey then .error ⟨409, "cannot kick the founder"⟩
    else match db.members.get (groupId, memberPubkey) with
      | none => .error ⟨404, "member not in this group"⟩
      | some _ =>
        -- the rows are gone before the rotation reads the roster
        match publishSymkeyRotate p call s (db.removeMember groupId memberPubkey) groupId
            memberPubkey with
        | none => .error ⟨500, "Internal Server Error"⟩
        | some out => .ok out

def leaveGroup (db : Db) (groupId : String) : Except HttpError (Db × Publication) :=
  match db.liveGroup groupId with
  | none => .error ⟨404, "group not found"⟩
  | some g =>
    if g.founderPubkey = p.me then
      .error ⟨409, "founder cannot leave — delete the group instead"⟩
    else match db.members.get (groupId, p.me) with
      | none => .error ⟨404, "you are not in this group"⟩
      | some _ =>
        match publishSymkeyRotate p call s db groupId p.me with
        | none => .error ⟨500, "Internal Server Error"⟩
        | some (db, publication) => .ok (db.removeMember groupId p.me, publication)

end Publishing

section Lemmas

variable {p : Primitives} {call : Call} {s : Sealing} {db db' : Db} {groupId : String}

theorem sealFrame_isSome {channel frameType : String} {payload symkey grantBlob : List UInt8} :
    (sealFrame s channel frameType payload symkey grantBlob).isSome ↔
      channel ≠ "" ∧ frameType ≠ "" ∧ symkey.length = 32 ∧ grantBlob ≠ [] := by
  unfold sealFrame
  split
  next h =>
    tauto
  next h =>
    tauto

theorem publishFrame_eq_published {frameType : String} {payload envelope : Json} :
    publishFrame p call s db groupId frameType payload = some (.published envelope) ↔
      db.paused groupId = false ∧ ∃ symkey grantBlob frame, db.localSymkey p groupId = some symkey ∧
        (db.localGrantBlob p groupId).or (db.localFounderGrantBlob p call s groupId) = some grantBlob ∧
        sealFrame s groupId frameType (s.dumps payload) symkey grantBlob = some frame ∧ frame.toDict = envelope := by
  unfold publishFrame
  cases hpaused : db.paused groupId with
  | true => simp
  | false =>
    cases hkey : db.localSymkey p groupId with
    | none => simp
    | some symkey =>
      cases hgrant : (db.localGrantBlob p groupId).or
          (db.localFounderGrantBlob p call s groupId) with
      | none => simp
      | some grantBlob => simp

theorem publishSymkeyRotate_eq_some {kickedPubkey : String} {publication : Publication} :
    publishSymkeyRotate p call s db groupId kickedPubkey = some (db', publication) ↔
      publishFrame p call s db groupId "symkey.rotate"
        (rotationPayload p s db groupId kickedPubkey) = some publication ∧ db' = storeSymkey call s db groupId := by
  unfold publishSymkeyRotate
  rw [Option.map_eq_some_iff]
  constructor
  · rintro ⟨publication₁, hpublish, heq⟩
    cases heq
    exact ⟨hpublish, rfl⟩
  rintro ⟨hpublish, rfl⟩
  exact ⟨publication, hpublish, rfl⟩

theorem leaveGroup_eq_ok {publication : Publication} : leaveGroup p call s db groupId = .ok (db', publication) ↔
      (∃ g, db.liveGroup groupId = some g ∧ g.founderPubkey ≠ p.me) ∧ (db.members.get (groupId, p.me)).isSome ∧
      publishFrame p call s db groupId "symkey.rotate" (rotationPayload p s db groupId p.me) = some publication ∧
      db' = (storeSymkey call s db groupId).removeMember groupId p.me := by
  unfold leaveGroup
  constructor
  · intro h
    split at h
    case h_1 => cases h
    case h_2 g hlive =>
    split at h
    case isTrue => cases h
    case isFalse hfounder =>
    split at h
    case h_1 => cases h
    case h_2 row hrow =>
    split at h
    case h_1 => cases h
    case h_2 db₁ publication₁ hrotate =>
      cases h
      obtain ⟨hpublish, rfl⟩ := publishSymkeyRotate_eq_some.mp hrotate
      exact ⟨⟨g, hlive, hfounder⟩, by rw [hrow]; rfl, hpublish, rfl⟩
  · rintro ⟨⟨g, hlive, hfounder⟩, hmember, hpublish, rfl⟩
    obtain ⟨row, hrow⟩ := Option.isSome_iff_exists.mp hmember
    have hrotate := publishSymkeyRotate_eq_some.mpr ⟨hpublish, rfl⟩
    simp only [hlive, if_neg hfounder, hrow, hrotate]

def OpensOwn (p : Primitives) (call : Call) (key : List UInt8) : Prop :=
  call.eciesSeal key ≠ [] ∧ p.eciesOpen (call.eciesSeal key) = some key

instance OpensOwn.instDecidable (p : Primitives) (call : Call) (key : List UInt8) : Decidable (OpensOwn p call key) :=
  inferInstanceAs (Decidable (_ ∧ _))

theorem localSymkey_storeSymkey {g : Group} (hg : db.groups.get groupId = some g) :
    (storeSymkey call s db groupId).localSymkey p groupId = some s.symkey ↔ OpensOwn p call s.symkey := by
  unfold storeSymkey Db.localSymkey OpensOwn
  simp only [hg, Table.get_put_self]
  by_cases hempty : call.eciesSeal s.symkey = []
  · simp [hempty]
  · simp [hempty]

end Lemmas

/-- The member may leave, and the frame has a copy of the key for one who stays. -/
structure LeaveDistributes (p : Primitives) (s : Sealing) (db : Db) (groupId : String) : Prop where
  group : ∃ g, db.liveGroup groupId = some g ∧ g.founderPubkey ≠ p.me ∧ g.paused = false
  named : groupId ≠ ""
  member : (db.members.get (groupId, p.me)).isSome
  key : ∃ symkey, db.localSymkey p groupId = some symkey ∧ symkey.length = 32
  grant : (db.localGrantBlob p groupId).isSome
  copies : rotationEnvelopes p s db groupId p.me ≠ []

/-- The key that this node stores is not the one it handed out. -/
def LeaverKeyDiffers (p : Primitives) (call : Call) (s : Sealing) (db : Db) (groupId : String) : Prop :=
  ∀ db' envelope, leaveGroup p call s db groupId = .ok (db', .published envelope) →
    rotationEnvelopes p s db groupId p.me ≠ [] → db'.localSymkey p groupId ≠ some s.symkey

section Leaving

variable {p : Primitives} {call : Call} {s : Sealing} {db : Db} {groupId : String}

theorem liveGroup_eq_some {g : Group} :
    db.liveGroup groupId = some g ↔ db.groups.get groupId = some g ∧ g.deletedAt = "" := by
  simp [Db.liveGroup, Option.filter_eq_some_iff]

theorem paused_of_get {g : Group} (hg : db.groups.get groupId = some g) : db.paused groupId = g.paused := by
  simp only [Db.paused, hg]

theorem localGrantBlob_ne_nil {blob : List UInt8} (h : db.localGrantBlob p groupId = some blob) : blob ≠ [] := by
  unfold Db.localGrantBlob at h
  dsimp only at h
  split at h
  · cases h
  split at h
  · cases h
  next hne =>
    cases h
    exact hne

theorem leave_published_iff (call : Call) : LeaveDistributes p s db groupId ↔
    (∃ db' envelope, leaveGroup p call s db groupId = .ok (db', .published envelope)) ∧
      rotationEnvelopes p s db groupId p.me ≠ [] := by
  constructor
  · rintro ⟨⟨g, hlive, hfounder, hpaused⟩, hnamed, hmember, ⟨symkey, hkey, hlen⟩, hgrant, hcopies⟩
    obtain ⟨blob, hblob⟩ := Option.isSome_iff_exists.mp hgrant
    have hsealed : (sealFrame s groupId "symkey.rotate"
        (s.dumps (rotationPayload p s db groupId p.me)) symkey blob).isSome :=
      sealFrame_isSome.mpr ⟨hnamed, by decide, hlen, localGrantBlob_ne_nil hblob⟩
    obtain ⟨frame, hframe⟩ := Option.isSome_iff_exists.mp hsealed
    have hpublish : publishFrame p call s db groupId "symkey.rotate"
        (rotationPayload p s db groupId p.me) = some (.published frame.toDict) :=
      publishFrame_eq_published.mpr
        ⟨(paused_of_get (liveGroup_eq_some.mp hlive).1).trans hpaused, symkey, blob, frame, hkey,
          by rw [hblob]; rfl, hframe, rfl⟩
    exact ⟨⟨_, _, leaveGroup_eq_ok.mpr ⟨⟨g, hlive, hfounder⟩, hmember, hpublish, rfl⟩⟩, hcopies⟩
  · rintro ⟨⟨db', envelope, hleave⟩, hcopies⟩
    obtain ⟨⟨g, hlive, hfounder⟩, hmember, hpublish, -⟩ := leaveGroup_eq_ok.mp hleave
    obtain ⟨hpaused, symkey, blob, frame, hkey, hblob, hframe, -⟩ := publishFrame_eq_published.mp hpublish
    obtain ⟨hnamed, -, hlen, -⟩ := sealFrame_isSome.mp (Option.isSome_iff_exists.mpr ⟨frame, hframe⟩)
    -- only the founder could do without a stored grant
    have hnoFounder : db.localFounderGrantBlob p call s groupId = none := by
      simp only [Db.localFounderGrantBlob, (liveGroup_eq_some.mp hlive).1, ne_eq, hfounder, not_false_eq_true, if_true]
    rw [hnoFounder, Option.or_none] at hblob
    exact ⟨⟨g, hlive, hfounder, (paused_of_get (liveGroup_eq_some.mp hlive).1) ▸ hpaused⟩, hnamed,
      hmember, ⟨symkey, hkey, hlen⟩, by rw [hblob]; rfl, hcopies⟩

/-- **The leaver keeps the new key.** -/
theorem leaver_keeps_key_iff (p : Primitives) (call : Call) (s : Sealing) (db : Db) (groupId : String) :
    LeaverKeyDiffers p call s db groupId ↔ ¬(LeaveDistributes p s db groupId ∧ OpensOwn p call s.symkey) := by
  -- the key that a completed leave stores is the new one
  have hstored : ∀ db' envelope, leaveGroup p call s db groupId = .ok (db', .published envelope) →
      (db'.localSymkey p groupId = some s.symkey ↔ OpensOwn p call s.symkey) := by
    intro db' envelope hleave
    obtain ⟨⟨g, hlive, -⟩, -, -, rfl⟩ := leaveGroup_eq_ok.mp hleave
    exact localSymkey_storeSymkey (liveGroup_eq_some.mp hlive).1
  rw [leave_published_iff call]
  constructor
  · rintro hdiffers ⟨⟨⟨db', envelope, hleave⟩, hcopies⟩, hopens⟩
    exact hdiffers db' envelope hleave hcopies ((hstored db' envelope hleave).mpr hopens)
  intro hnot db' envelope hleave hcopies hkey
  exact hnot ⟨⟨⟨db', envelope, hleave⟩, hcopies⟩, (hstored db' envelope hleave).mp hkey⟩

end Leaving

/-! ### One leave

`bob` leaves the group `g` of `alice`. The codecs are those of the example node: a blob is a text,
a grant is the name of its member, and sealing is the identity. -/

def exampleText (bytes : List UInt8) : String := String.ofList (bytes.map fun b => Char.ofNat b.toNat)

/-- What `sender` seals with; the new key consists of `byte`. -/
def exampleSealing (frameId sender : String) (byte : UInt8) : Sealing where
  frameId := frameId
  nonce := exampleBytes "aaaaaaaaaaaa"
  symkey := List.replicate 32 byte
  grantNonce := ""
  expiresAt := "9"
  b64encode := exampleText
  hex := exampleText
  dumps _ := []
  encrypt _ _ payload _ := payload
  sign _ := exampleBytes sender
  sealTo _ key := some key

def exampleLeaverDb : Db :=
  { exampleNode.db with
    members := exampleNode.db.members.put ("g", "alice")
      { joinedAt := "1", lastSeenAt := "1", memberX25519Pub := "key of alice" }
    grants := Table.put ∅ "1" {
      groupId := "g"
      memberPubkey := "bob"
      issuedByPubkey := "alice"
      issuedAt := "1"
      expiresAt := "9"
      nonce := ""
      signature := exampleBytes "bob"
      rolesJson := "[\"member\"]" } }

/-- `bob` leaves, `alice` gets the new key, and so does `bob`. -/
theorem leaver_keeps_key_of_bob : ¬LeaverKeyDiffers { examplePrimitives [] with me := "bob" } ⟨"2", id, fun _ _ => none⟩
      (exampleSealing "1" "bob" 9) exampleLeaverDb "g" := by
  intro hdiffers
  refine hdiffers _ _ rfl ?_ ?_
  · decide +kernel
  · decide +kernel

end NexusGrid.Groups

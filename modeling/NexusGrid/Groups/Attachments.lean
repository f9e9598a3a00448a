import NexusGrid.Groups.Rotation

/-! # Attachments that a node hosts

An attachment above 5 MB stays on the disk of its sender, and on the disks of those who have pulled it
(`runtime/chat_attachments.py`).
-/

namespace NexusGrid.Groups

open Lib

inductive Conversation
  | group (groupId : String)
  | direct (peerUuid : String)
deriving DecidableEq

/-- A file. -/
structure Blob where
  data : List UInt8
  storedFor : Conversation
deriving DecidableEq

/-- A node: its tables, and its directory `chat_attachments`. -/
structure ChatNode where
  db : Db
  blobs : Table String Blob

def maxAttachBytes : Nat := 100 * 1024 * 1024

def inlineAttachMax : Nat := 5 * 1024 * 1024

section Files

variable (isalnum : Char → Bool) (n : ChatNode)

/-- `_path`, without the directory and the suffix; `isalnum` is Python's. -/
def blobName (blobKey : String) : String := String.ofList (blobKey.toList.filter isalnum)

def ChatNode.storeBlob (blobKey : String) (blob : Blob) : ChatNode :=
  { n with blobs := n.blobs.put (blobName isalnum blobKey) blob }

def ChatNode.loadBlob (blobKey : String) : Option (List UInt8) := (n.blobs.get (blobName isalnum blobKey)).map Blob.data

def ChatNode.hasBlob (blobKey : String) : Bool := (n.blobs.get (blobName isalnum blobKey)).isSome

end Files

/-- A message that a user sends, with the id and the name that the node adds. -/
structure OutgoingMessage where
  msgId : String
  body : String
  senderName : String
  replyTo : String
  replySnippet : String
  replySender : String
  attachName : String
  attachMime : String
  attachData : String
deriving DecidableEq

inductive AttachKind
  | none
  | inline (size : Nat)
  | foreign (raw : List UInt8)
deriving DecidableEq

/-- The column `attach_kind`. -/
def AttachKind.text : AttachKind → String
  | none => ""
  | inline _ => "inline"
  | foreign _ => "foreign"

/-- The column `attach_size`. -/
def AttachKind.size : AttachKind → Nat
  | none => 0
  | inline size => size
  | foreign raw => raw.length

section Senders

variable (p : Primitives) (call : Call) (isalnum : Char → Bool) (n : ChatNode)

def attachKindOf (attachData : String) : Except HttpError AttachKind :=
  if attachData = "" then .ok .none
  else match p.b64decode attachData with
    | none => .error ⟨400, "invalid attachment encoding"⟩
    | some raw =>
      if raw.length ≤ inlineAttachMax then .ok (.inline raw.length)
      else if maxAttachBytes < raw.length then .error ⟨413, "attachment too large (max 100MB)"⟩
      else .ok (.foreign raw)

def ChatNode.keepForeign (msgId : String) (conversation : Conversation) : AttachKind → ChatNode
  | .foreign raw => n.storeBlob isalnum msgId ⟨raw, conversation⟩
  | _ => n

def sendGroupMessage (groupId : String) (m : OutgoingMessage) : Except HttpError ChatNode :=
  if PyStr.strip m.body = "" ∧ m.attachData = "" then .error ⟨422, "message or attachment required"⟩
  else match attachKindOf p m.attachData with
    | .error e => .error e
    | .ok kind =>
      match n.db.liveGroup groupId with
      | none => .error ⟨404, "group not found"⟩
      | some _ =>
        if n.db.hasPermission groupId p.me "group:read" = false then
          .error ⟨403, "caller lacks permission 'group:read' in group " ++ groupId⟩
        else if memberIsMuted n.db groupId p.me then .error ⟨403, "you are muted in this group"⟩
        else
          let n := n.keepForeign isalnum m.msgId (.group groupId) kind
          .ok { n with db := { n.db with messages := n.db.messages.put (groupId, m.msgId) {
            senderPubkey := p.me
            senderName := m.senderName
            body := m.body
            sentAt := call.now
            receivedAt := call.now
            deleted := false
            replyTo := m.replyTo
            replySnippet := m.replySnippet
            replySender := m.replySender
            attachKind := kind.text
            attachName := m.attachName
            attachMime := m.attachMime
            attachSize := kind.size
            attachData := if kind.text = "foreign" then "" else m.attachData } } }

/-- `send_direct_message`, without the row. -/
def sendDirectMessage (peerUuid : String) (m : OutgoingMessage) : Except HttpError ChatNode :=
  let peerUuid := PyStr.strip peerUuid
  let text := PyStr.strip m.body
  match attachKindOf p m.attachData with
  | .error e => .error e
  | .ok kind =>
    let attachData := if kind.text = "foreign" then "" else m.attachData
    if peerUuid = "" ∨ (text = "" ∧ attachData = "") then
      .error ⟨400, "peer_uuid and a message or attachment required"⟩
    else if 4000 < text.length then .error ⟨400, "message too long (max 4000)"⟩
    else .ok (n.keepForeign isalnum m.msgId (.direct peerUuid) kind)

/-- The address of a member: `m.peer_address or m.node_id or ""`. -/
def Db.memberAddress (db : Db) (groupId pubkey : String) : String :=
  match db.members.get (groupId, pubkey) with
  | none => ""
  | some m => if m.peerAddress = "" then m.nodeId else m.peerAddress

def pullForeignAttachment (groupId msgId senderPubkey : String) (answer : List UInt8 → Option (List UInt8)) :
    ChatNode :=
  if n.hasBlob isalnum msgId then n
  else match n.db.localSymkey p groupId with
    | none => n
    | some symkey =>
      if n.db.memberAddress groupId senderPubkey = "" then n
      else match answer symkey with
        | none => n
        | some raw => n.storeBlob isalnum msgId ⟨raw, .group groupId⟩

/-- `_pull_foreign_dm`; `none` when a step fails. -/
def pullForeignDm (msgId senderUuid : String) (answer : Option (List UInt8)) : ChatNode :=
  if n.hasBlob isalnum msgId then n
  else match answer with
    | none => n
    | some raw => n.storeBlob isalnum msgId ⟨raw, .direct senderUuid⟩

end Senders

/-- `seal_with_symkey`. -/
structure Sealed where
  key : List UInt8
  nonce : List UInt8
  data : List UInt8
deriving DecidableEq

def peerGroupAttachmentPull (p : Primitives) (isalnum : Char → Bool) (n : ChatNode) (nonce : List UInt8)
    (groupId msgId : String) : Except HttpError Sealed :=
  match n.loadBlob isalnum msgId with
  | none => .error ⟨404, "attachment not hosted here"⟩
  | some raw =>
    match n.db.localSymkey p groupId with
    | none => .error ⟨404, "no symkey for channel"⟩
    | some symkey => .ok ⟨symkey, nonce, raw⟩

inductive ChatEvent
  | sendGroup (call : Call) (groupId : String) (m : OutgoingMessage)
  | sendDirect (peerUuid : String) (m : OutgoingMessage)
  | pullGroup (groupId msgId senderPubkey : String) (answer : List UInt8 → Option (List UInt8))
  | pullDirect (msgId senderUuid : String) (answer : Option (List UInt8))
  | tables (db : Db)

def ChatNode.step (p : Primitives) (isalnum : Char → Bool) (n : ChatNode) : ChatEvent → ChatNode
  | .sendGroup call groupId m => (sendGroupMessage p call isalnum n groupId m).toOption.getD n
  | .sendDirect peerUuid m => (sendDirectMessage p isalnum n peerUuid m).toOption.getD n
  | .pullGroup groupId msgId senderPubkey answer => pullForeignAttachment p isalnum n groupId msgId senderPubkey answer
  | .pullDirect msgId senderUuid answer => pullForeignDm isalnum n msgId senderUuid answer
  | .tables db => { n with db := db }

section Results

variable {p : Primitives} {call : Call} {isalnum : Char → Bool} {n n' : ChatNode}

theorem blobs_keepForeign (isalnum : Char → Bool) (n : ChatNode) (msgId : String) (conversation : Conversation)
    (kind : AttachKind) :
    (n.keepForeign isalnum msgId conversation kind).blobs = n.blobs ∨
      ∃ blob, (n.keepForeign isalnum msgId conversation kind).blobs = n.blobs.put (blobName isalnum msgId) blob := by
  cases kind with
  | none => exact .inl rfl
  | inline size => exact .inl rfl
  | foreign raw => exact .inr ⟨_, rfl⟩

theorem blobs_sendGroupMessage {groupId : String} {m : OutgoingMessage}
    (h : sendGroupMessage p call isalnum n groupId m = .ok n') :
    ∃ kind, n'.blobs = (n.keepForeign isalnum m.msgId (.group groupId) kind).blobs := by
  unfold sendGroupMessage at h
  split at h
  · cases h
  split at h
  · cases h
  next kind _ =>
    split at h
    · cases h
    split at h
    · cases h
    split at h
    · cases h
    cases h
    exact ⟨kind, rfl⟩

theorem blobs_sendDirectMessage {peerUuid : String} {m : OutgoingMessage}
    (h : sendDirectMessage p isalnum n peerUuid m = .ok n') :
    ∃ kind, n'.blobs = (n.keepForeign isalnum m.msgId (.direct (PyStr.strip peerUuid)) kind).blobs := by
  unfold sendDirectMessage at h
  cases hkind : attachKindOf p m.attachData with
  | error e =>
    rw [hkind] at h
    cases h
  | ok kind =>
    simp only [hkind] at h
    generalize (if kind.text = "foreign" then "" else m.attachData) = attachData at h
    split at h
    · cases h
    split at h
    · cases h
    cases h
    exact ⟨kind, rfl⟩

theorem blobs_pullForeignAttachment (n : ChatNode) (groupId msgId senderPubkey : String)
    (answer : List UInt8 → Option (List UInt8)) :
    (pullForeignAttachment p isalnum n groupId msgId senderPubkey answer).blobs = n.blobs ∨
      ∃ blob, (pullForeignAttachment p isalnum n groupId msgId senderPubkey answer).blobs =
        n.blobs.put (blobName isalnum msgId) blob := by
  unfold pullForeignAttachment
  split
  · exact .inl rfl
  split
  · exact .inl rfl
  split
  · exact .inl rfl
  split
  · exact .inl rfl
  · exact .inr ⟨_, rfl⟩

theorem blobs_pullForeignDm (n : ChatNode) (msgId senderUuid : String) (answer : Option (List UInt8)) :
    (pullForeignDm isalnum n msgId senderUuid answer).blobs = n.blobs ∨
      ∃ blob, (pullForeignDm isalnum n msgId senderUuid answer).blobs = n.blobs.put (blobName isalnum msgId) blob := by
  unfold pullForeignDm
  split
  · exact .inl rfl
  split
  · exact .inl rfl
  · exact .inr ⟨_, rfl⟩

theorem blobs_step (n : ChatNode) (e : ChatEvent) : (n.step p isalnum e).blobs = n.blobs ∨
      ∃ msgId blob, (n.step p isalnum e).blobs = n.blobs.put (blobName isalnum msgId) blob := by
  cases e with
  | sendGroup call groupId m =>
    cases hsend : sendGroupMessage p call isalnum n groupId m with
    | error e => simp [ChatNode.step, hsend, Except.toOption]
    | ok n' =>
      simp only [ChatNode.step, hsend, Except.toOption, Option.getD_some]
      obtain ⟨kind, hblobs⟩ := blobs_sendGroupMessage hsend
      rcases blobs_keepForeign isalnum n m.msgId (.group groupId) kind with h | ⟨blob, h⟩
      · exact .inl (hblobs.trans h)
      · exact .inr ⟨m.msgId, blob, hblobs.trans h⟩
  | sendDirect peerUuid m =>
    cases hsend : sendDirectMessage p isalnum n peerUuid m with
    | error e => simp [ChatNode.step, hsend, Except.toOption]
    | ok n' =>
      simp only [ChatNode.step, hsend, Except.toOption, Option.getD_some]
      obtain ⟨kind, hblobs⟩ := blobs_sendDirectMessage hsend
      rcases blobs_keepForeign isalnum n m.msgId (.direct (PyStr.strip peerUuid)) kind with h | ⟨blob, h⟩
      · exact .inl (hblobs.trans h)
      · exact .inr ⟨m.msgId, blob, hblobs.trans h⟩
  | pullGroup groupId msgId senderPubkey answer =>
    rcases blobs_pullForeignAttachment n groupId msgId senderPubkey answer with h | ⟨blob, h⟩
    · exact .inl h
    · exact .inr ⟨msgId, blob, h⟩
  | pullDirect msgId senderUuid answer =>
    rcases blobs_pullForeignDm n msgId senderUuid answer with h | ⟨blob, h⟩
    · exact .inl h
    · exact .inr ⟨msgId, blob, h⟩
  | tables db => exact .inl rfl

def Named (isalnum : Char → Bool) (n : ChatNode) : Prop :=
  ∀ name blob, n.blobs.get name = some blob → ∃ msgId, name = blobName isalnum msgId

theorem Named.step (h : Named isalnum n) (e : ChatEvent) : Named isalnum (n.step p isalnum e) := by
  intro name blob hget
  rcases blobs_step n e with hblobs | ⟨msgId, blob', hblobs⟩
  · rw [hblobs] at hget
    exact h name blob hget
  rw [hblobs, Table.get_put] at hget
  by_cases hname : name = blobName isalnum msgId
  · exact ⟨msgId, hname⟩
  rw [if_neg hname] at hget
  exact h name blob hget

theorem named_run (db : Db) (es : List ChatEvent) : Named isalnum (run (ChatNode.step p isalnum) ⟨db, ∅⟩ es) := by
  refine run_invariant_of_step (fun n e h => h.step e) ?_ es
  intro name blob hget
  cases hget

theorem peerGroupAttachmentPull_eq_ok {nonce : List UInt8} {groupId msgId : String} {s : Sealed} :
    peerGroupAttachmentPull p isalnum n nonce groupId msgId = .ok s ↔
      ∃ blob key, n.blobs.get (blobName isalnum msgId) = some blob ∧ n.db.localSymkey p groupId = some key ∧
        s = ⟨key, nonce, blob.data⟩ := by
  unfold peerGroupAttachmentPull ChatNode.loadBlob
  cases hblob : n.blobs.get (blobName isalnum msgId) with
  | none => simp
  | some blob =>
    cases hkey : n.db.localSymkey p groupId with
    | none => simp
    | some key => simp [eq_comm]

/-- The key is the conversation's: a direct message has none. -/
def Conversation.HasKey (p : Primitives) (db : Db) (key : List UInt8) : Conversation → Prop
  | .group groupId => db.localSymkey p groupId = some key
  | .direct _ => False

/-- What is released of a file is sealed with the key of its conversation. -/
def Confined (p : Primitives) (isalnum : Char → Bool) (n : ChatNode) : Prop :=
  ∀ nonce groupId msgId s, peerGroupAttachmentPull p isalnum n nonce groupId msgId = .ok s →
    ∃ blob, n.blobs.get (blobName isalnum msgId) = some blob ∧ s.data = blob.data ∧ blob.storedFor.HasKey p n.db s.key

/-- **When attachments stay in their conversation.** -/
theorem released_iff (p : Primitives) (isalnum : Char → Bool) (db : Db) (es : List ChatEvent) :
    let n := run (ChatNode.step p isalnum) ⟨db, ∅⟩ es
    Confined p isalnum n ↔
      ∀ name blob, n.blobs.get name = some blob → ∀ groupId key, n.db.localSymkey p groupId = some key →
        blob.storedFor.HasKey p n.db key := by
  intro n
  have hnamed : Named isalnum n := named_run db es
  constructor
  · intro h name blob hblob groupId key hkey
    obtain ⟨msgId, rfl⟩ := hnamed name blob hblob
    have hreleased : peerGroupAttachmentPull p isalnum n [] groupId msgId = .ok ⟨key, [], blob.data⟩ :=
      peerGroupAttachmentPull_eq_ok.mpr ⟨blob, key, hblob, hkey, rfl⟩
    obtain ⟨blob', hblob', -, hkey'⟩ := h [] groupId msgId _ hreleased
    rw [hblob] at hblob'
    cases hblob'
    exact hkey'
  intro h nonce groupId msgId s hs
  obtain ⟨blob, key, hblob, hkey, rfl⟩ := peerGroupAttachmentPull_eq_ok.mp hs
  exact ⟨blob, hblob, rfl, h _ blob hblob groupId key hkey⟩

end Results

/-! ### Two groups

`carol` is a member of `g` and of `h`, which have different keys. -/

/-- The tables of `carol`. -/
def exampleGroups : Db :=
  { exampleNode.db with
    groups := Table.putAll ∅ [("g", { founderPubkey := "alice", groupSymkeyEnc := [1] }),
      ("h", { founderPubkey := "alice", groupSymkeyEnc := [2] })]
    members := Table.putAll ∅ [(("g", "bob"), { joinedAt := "1", peerAddress := "10.0.0.2" })] }

def exampleHosting : ChatNode := run (ChatNode.step (examplePrimitives []) Char.isAlphanum) ⟨exampleGroups, ∅⟩
    [.pullGroup "g" "m1" "bob" fun _ => some [10], .pullDirect "m2" "dave" (some [20])]

/-- **Released elsewhere.** Whoever asks in the name of `h` gets both files under the key of `h`. -/
theorem released_elsewhere :
    exampleHosting.blobs.get "m1" = some ⟨[10], .group "g"⟩ ∧ exampleHosting.blobs.get "m2" =
      some ⟨[20], .direct "dave"⟩ ∧
      exampleHosting.db.localSymkey (examplePrimitives []) "g" = some [1] ∧
      peerGroupAttachmentPull (examplePrimitives []) Char.isAlphanum exampleHosting [0] "h" "m1" =
        .ok ⟨[2], [0], [10]⟩ ∧
      peerGroupAttachmentPull (examplePrimitives []) Char.isAlphanum exampleHosting [0] "h" "m2" =
        .ok ⟨[2], [0], [20]⟩ := by
  decide +kernel

end NexusGrid.Groups

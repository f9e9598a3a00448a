import NexusGrid.Lib.JsonText
import NexusGrid.Groups.Handlers

/-! # What gets signed

The eight operations that sign with a node's Ed25519 key, up to the bytes they pass to the signer.
-/

namespace NexusGrid.Security

open Lib Groups

structure Primitives where
  /-- `none` when the private key does not load. -/
  derive : String → Option String
  sha256 : List UInt8 → List UInt8
  /-- `ChaCha20Poly1305(key).encrypt(nonce, payload, aad)`. -/
  encrypt : List UInt8 → List UInt8 → List UInt8 → List UInt8 → List UInt8

/-! Each operation gives the bytes that it passes to the signer, and `none` when it raises before that. -/

section Operations

variable (p : Primitives)

def grantFields (groupId memberPubkey : String) (roles : List String)
    (issuerPubkey issuedAt expiresAt nonce : String) : List (String × Json) :=
  [("group_id", .str groupId), ("member_pubkey", .str memberPubkey), ("roles", .arr (roles.map .str)),
    ("issued_by_pubkey", .str issuerPubkey), ("issued_at", .str issuedAt),
    ("expires_at", .str expiresAt), ("nonce", .str nonce)]

def signGrant (groupId memberPubkey : String) (roles : List String)
    (adminPrivkey issuedAt expiresAt nonce : String) : Option (List UInt8) :=
  if memberPubkey.length ≠ 64 then none
  else (p.derive adminPrivkey).map fun issuerPubkey =>
    Json.canonical (.obj (grantFields groupId memberPubkey roles issuerPubkey issuedAt expiresAt nonce))

def signChallenge (grantBlob nonce : List UInt8) (memberPrivkey : String) : Option (List UInt8) :=
  (p.derive memberPrivkey).map fun _ => utf8 "nexus.group.challenge.v1|" ++ nonce ++ p.sha256 grantBlob

def inviteChecks (pubkey privkey : String) (maxUses : Int) : Bool :=
  pubkey.length = 64 && privkey.length = 64 && 1 ≤ maxUses && p.derive privkey = some pubkey

def pairInviteFields (inviteId issuerPubkey issuedAt expiresAt : String) (maxUses : Int) : List (String × Json) :=
  [("invite_id", .str inviteId), ("issuer_pubkey", .str issuerPubkey), ("issued_at", .str issuedAt),
    ("expires_at", .str expiresAt), ("max_uses", .int maxUses)]

def signPairInvite (inviteId issuerPubkey issuedAt expiresAt : String) (maxUses : Int)
    (issuerPrivkey : String) : Option (List UInt8) :=
  if inviteChecks p issuerPubkey issuerPrivkey maxUses then
    some (Json.canonical (.obj (pairInviteFields inviteId issuerPubkey issuedAt expiresAt maxUses)))
  else none

def groupJoinInviteFields (inviteId groupId founderPubkey issuedAt expiresAt : String) (maxUses : Int) :
    List (String × Json) :=
  [("invite_id", .str inviteId), ("group_id", .str groupId), ("founder_pubkey", .str founderPubkey),
    ("issued_at", .str issuedAt), ("expires_at", .str expiresAt), ("max_uses", .int maxUses)]

def signGroupJoinInvite (inviteId groupId founderPubkey issuedAt expiresAt : String) (maxUses : Int)
    (founderPrivkey : String) : Option (List UInt8) :=
  if inviteChecks p founderPubkey founderPrivkey maxUses then
    some (Json.canonical
      (.obj (groupJoinInviteFields inviteId groupId founderPubkey issuedAt expiresAt maxUses)))
  else none

/-- `seal_frame`, with the id and the nonce that it draws. -/
def sealFrame (channel frameType : String) (payload symkey grantBlob : List UInt8) (senderPrivkey : String)
    (frameId : Option String) (uuid : String) (nonce : List UInt8) : Option (List UInt8) :=
  if channel = "" ∨ frameType = "" ∨ symkey.length ≠ 32 ∨ grantBlob = [] then none
  else
    let id := match frameId with
      | none => uuid
      | some id => if id = "" then uuid else id
    let frame : GroupFrame := ⟨id, channel, frameType, "", "", "", ""⟩
    (p.derive senderPrivkey).map fun _ => frame.signatureMaterial nonce (p.encrypt symkey nonce payload frame.aad)

def signReceipt (receipt : List (String × Json)) (consumerPrivkey : String) : Option (List UInt8) :=
  (p.derive consumerPrivkey).map fun _ =>
    utf8 "nexus-usage-receipt-v1" ++ [0] ++ Json.canonical (.obj (receiptFields.map fun k => (k, Json.get receipt k)))

/-- `{"_kind": kind, **payload}`. -/
def statementBody (kind : String) (payload : List (String × Json)) : List (String × Json) :=
  ("_kind", (payload.lookup "_kind").getD (.str kind)) :: payload.filter fun f => f.1 ≠ "_kind"

/-- The bytes that `sign_statement` signs and `verify_statement` checks. -/
def statementMessage (kind : String) (payload : List (String × Json)) : List UInt8 :=
  utf8 "nexus-signed-statement-v1" ++ [0] ++ Json.canonical (.obj (statementBody kind payload))

def signStatement (kind : String) (payload : List (String × Json)) (privkey : String) : Option (List UInt8) :=
  (p.derive privkey).map fun _ => statementMessage kind payload

def signWorkerProof (taskId workerPubkey : String) (elapsedSecs : Int) (privkey : String) : Option (List UInt8) :=
  (p.derive privkey).map fun _ =>
    utf8 "nexus-worker-proof-v1" ++ [0] ++ Json.canonical (.obj [("task_id", .str taskId),
      ("worker_pubkey", .str workerPubkey), ("elapsed_secs", .int elapsedSecs)])

end Operations

inductive Operation
  | grant
  | challenge
  | pairInvite
  | groupJoinInvite
  | frame
  | receipt
  | statement
  | workerProof
deriving DecidableEq

inductive SigningCall
  | grant (groupId memberPubkey : String) (roles : List String)
      (adminPrivkey issuedAt expiresAt nonce : String)
  | challenge (grantBlob nonce : List UInt8) (memberPrivkey : String)
  | pairInvite (inviteId issuerPubkey issuedAt expiresAt : String) (maxUses : Int) (issuerPrivkey : String)
  | groupJoinInvite (inviteId groupId founderPubkey issuedAt expiresAt : String) (maxUses : Int)
      (founderPrivkey : String)
  | frame (channel frameType : String) (payload symkey grantBlob : List UInt8) (senderPrivkey : String)
      (frameId : Option String) (uuid : String) (nonce : List UInt8)
  | receipt (fields : List (String × Json)) (consumerPrivkey : String)
  | statement (kind : String) (payload : List (String × Json)) (privkey : String)
  | workerProof (taskId workerPubkey : String) (elapsedSecs : Int) (privkey : String)

namespace SigningCall

def operation : SigningCall → Operation
  | grant .. => .grant
  | challenge .. => .challenge
  | pairInvite .. => .pairInvite
  | groupJoinInvite .. => .groupJoinInvite
  | frame .. => .frame
  | receipt .. => .receipt
  | statement .. => .statement
  | workerProof .. => .workerProof

def signed (p : Primitives) : SigningCall → Option (List UInt8)
  | grant groupId memberPubkey roles adminPrivkey issuedAt expiresAt nonce =>
    signGrant p groupId memberPubkey roles adminPrivkey issuedAt expiresAt nonce
  | challenge grantBlob nonce memberPrivkey => signChallenge p grantBlob nonce memberPrivkey
  | pairInvite inviteId issuerPubkey issuedAt expiresAt maxUses issuerPrivkey =>
    signPairInvite p inviteId issuerPubkey issuedAt expiresAt maxUses issuerPrivkey
  | groupJoinInvite inviteId groupId founderPubkey issuedAt expiresAt maxUses founderPrivkey =>
    signGroupJoinInvite p inviteId groupId founderPubkey issuedAt expiresAt maxUses founderPrivkey
  | frame channel frameType payload symkey grantBlob senderPrivkey frameId uuid nonce =>
    sealFrame p channel frameType payload symkey grantBlob senderPrivkey frameId uuid nonce
  | receipt fields consumerPrivkey => signReceipt p fields consumerPrivkey
  | statement kind payload privkey => signStatement p kind payload privkey
  | workerProof taskId workerPubkey elapsedSecs privkey => signWorkerProof p taskId workerPubkey elapsedSecs privkey

end SigningCall

def Operation.domain : Operation → String
  | challenge => "nexus.group.challenge.v1|"
  | frame => "nexus.group.frame.sig.v1|"
  | receipt => "nexus-usage-receipt-v1"
  | statement => "nexus-signed-statement-v1"
  | workerProof => "nexus-worker-proof-v1"
  | _ => ""

/-- The key after `expires_at` in the object that is signed. -/
def Operation.secondKey : Operation → Option String
  | grant => some "group_id"
  | pairInvite => some "invite_id"
  | groupJoinInvite => some "founder_pubkey"
  | _ => none

/-- The text of an object with `expires_at` first and the given key second. -/
def bareObject (expiresAt key : String) (rest : List Char) : List Char :=
  '\x7b' :: (Json.quote "expires_at" ++ ':' :: (Json.quote expiresAt ++ ',' :: (Json.quote key ++ rest)))

theorem bareObject_inj {e e' k k' : String} {x x' : List Char}
    (h : bareObject e k x = bareObject e' k' x') : k = k' := by
  obtain ⟨-, h⟩ := Json.quote_append_inj (List.cons.inj h).2
  obtain ⟨-, h⟩ := Json.quote_append_inj (List.cons.inj h).2
  exact (Json.quote_append_inj (List.cons.inj h).2).1

section Bare

open Json

theorem encode_bareObject {fields : List (String × Json)} {e k : String}
    (h : ∃ t rest, sortKeys (encodeFields fields) = ("expires_at", quote e) :: (k, t) :: rest) :
    ∃ x, encode (.obj fields) = bareObject e k x := by
  obtain ⟨t, rest, h⟩ := h
  rw [encode, h, List.map_cons, List.map_cons, List.intercalate_cons_cons]
  cases rest with
  | nil => exact ⟨_, by simp [bareObject, member]; rfl⟩
  | cons f rest => exact ⟨_, by simp [bareObject, member, List.intercalate_cons_cons]; rfl⟩

theorem grant_bareObject (groupId memberPubkey : String) (roles : List String)
    (issuerPubkey issuedAt expiresAt nonce : String) :
    ∃ x, encode (.obj (grantFields groupId memberPubkey roles issuerPubkey issuedAt expiresAt nonce)) =
      bareObject expiresAt "group_id" x := by
  refine encode_bareObject ⟨quote groupId, [("issued_at", quote issuedAt),
    ("issued_by_pubkey", quote issuerPubkey), ("member_pubkey", quote memberPubkey),
    ("nonce", quote nonce), ("roles", encode (.arr (roles.map .str)))], ?_⟩
  simp +decide only [grantFields, encodeFields, encode, sortKeys, List.insertionSort_cons,
    List.insertionSort_nil, List.orderedInsert_cons, List.orderedInsert_nil, if_true, if_false]

theorem pairInvite_bareObject (inviteId issuerPubkey issuedAt expiresAt : String) (maxUses : Int) :
    ∃ x, encode (.obj (pairInviteFields inviteId issuerPubkey issuedAt expiresAt maxUses)) =
      bareObject expiresAt "invite_id" x := by
  refine encode_bareObject ⟨quote inviteId, [("issued_at", quote issuedAt),
    ("issuer_pubkey", quote issuerPubkey), ("max_uses", encode (.int maxUses))], ?_⟩
  simp +decide only [pairInviteFields, encodeFields, encode, sortKeys, List.insertionSort_cons,
    List.insertionSort_nil, List.orderedInsert_cons, List.orderedInsert_nil, if_true, if_false]

theorem groupJoinInvite_bareObject (inviteId groupId founderPubkey issuedAt expiresAt : String) (maxUses : Int) :
    ∃ x, encode (.obj (groupJoinInviteFields inviteId groupId founderPubkey issuedAt expiresAt maxUses)) =
        bareObject expiresAt "founder_pubkey" x := by
  refine encode_bareObject ⟨quote founderPubkey, [("group_id", quote groupId),
    ("invite_id", quote inviteId), ("issued_at", quote issuedAt), ("max_uses", encode (.int maxUses))], ?_⟩
  simp +decide only [groupJoinInviteFields, encodeFields, encode, sortKeys, List.insertionSort_cons,
    List.insertionSort_nil, List.orderedInsert_cons, List.orderedInsert_nil, if_true, if_false]

end Bare

/-- It starts with the text of its operation, or has its second key. -/
inductive Starts (op : Operation) (message : List UInt8) : Prop
  | domain (h : utf8 op.domain <+: message) (hdomain : op.domain ≠ "")
  | object (v : Json) (hv : v.Loaded) (heq : message = v.canonical) (e k : String) (x : List Char)
      (hkey : op.secondKey = some k) (h : v.encode = bareObject e k x)

theorem starts_domain (op : Operation) (hne : op.domain ≠ "") (rest : List UInt8) :
    Starts op (utf8 op.domain ++ rest) := .domain (List.prefix_append _ _) hne

theorem loaded_strings {fields : List (String × Json)} (hkeys : (fields.map Prod.fst).Nodup)
    (h : ∀ f ∈ fields, (∃ s, f.2 = .str s) ∨ (∃ n, f.2 = .int n) ∨ ∃ l : List String, f.2 = .arr (l.map .str)) :
    Json.Loaded (.obj fields) := by
  refine .obj _ hkeys fun f hf => ?_
  rcases h f hf with ⟨s, hs⟩ | ⟨n, hn⟩ | ⟨l, hl⟩
  · rw [hs]
    exact .str s
  · rw [hn]
    exact .int n
  rw [hl]
  refine .arr _ fun v hv => ?_
  obtain ⟨s, -, rfl⟩ := List.mem_map.mp hv
  exact .str s

theorem starts_signed {p : Primitives} {c : SigningCall} {message : List UInt8}
    (h : c.signed p = some message) : Starts c.operation message := by
  cases c with
  | grant groupId memberPubkey roles adminPrivkey issuedAt expiresAt nonce =>
    simp only [SigningCall.signed, signGrant, Option.ite_none_left_eq_some, Option.map_eq_some_iff] at h
    obtain ⟨-, issuer, -, rfl⟩ := h
    obtain ⟨x, hx⟩ := grant_bareObject groupId memberPubkey roles issuer issuedAt expiresAt nonce
    refine .object _ (loaded_strings ?_ ?_) rfl _ _ x rfl hx
    · simp [grantFields]
    · simp [grantFields]
  | pairInvite inviteId issuerPubkey issuedAt expiresAt maxUses issuerPrivkey =>
    simp only [SigningCall.signed, signPairInvite, Option.ite_none_right_eq_some, Option.some.injEq] at h
    obtain ⟨-, rfl⟩ := h
    obtain ⟨x, hx⟩ := pairInvite_bareObject inviteId issuerPubkey issuedAt expiresAt maxUses
    refine .object _ (loaded_strings ?_ ?_) rfl _ _ x rfl hx
    · simp [pairInviteFields]
    · simp [pairInviteFields]
  | groupJoinInvite inviteId groupId founderPubkey issuedAt expiresAt maxUses founderPrivkey =>
    simp only [SigningCall.signed, signGroupJoinInvite, Option.ite_none_right_eq_some, Option.some.injEq] at h
    obtain ⟨-, rfl⟩ := h
    obtain ⟨x, hx⟩ := groupJoinInvite_bareObject inviteId groupId founderPubkey issuedAt expiresAt maxUses
    refine .object _ (loaded_strings ?_ ?_) rfl _ _ x rfl hx
    · simp [groupJoinInviteFields]
    · simp [groupJoinInviteFields]
  | challenge grantBlob nonce memberPrivkey =>
    simp only [SigningCall.signed, signChallenge, Option.map_eq_some_iff, List.append_assoc] at h
    obtain ⟨-, -, rfl⟩ := h
    exact starts_domain .challenge (by decide) _
  | frame channel frameType payload symkey grantBlob senderPrivkey frameId uuid nonce =>
    simp only [SigningCall.signed, sealFrame, Option.ite_none_left_eq_some, Option.map_eq_some_iff,
      GroupFrame.signatureMaterial, List.append_assoc] at h
    obtain ⟨-, -, -, rfl⟩ := h
    exact starts_domain .frame (by decide) _
  | receipt fields consumerPrivkey =>
    simp only [SigningCall.signed, signReceipt, Option.map_eq_some_iff, List.append_assoc] at h
    obtain ⟨-, -, rfl⟩ := h
    exact starts_domain .receipt (by decide) _
  | statement kind payload privkey =>
    simp only [SigningCall.signed, signStatement, statementMessage, Option.map_eq_some_iff, List.append_assoc] at h
    obtain ⟨-, -, rfl⟩ := h
    exact starts_domain .statement (by decide) _
  | workerProof taskId workerPubkey elapsedSecs privkey =>
    simp only [SigningCall.signed, signWorkerProof, Option.map_eq_some_iff, List.append_assoc] at h
    obtain ⟨-, -, rfl⟩ := h
    exact starts_domain .workerProof (by decide) _

theorem domain_not_prefix {op op' : Operation} (hne : op ≠ op') (h : op.domain ≠ "")
    (h' : op'.domain ≠ "") : ¬ utf8 op.domain <+: utf8 op'.domain := by
  cases op <;> cases op' <;>
    first | exact absurd rfl hne | exact absurd rfl h | exact absurd rfl h' | decide +kernel

theorem domain_not_prefix_object {op : Operation} (h : op.domain ≠ "") {v : Json} {e k : String}
    {x : List Char} (hv : v.encode = bareObject e k x) : ¬ utf8 op.domain <+: v.canonical := by
  rintro ⟨rest, hrest⟩
  have hhead : (utf8 op.domain).head? = some 110 := by cases op <;> first | exact absurd rfl h | decide +kernel
  have hbrace : v.canonical.head? = some 123 := by
    rw [Json.canonical, hv]
    rfl
  rw [← hrest, List.head?_append, hhead] at hbrace
  cases hbrace

theorem secondKey_inj {op op' : Operation} (h : op.secondKey = op'.secondKey)
    (hsome : op.secondKey ≠ none) : op = op' := by
  cases op <;> cases op' <;> first | rfl | exact absurd rfl hsome | exact absurd h (by decide)

/-- **Different operations sign different bytes.** -/
theorem signed_bytes_differ (p : Primitives) (c d : SigningCall) (hop : c.operation ≠ d.operation)
    (message : List UInt8) (hc : c.signed p = some message) : d.signed p ≠ some message := by
  intro hd
  rcases starts_signed hc with ⟨hdom, hne⟩ | ⟨v, hv, rfl, e, k, x, hk, hx⟩
  · rcases starts_signed hd with ⟨hdom', hne'⟩ | ⟨w, hw, rfl, e', k', x', hk', hx'⟩
    · rcases List.prefix_or_prefix_of_prefix hdom hdom' with h | h
      · exact domain_not_prefix hop hne hne' h
      · exact domain_not_prefix hop.symm hne' hne h
    · exact domain_not_prefix_object hne hx' hdom
  rcases starts_signed hd with ⟨hdom', hne'⟩ | ⟨w, hw, hvw, e', k', x', hk', hx'⟩
  · exact domain_not_prefix_object hne' hx hdom'
  -- Two bare objects: their second keys agree, so they are objects of one operation.
  have htext := (Json.canonical_eq_iff hv hw).mp hvw
  rw [hx, hx'] at htext
  obtain rfl := bareObject_inj htext
  exact hop (secondKey_inj (hk.trans hk'.symm) (by rw [hk]; nofun))

theorem signed_bytes_differ_invite :
    let p : Primitives := ⟨fun _ => some (String.ofList (List.replicate 64 '0')), id, fun _ _ _ _ => []⟩
    let key := String.ofList (List.replicate 64 '0')
    ∃ message, (SigningCall.pairInvite "" key "" "" 1 key).signed p = some message ∧
      (SigningCall.groupJoinInvite "" "" key "" "" 1 key).signed p ≠ some message := by
  intro p key
  have hsome : ((SigningCall.pairInvite "" key "" "" 1 key).signed p).isSome := by decide +kernel
  obtain ⟨message, hmessage⟩ := Option.isSome_iff_exists.mp hsome
  exact ⟨message, hmessage, signed_bytes_differ p _ _ (by decide) message hmessage⟩

section Statements

open Json

variable {kind kind' : String} {payload payload' : List (String × Json)}

def kindText (kind : String) (payload : List (String × Json)) : List Char :=
  ((payload.lookup "_kind").getD (.str kind)).encode

theorem lookup_statementBody (kind : String) (payload : List (String × Json)) (k : String) :
    (statementBody kind payload).lookup k =
      if k = "_kind" then some ((payload.lookup "_kind").getD (.str kind)) else payload.lookup k := by
  unfold statementBody
  by_cases hk : k = "_kind"
  · subst hk
    simp
  have hbeq : (k == "_kind") = false := beq_eq_false_iff_ne.mpr hk
  rw [List.lookup_cons, hbeq, if_neg hk]
  exact lookup_filter_ne hk payload

theorem loaded_statementBody (h : Loaded (.obj payload)) (kind : String) :
    Loaded (.obj (statementBody kind payload)) := by
  obtain ⟨hkeys, hvalues⟩ := loaded_obj h
  have hsub : (payload.filter fun f => f.1 ≠ "_kind").Sublist payload := List.filter_sublist
  refine .obj _ (List.nodup_cons.mpr ⟨?_, hkeys.sublist (hsub.map Prod.fst)⟩) fun f hf => ?_
  · intro hmem
    obtain ⟨f, hf, hkey⟩ := List.mem_map.mp hmem
    exact of_decide_eq_true (List.mem_filter.mp hf).2 hkey
  rcases List.mem_cons.mp hf with rfl | hf
  · cases hlookup : payload.lookup "_kind" with
    | none => exact .str kind
    | some v => exact hvalues _ ((lookup_eq_some_iff_mem hkeys "_kind" v).mp hlookup)
  · exact hvalues f (hsub.subset hf)

theorem statementMessage_eq_iff (h : Loaded (.obj payload)) (h' : Loaded (.obj payload')) :
    statementMessage kind payload = statementMessage kind' payload' ↔ kindText kind payload = kindText kind' payload' ∧
      ∀ k, k ≠ "_kind" → (payload.lookup k).map encode = (payload'.lookup k).map encode := by
  have hbody := loaded_statementBody h kind
  have hbody' := loaded_statementBody h' kind'
  rw [statementMessage, statementMessage, List.append_cancel_left_eq, canonical_eq_iff hbody hbody',
    encode_obj_eq_iff hbody hbody']
  simp only [lookup_statementBody]
  constructor
  · intro heq
    refine ⟨by simpa [kindText] using heq "_kind", fun k hk => ?_⟩
    simpa [hk] using heq k
  rintro ⟨hkind, hrest⟩ k
  by_cases hk : k = "_kind"
  · subst hk
    simpa [kindText] using hkind
  · simpa [hk] using hrest k hk

/-- **When two statements have different bytes.** -/
theorem statement_bytes_differ_iff (kind kind' : String) (hkind : kind ≠ kind')
    (payload payload' : List (String × Json)) (h : Loaded (.obj payload)) (h' : Loaded (.obj payload')) :
    (statementMessage kind payload ≠ statementMessage kind' payload' ↔ kindText kind payload ≠ kindText kind' payload' ∨
      ∃ k, k ≠ "_kind" ∧ (payload.lookup k).map encode ≠ (payload'.lookup k).map encode) ∧
    (payload.lookup "_kind" = none → payload'.lookup "_kind" = none →
      statementMessage kind payload ≠ statementMessage kind' payload') := by
  rw [ne_eq, statementMessage_eq_iff h h']
  refine ⟨?_, fun hnone hnone' heq => ?_⟩
  · rw [not_and_or]
    simp only [not_forall, exists_prop, ne_eq]
  have htext := heq.1
  simp only [kindText, hnone, hnone', Option.getD_none, encode] at htext
  obtain ⟨hsame, -⟩ := quote_append_inj (congrArg (· ++ []) htext)
  exact hkind hsame

/-- Two statements with the same payload differ by their kinds. -/
theorem statement_bytes_differ_iff_plain :
    statementMessage "service_request" [("id", .str "1")] ≠ statementMessage "dm" [("id", .str "1")] :=
  have hloaded : Loaded (.obj [("id", .str "1")]) := loaded_strings (by decide) (by simp)
  (statement_bytes_differ_iff "service_request" "dm" (by decide) _ _ hloaded hloaded).2 rfl rfl

/-- A payload with a field `_kind` of its own. -/
theorem payload_overrides_kind :
    let payload := [("_kind", Json.str "dm"), ("id", .str "1")]
    Loaded (.obj payload) ∧ "dm" ≠ "service_request" ∧
      statementMessage "dm" payload = statementMessage "service_request" payload := by
  intro payload
  have hbody : statementBody "dm" payload = statementBody "service_request" payload := rfl
  refine ⟨loaded_strings (by decide) (by simp [payload]), by decide, ?_⟩
  rw [statementMessage, statementMessage, hbody]

end Statements

end NexusGrid.Security

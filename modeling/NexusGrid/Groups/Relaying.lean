import NexusGrid.Groups.Authority

/-! # The two dispatchers

`dispatch_inbound_frame` and `relay_inbound_frame` compare the type of a frame in chains of their own.
-/

namespace NexusGrid.Groups

open Lib

def FrameType.text : FrameType → String
  | pendingRequest => "pending.request"
  | pendingDecision => "pending.decision"
  | rosterUpdate => "roster.update"
  | symkeyRotate => "symkey.rotate"
  | relayUpdate => "relay.update"
  | rolesAssign => "roles.assign"
  | rolesDef => "roles.def"
  | chatMessage => "chat.message"
  | chatMute => "chat.mute"
  | chatDelete => "chat.delete"
  | presenceBeacon => "presence.beacon"
  | usageReceipt => "usage.receipt"
  | groupMeta => "group.meta"
  | relayCode => "relay.code"

theorem FrameType.text_of_ofText {text : String} {type : FrameType} (h : FrameType.ofText text = some type) :
    text = type.text := by
  obtain ⟨before, after, hlist, -⟩ := List.lookup_eq_some_iff.mp h
  have hmem : (text, type) ∈ before ++ (text, type) :: after := by simp
  rw [← hlist] at hmem
  simp only [List.mem_cons, Prod.mk.injEq, List.not_mem_nil, or_false] at hmem
  rcases hmem with ⟨rfl, rfl⟩ | ⟨rfl, rfl⟩ | ⟨rfl, rfl⟩ | ⟨rfl, rfl⟩ | ⟨rfl, rfl⟩ | ⟨rfl, rfl⟩ | ⟨rfl, rfl⟩ |
    ⟨rfl, rfl⟩ | ⟨rfl, rfl⟩ | ⟨rfl, rfl⟩ | ⟨rfl, rfl⟩ | ⟨rfl, rfl⟩ | ⟨rfl, rfl⟩ | ⟨rfl, rfl⟩ <;> rfl

section Chains

variable (p : Primitives) (call : Call)

/-- The end of a call that has handled the frame: the log, and the answer. -/
def finish (n : Node) (envelope : Json) (o : OpenedFrame) (relayed : Nat) : Applied → Outcome
  | none => ⟨n, .raised, some o⟩
  | some (db, applied) =>
    ⟨{ n with db := captureFrame call db envelope o ((FrameType.ofText o.frameType).getD .chatDelete) },
      .answer true applied relayed "", some o⟩

def guardSender (n : Node) (k : Outcome) : Gate → Outcome
  | .passes => k
  | .refused reason => ⟨n, .answer true false 0 reason, none⟩
  | .raises => ⟨n, .raised, none⟩

/-- `dispatch_inbound_frame`, from the opened frame on. -/
def dispatchOpened (n : Node) (envelope : Json) (o : OpenedFrame) : Outcome :=
  let done := finish call n envelope o 0
  let kickers := rotateSenderAuthorized p n.db o
  let relays := relayUpdateSenderAuthorized p n.db o
  let assigners := requirePermission n.db o permRoleAssign "sender lacks role:assign"
  let muters := requirePermission n.db o permMemberMute "sender lacks member:mute"
  if o.frameType = "pending.request" then done (applyPendingRequest p call n.db o)
  else if o.frameType = "pending.decision" then done (applyPendingDecision p call n.db o)
  else if o.frameType = "roster.update" then done (applyRosterUpdate p call n.db o)
  else if o.frameType = "symkey.rotate" then guardSender n (done (applySymkeyRotate p call n.db o)) kickers
  else if o.frameType = "relay.update" then guardSender n (done (applyRelayUpdate p call n.db o)) relays
  else if o.frameType = "roles.assign" then guardSender n (done (applyRolesAssign p call n.db o)) assigners
  else if o.frameType = "roles.def" then guardSender n (done (applyRolesDef p call n.db o)) assigners
  else if o.frameType = "chat.message" then done (applyChatMessage p call n.db o)
  else if o.frameType = "chat.mute" then guardSender n (done (applyChatMute p n.db o)) muters
  else if o.frameType = "chat.delete" then done (applyChatDelete p n.db o)
  else if o.frameType = "presence.beacon" then done (applyPresenceBeacon p call n.db o)
  else if o.frameType = "usage.receipt" then done (applyUsageReceipt p call n.db o)
  else if o.frameType = "group.meta" then guardSender n (done (applyGroupMeta p n.db o)) assigners
  else if o.frameType = "relay.code" then guardSender n (done (applyRelayCode p call n.db o)) assigners
  else ⟨n, .answer true false 0 ("unknown frame_type: " ++ o.frameType), none⟩

def memberTypes : List String :=
  ["roster.update", "symkey.rotate", "relay.update", "roles.assign", "roles.def", "chat.message", "chat.mute",
    "chat.delete", "presence.beacon", "usage.receipt", "group.meta", "relay.code"]

def relayedTypes : List String := ["pending.request", "pending.decision"] ++ memberTypes

/-- One of the checks of `relay_inbound_frame`, for one type. -/
def checkSender (n : Node) (o : OpenedFrame) (type : String) (g : Gate) (k : Outcome) : Outcome :=
  if o.frameType = type then guardSender n k g else k

/-- The handlers of `relay_inbound_frame`. -/
def relayApply (db : Db) (o : OpenedFrame) : Applied :=
  if o.frameType = "pending.request" then applyPendingRequest p call db o
  else if o.frameType = "pending.decision" then applyPendingDecision p call db o
  else if o.frameType = "roster.update" then applyRosterUpdate p call db o
  else if o.frameType = "symkey.rotate" then applySymkeyRotate p call db o
  else if o.frameType = "relay.update" then applyRelayUpdate p call db o
  else if o.frameType = "roles.assign" then applyRolesAssign p call db o
  else if o.frameType = "roles.def" then applyRolesDef p call db o
  else if o.frameType = "chat.message" then applyChatMessage p call db o
  else if o.frameType = "chat.mute" then applyChatMute p db o
  else if o.frameType = "presence.beacon" then applyPresenceBeacon p call db o
  else if o.frameType = "usage.receipt" then applyUsageReceipt p call db o
  else if o.frameType = "group.meta" then applyGroupMeta p db o
  else if o.frameType = "relay.code" then applyRelayCode p call db o
  -- `FRAME_CHAT_DELETE`
  else applyChatDelete p db o

def iAmAudience (db : Db) (o : OpenedFrame) : Bool :=
  if o.frameType ∈ memberTypes then true else db.hasPermission o.channel p.me permGroupApprove

/-- `_resolve_audience` by the text of the type: all members, or the approvers. -/
def audienceOf (db : Db) (o : OpenedFrame) : List (String × String × String) :=
  db.resolveAudience p o (if o.frameType ∈ memberTypes then .chatMessage else .pendingRequest)

/-- `relay_inbound_frame`, from the opened frame on. -/
def relayOpened (n : Node) (envelope : Json) (o : OpenedFrame) : Outcome :=
  let assigners := requirePermission n.db o permRoleAssign "sender lacks role:assign"
  if o.frameType ∉ relayedTypes then ⟨n, .answer true false 0 ("unknown frame_type: " ++ o.frameType), none⟩
  else
    checkSender n o "symkey.rotate" (rotateSenderAuthorized p n.db o) <|
    checkSender n o "relay.update" (relayUpdateSenderAuthorized p n.db o) <|
    checkSender n o "roles.assign" assigners <|
    checkSender n o "roles.def" assigners <|
    checkSender n o "chat.mute" (requirePermission n.db o permMemberMute "sender lacks member:mute") <|
    checkSender n o "group.meta" assigners <|
    checkSender n o "relay.code" assigners <|
    let relayed := fanOut call (audienceOf p n.db o)
    if iAmAudience p n.db o then finish call n envelope o relayed (relayApply p call n.db o)
    else { finish call n envelope o relayed (some (n.db, false)) with handled := none }

/-- `dispatch_inbound_frame`. -/
def dispatchFrame (n : Node) (envelope : Json) : Outcome :=
  match receive p call n envelope with
  | (n, .error (ok, reason)) => ⟨n, .answer ok false 0 reason, none⟩
  | (n, .ok o) => dispatchOpened p call n envelope o

/-- `relay_inbound_frame`. -/
def relayFrame (n : Node) (envelope : Json) : Outcome :=
  match receive p call n envelope with
  | (n, .error (ok, reason)) => ⟨n, .answer ok false 0 reason, none⟩
  | (n, .ok o) => relayOpened p call n envelope o

end Chains

section Tables

variable {p : Primitives} {call : Call} {n : Node} {envelope : Json} {o : OpenedFrame} {type : FrameType}

theorem frameType_notMem (htype : FrameType.ofText o.frameType = none) : o.frameType ∉ relayedTypes := by
  intro hmem
  have hknown : ∀ text ∈ relayedTypes, FrameType.ofText text ≠ none := by decide
  exact hknown _ hmem htype

theorem dispatchOpened_of_known (htype : o.frameType = type.text) : dispatchOpened p call n envelope o =
      guardSender n (finish call n envelope o 0 (applyFrame p call n.db o type)) (gate p n.db o type) := by
  unfold dispatchOpened
  rw [htype]
  cases type <;> rfl

theorem dispatchOpened_of_unknown (htype : FrameType.ofText o.frameType = none) : dispatchOpened p call n envelope o =
      ⟨n, .answer true false 0 ("unknown frame_type: " ++ o.frameType), none⟩ := by
  have hunknown := frameType_notMem htype
  simp only [relayedTypes, memberTypes, List.mem_append, List.mem_cons, List.not_mem_nil, or_false, not_or] at hunknown
  unfold dispatchOpened
  simp only [hunknown, if_false]

theorem relayApply_of_known (htype : o.frameType = type.text) :
    relayApply p call n.db o = applyFrame p call n.db o type := by
  unfold relayApply
  rw [htype]
  cases type <;> rfl

theorem relayOpened_of_known (htype : o.frameType = type.text) : relayOpened p call n envelope o = guardSender n
      (if iAmAudience p n.db o then
        finish call n envelope o (fanOut call (audienceOf p n.db o)) (relayApply p call n.db o)
      else { finish call n envelope o (fanOut call (audienceOf p n.db o)) (some (n.db, false)) with handled := none })
      (gate p n.db o type) := by
  unfold relayOpened checkSender
  generalize fanOut call (audienceOf p n.db o) = relayed
  rw [htype]
  cases type <;> rfl

theorem relayOpened_of_unknown (htype : FrameType.ofText o.frameType = none) : relayOpened p call n envelope o =
      ⟨n, .answer true false 0 ("unknown frame_type: " ++ o.frameType), none⟩ := by
  exact if_pos (frameType_notMem htype)

end Tables

/-- The `ok`, the `applied` and the `reason` of an answer; `none` for an exception. -/
def Reply.verdict : Reply → Option (Bool × Bool × String)
  | .answer ok applied _ reason => some (ok, applied, reason)
  | .raised => none

/-- A frame about join requests reaches approvers only. -/
def InAudience (p : Primitives) (call : Call) (n : Node) (envelope : Json) : Prop :=
  ∀ o, (receive p call n envelope).2 = .ok o → o.frameType ∈ relayedTypes → iAmAudience p n.db o = true

/-- **The two entry points do the same.** -/
theorem entries_agree (p : Primitives) (call : Call) (n : Node) (envelope : Json)
    (haudience : InAudience p call n envelope) :
    (relayFrame p call n envelope).node = (dispatchFrame p call n envelope).node ∧
      (relayFrame p call n envelope).reply.verdict = (dispatchFrame p call n envelope).reply.verdict := by
  have hdb := db_receive p call n envelope
  unfold relayFrame dispatchFrame
  unfold InAudience at haudience
  rcases hrec : receive p call n envelope with ⟨n₁, ⟨ok, reason⟩ | o⟩
  · exact ⟨rfl, rfl⟩
  rw [hrec] at hdb haudience
  dsimp only at hdb haudience ⊢
  cases htype : FrameType.ofText o.frameType with
  | none =>
    rw [dispatchOpened_of_unknown htype, relayOpened_of_unknown htype]
    exact ⟨rfl, rfl⟩
  | some type =>
    have htext := FrameType.text_of_ofText htype
    have hin : iAmAudience p n₁.db o = true := by
      rw [hdb]
      refine haudience o rfl ?_
      rw [htext]
      cases type <;> decide
    rw [relayOpened_of_known htext, dispatchOpened_of_known htext, if_pos hin, relayApply_of_known htext]
    cases gate p n₁.db o type with
    | refused reason => exact ⟨rfl, rfl⟩
    | raises => exact ⟨rfl, rfl⟩
    | passes =>
      rcases applyFrame p call n₁.db o type with - | ⟨db, applied⟩
      · exact ⟨rfl, rfl⟩
      · exact ⟨rfl, rfl⟩

/-- A message of `bob`, on a relay host. -/
theorem entries_agree_chat :
    let p := examplePrimitives [("group_id", .str "g"), ("msg_id", .str "m1"), ("body", .str "hi")]
    let d := exampleDelivery .relay (exampleFrame "1" "chat.message" "bob" "bob")
    ((relayFrame p d.call exampleNode d.envelope).node.db.messages.get ("g", "m1")).isSome = true ∧
      (relayFrame p d.call exampleNode d.envelope).node = (dispatchFrame p d.call exampleNode d.envelope).node := by
  intro p d
  refine ⟨by decide +kernel, (entries_agree p d.call exampleNode d.envelope fun o hopens _ => ?_).1⟩
  have hopened : (receive p d.call exampleNode d.envelope).2 =
      .ok ⟨"1", "g", "chat.message", "bob", ⟨"g", "bob", [], "alice", "1", "9", ""⟩, []⟩ := by
    decide +kernel
  rw [hopened] at hopens
  cases hopens
  rfl

end NexusGrid.Groups

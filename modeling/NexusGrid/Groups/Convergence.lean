import NexusGrid.Groups.Authority
import NexusGrid.Groups.Writes

/-! # Convergence

Frames about roles, members, messages and relays reach every member of a group, in an order that is not the same for
all of them.
-/

namespace NexusGrid.Groups

open Lib

section Reading

variable (p : Primitives) (o : OpenedFrame)

def rolesAssignOp : GroupOp :=
  match o.fields p with
  | none => .idle
  | some f =>
    let groupId := Json.textAt p.repr f "group_id"
    let memberPubkey := Json.textAt p.repr f "member_pubkey"
    if groupId ≠ o.channel then .idle
    else if memberPubkey = "" then .idle
    else match Json.itemsAt f "roles" with
      | none => .idle
      | some roles => .assign groupId memberPubkey (Json.strings roles) o.senderPubkey

def rolesDefOp : GroupOp :=
  match o.fields p with
  | none => .idle
  | some f =>
    let groupId := Json.textAt p.repr f "group_id"
    let op := Json.textAt p.repr f "op"
    let roleName := PyStr.strip (Json.textAt p.repr f "role_name")
    if groupId ≠ o.channel then .idle
    else if op ∉ ["upsert", "delete"] ∨ roleName = "" then .idle
    else match OrdinaryRole.of roleName with
      | none => .idle
      | some name =>
        if op = "upsert" then
          match Json.itemsAt f "permissions" with
          | none => .idle
          | some items => .define groupId name (encodeRolePermissions (Json.strings items))
              (Json.textAt p.repr f "updated_at")
        else if roleName = "admin" then .idle
        else .undefine groupId name

def rosterUpdateOp : GroupOp :=
  match o.fields p with
  | none => .idle
  | some f =>
    let groupId := Json.textAt p.repr f "group_id"
    if groupId ≠ o.channel then .idle
    else if Json.textAt p.repr f "action" ≠ "add" then .idle
    else match Json.objAt f "member" with
      | none => .idle
      | some member =>
        if Json.textAt p.repr member "pubkey" = "" then .idle
        else .enroll {
          groupId := groupId
          pubkey := Json.textAt p.repr member "pubkey"
          joinedAt := Json.textAt p.repr member "joined_at"
          displayName := Json.given p.repr member "display_name"
          peerAddress := Json.given p.repr member "peer_address"
          nodeId := Json.given p.repr member "node_id"
          sender := o.senderPubkey }

def chatMuteOp : GroupOp :=
  match o.fields p with
  | none => .idle
  | some f =>
    let groupId := Json.textAt p.repr f "group_id"
    let target := Json.textAt p.repr f "member_pubkey"
    if groupId ≠ o.channel ∨ target = "" then .idle
    else .mute groupId target (Json.get f "muted").truthy

def chatMessageOp : GroupOp :=
  match o.fields p with
  | none => .idle
  | some f =>
    let field := Json.textAt p.repr f
    if field "group_id" ≠ o.channel ∨ field "msg_id" = "" then .idle
    else match Json.intAt p.toInt f "attach_size" with
      | none => .idle
      | some attachSize => .say (field "group_id") (field "msg_id") (Message.shared {
          senderPubkey := o.senderPubkey
          senderName := field "sender_name"
          body := field "body"
          sentAt := field "sent_at"
          receivedAt := ""
          deleted := false
          replyTo := field "reply_to"
          replySnippet := field "reply_snippet"
          replySender := field "reply_sender"
          attachKind := field "attach_kind"
          attachName := field "attach_name"
          attachMime := field "attach_mime"
          attachSize := attachSize
          attachData := field "attach_data" })

def chatDeleteOp : GroupOp :=
  match o.fields p with
  | none => .idle
  | some f =>
    let groupId := Json.textAt p.repr f "group_id"
    let msgId := Json.textAt p.repr f "msg_id"
    if groupId ≠ o.channel ∨ msgId = "" then .idle
    else .erase groupId msgId o.senderPubkey

def noClock : Call := ⟨"", id, fun _ _ => none⟩

/-- What an action does to the shared part of a binding; one that raises does nothing. -/
def relayChange (f : List (String × Json)) (action : String) (row : Option RelayBinding) : Option RelayBinding :=
  match relayAction p noClock o f action row with
  | some (some row) => some row.shared
  | _ => row

def relayUpdateOp : GroupOp :=
  match o.fields p with
  | none => .idle
  | some f =>
    let groupId := Json.textAt p.repr f "group_id"
    let action := Json.textAt p.repr f "action"
    let relayUrl := PyStr.strip (Json.textAt p.repr f "relay_url")
    if groupId ≠ o.channel then .idle
    else if action ∉ ["add", "remove", "config", "content_share", "content_revoke"] ∨ relayUrl = "" then .idle
    else .bind groupId relayUrl (relayChange p o f action)

def OpenedFrame.op : GroupOp :=
  match FrameType.ofText o.frameType with
  | some .rolesAssign => rolesAssignOp p o
  | some .rolesDef => rolesDefOp p o
  | some .rosterUpdate => rosterUpdateOp p o
  | some .chatMute => chatMuteOp p o
  | some .chatMessage => chatMessageOp p o
  | some .chatDelete => chatDeleteOp p o
  | some .relayUpdate => relayUpdateOp p o
  | _ => .idle

end Reading

def viewAfter (db : Db) : Applied → GroupView
  | none => db.groupView
  | some (db', _) => db'.groupView

section Handlers

variable {p : Primitives} (call : Call) (db : Db) (o : OpenedFrame)

theorem view_applyChatMute : viewAfter db (applyChatMute p db o) = (chatMuteOp p o).action.act db.groupView := by
  unfold applyChatMute chatMuteOp
  cases o.fields p with
  | none => exact (act_idle _).symm
  | some f =>
    dsimp only
    split
    · exact (act_idle _).symm
    cases hrow : db.members.get (Json.textAt p.repr f "group_id", Json.textAt p.repr f "member_pubkey") with
    | none => exact Db.view_mute_unknown hrow
    | some row => exact Db.view_mute hrow

theorem view_applyChatDelete : viewAfter db (applyChatDelete p db o) = (chatDeleteOp p o).action.act db.groupView := by
  unfold applyChatDelete chatDeleteOp
  cases o.fields p with
  | none => exact (act_idle _).symm
  | some f =>
    dsimp only
    split
    · exact (act_idle _).symm
    cases hrow : db.messages.get (Json.textAt p.repr f "group_id", Json.textAt p.repr f "msg_id") with
    | none =>
      refine Db.view_erase_nothing fun row hsome => ?_
      rw [hrow] at hsome
      cases hsome
    | some row =>
      dsimp only
      split
      next hother =>
        refine Db.view_erase_nothing fun row' hsome => ?_
        rw [hrow] at hsome
        exact Option.some.inj hsome ▸ hother
      next hown => exact Db.view_erase hrow (not_not.mp hown)

theorem view_applyChatMessage (hsent : ∀ f, o.fields p = some f → Json.textAt p.repr f "sent_at" ≠ "") :
    viewAfter db (applyChatMessage p call db o) = (chatMessageOp p o).action.act db.groupView := by
  unfold applyChatMessage chatMessageOp
  cases hf : o.fields p with
  | none => exact (act_idle _).symm
  | some f =>
    dsimp only
    split
    · exact (act_idle _).symm
    cases hsize : Json.intAt p.toInt f "attach_size" with
    | none =>
      -- the message is not stored, whether the handler gets to the size or not
      refine Eq.trans ?_ (act_idle _).symm
      split
      · rfl
      · split <;> rfl
    | some attachSize =>
      split
      next hmuted => exact Db.view_say_muted hmuted
      next hmuted =>
        cases hrow : db.messages.get (Json.textAt p.repr f "group_id", Json.textAt p.repr f "msg_id") with
        | some row => exact Db.view_say_there hrow
        | none =>
          rw [Json.textOr_eq_textAt (hsent f hf)]
          exact Db.view_say (Bool.eq_false_iff.mpr hmuted) hrow

theorem relayChange_shared (f : List (String × Json)) (action : String) (row : Option RelayBinding) :
    relayChange p o f action (row.map RelayBinding.shared) = match relayAction p call o f action row with
      | some (some row) => some row.shared
      | _ => row.map RelayBinding.shared := by
  unfold relayChange
  cases row with
  | none =>
    simp only [Option.map_none, relayAction]
    split_ifs <;> rfl
  | some row =>
    simp only [Option.map_some, relayAction]
    split_ifs
    all_goals try rfl
    -- `config` with a priority, which may be no number
    all_goals cases Json.intAt p.toInt f "priority" <;> rfl

theorem view_applyRelayUpdate :
    viewAfter db (applyRelayUpdate p call db o) = (relayUpdateOp p o).action.act db.groupView := by
  unfold applyRelayUpdate relayUpdateOp
  cases o.fields p with
  | none => exact (act_idle _).symm
  | some f =>
    dsimp only
    split
    · exact (act_idle _).symm
    split
    · exact (act_idle _).symm
    have hchange := relayChange_shared (p := p) call o f (Json.textAt p.repr f "action")
      (db.relayBindings.get
        (Json.textAt p.repr f "group_id", PyStr.strip (Json.textAt p.repr f "relay_url")))
    split
    next hact =>
      rw [hact] at hchange
      exact Db.view_bind_same hchange
    next hact =>
      rw [hact] at hchange
      exact Db.view_bind_same hchange
    next row hact =>
      rw [hact] at hchange
      exact Db.view_bind hchange

theorem view_applyRolesAssign :
    viewAfter db (applyRolesAssign p call db o) = (rolesAssignOp p o).action.act db.groupView := by
  unfold applyRolesAssign rolesAssignOp
  cases o.fields p with
  | none => exact (act_idle _).symm
  | some f =>
    dsimp only
    generalize Json.textAt p.repr f "group_id" = groupId
    generalize Json.textAt p.repr f "member_pubkey" = memberPubkey
    split
    · exact (act_idle _).symm
    split
    · exact (act_idle _).symm
    cases Json.itemsAt f "roles" with
    | none => exact (act_idle _).symm
    | some roles =>
      have hgranted := db.granted_groupView groupId memberPubkey (Json.strings roles)
      cases hgroup : db.groups.get groupId with
      | none => exact Db.view_assign_nothing (by rw [hgranted, hgroup])
      | some group =>
        cases hrow : db.members.get (groupId, memberPubkey) with
        | none => exact Db.view_assign_nothing (by rw [hgranted, hgroup, hrow])
        | some row =>
          rw [hgroup, hrow] at hgranted
          dsimp only at hgranted ⊢
          rw [← hgranted]
          split
          next hnone => exact Db.view_assign_nothing hnone
          next hsome => exact Db.view_assign hsome

theorem view_applyRolesDef (hupdated : ∀ f, o.fields p = some f → Json.textAt p.repr f "op" = "upsert" →
      Json.textAt p.repr f "updated_at" ≠ "") :
    viewAfter db (applyRolesDef p call db o) = (rolesDefOp p o).action.act db.groupView := by
  unfold applyRolesDef rolesDefOp
  cases hf : o.fields p with
  | none => exact (act_idle _).symm
  | some f =>
    dsimp only
    have hnow := hupdated f hf
    generalize Json.textAt p.repr f "group_id" = groupId
    generalize Json.textAt p.repr f "op" = op at hnow ⊢
    generalize PyStr.strip (Json.textAt p.repr f "role_name") = roleName
    split
    · exact (act_idle _).symm
    split
    · exact (act_idle _).symm
    cases hname : OrdinaryRole.of roleName with
    | none =>
      -- refused, for both operations
      refine Eq.trans ?_ (act_idle _).symm
      rcases OrdinaryRole.of_eq_none hname with rfl | rfl
      · simp [viewAfter]
      · simp [viewAfter]
    | some role =>
      obtain rfl := OrdinaryRole.of_eq_some hname
      have hupsert : role.1 ∉ ["founder", "member"] := by simpa using role.2
      have hdelete : role.1 ∈ ["founder", "admin", "member"] ↔ role.1 = "admin" := by simp [role.2.1, role.2.2]
      simp only [hdelete]
      split
      next hop =>
        cases Json.itemsAt f "permissions" with
        | none => exact (act_idle _).symm
        | some items =>
          rw [Json.textOr_eq_textAt (hnow hop)]
          refine Db.view_define ?_
          cases db.roles.get (groupId, role.1) <;> rfl
      · split
        · exact (act_idle _).symm
        cases hrow : db.roles.get (groupId, role.1) with
        | none => exact Db.view_undefine_unknown hrow
        | some row => exact Db.view_undefine hrow

theorem view_applyRosterUpdate (hjoined : ∀ f member, o.fields p = some f → Json.objAt f "member" = some member →
      Json.textAt p.repr member "joined_at" ≠ "") :
    viewAfter db (applyRosterUpdate p call db o) = (rosterUpdateOp p o).action.act db.groupView := by
  unfold applyRosterUpdate rosterUpdateOp
  cases hf : o.fields p with
  | none => exact (act_idle _).symm
  | some f =>
    dsimp only
    generalize Json.textAt p.repr f "group_id" = groupId
    split
    · exact (act_idle _).symm
    split
    · exact (act_idle _).symm
    cases hmember : Json.objAt f "member" with
    | none => exact (act_idle _).symm
    | some member =>
      have hat := hjoined f member hf hmember
      dsimp only
      rw [Json.textOr_eq_textAt hat, if_neg hat]
      simp only [Json.textOr_eq_given, Json.textAt_eq_given p.repr member "display_name",
        Json.textAt_eq_given p.repr member "peer_address", Json.textAt_eq_given p.repr member "node_id"]
      split
      · exact (act_idle _).symm
      let e : Enrolment := ⟨groupId, Json.textAt p.repr member "pubkey",
        Json.textAt p.repr member "joined_at", Json.given p.repr member "display_name",
        Json.given p.repr member "peer_address", Json.given p.repr member "node_id", o.senderPubkey⟩
      cases hrow : db.members.get (groupId, Json.textAt p.repr member "pubkey") with
      | none => exact Db.view_enroll_new call e hrow rfl rfl
      | some row => exact Db.view_enroll_known call e hrow

end Handlers

def FrameType.replicated : FrameType → Bool
  | rolesAssign | rolesDef | rosterUpdate | chatMute | chatMessage | chatDelete | relayUpdate => true
  | _ => false

/-- The frame carries its time, so that no receiver uses its own clock. -/
def Stamped (p : Primitives) (o : OpenedFrame) : FrameType → Prop
  | .rolesDef => ∀ f, o.fields p = some f → Json.textAt p.repr f "op" = "upsert" →
      Json.textAt p.repr f "updated_at" ≠ ""
  | .chatMessage => ∀ f, o.fields p = some f → Json.textAt p.repr f "sent_at" ≠ ""
  | .rosterUpdate => ∀ f member, o.fields p = some f → Json.objAt f "member" = some member →
      Json.textAt p.repr member "joined_at" ≠ ""
  | _ => True

/-- **A handler does what the frame asks for**, whatever the clock of the node says. -/
theorem view_applyFrame {p : Primitives} (call : Call) (db : Db) {o : OpenedFrame} {type : FrameType}
    (htype : FrameType.ofText o.frameType = some type) (hreplicated : type.replicated = true)
    (hstamped : Stamped p o type) : viewAfter db (applyFrame p call db o type) = (o.op p).action.act db.groupView := by
  unfold OpenedFrame.op
  rw [htype]
  cases type with
  | rolesAssign => exact view_applyRolesAssign call db o
  | rolesDef => exact view_applyRolesDef call db o hstamped
  | rosterUpdate => exact view_applyRosterUpdate call db o hstamped
  | chatMute => exact view_applyChatMute db o
  | chatMessage => exact view_applyChatMessage call db o hstamped
  | chatDelete => exact view_applyChatDelete db o
  | relayUpdate => exact view_applyRelayUpdate call db o
  | _ => cases hreplicated

def Replicated (p : Primitives) (o : OpenedFrame) : Prop :=
  ∃ type, FrameType.ofText o.frameType = some type ∧ type.replicated = true ∧ Stamped p o type

structure SameReading (p p' : Primitives) : Prop where
  loads : p.loads = p'.loads
  repr : p.repr = p'.repr
  toInt : p.toInt = p'.toInt

abbrev Receipt := Delivery × OpenedFrame

def Node.take (p : Primitives) (n : Node) (e : Receipt) : Node := n.step p e.1

def Applies (p : Primitives) (n : Node) (e : Receipt) : Prop := (deliver p n e.1).handled = some e.2

instance Applies.instDecidable (p : Primitives) (n : Node) (e : Receipt) : Decidable (Applies p n e) :=
  inferInstanceAs (Decidable (_ = _))

def GroupView.step (v : GroupView) (op : GroupOp) : GroupView := op.action.act v

section Runs

variable {p p' : Primitives} {n n' : Node}

theorem view_take {e : Receipt} (happlies : Applies p n e) (hreplicated : Replicated p e.2) :
    (n.take p e).db.groupView = n.db.groupView.step (e.2.op p) := by
  obtain ⟨type, htype, hseven, hstamped⟩ := hreplicated
  obtain ⟨type', haccepted⟩ := handled_deliver.mp happlies
  obtain rfl : type' = type := by
    have hsame := (accepted_eq_some.mp haccepted).2.1
    exact Option.some.inj (hsame.symm.trans htype)
  have hview := (deliver_view Db.groupView (fun _ _ => rfl) p n e.1).2
  rw [haccepted] at hview
  refine hview.trans ?_
  rw [GroupView.step, ← view_applyFrame e.1.call n.db htype hseven hstamped]
  show (n.handlerDb p e.1.call e.2 type').groupView = _
  unfold Node.handlerDb
  rcases applyFrame p e.1.call n.db e.2 type' with - | ⟨db, b⟩ <;> rfl

theorem view_run {es : List Receipt} (hes : Along (Node.take p) (Applies p) n es)
    (hreplicated : ∀ e ∈ es, Replicated p e.2) : (run (Node.take p) n es).db.groupView =
      run GroupView.step n.db.groupView ((es.map Prod.snd).map (OpenedFrame.op p)) := by
  induction es generalizing n with
  | nil => rfl
  | cons e es ih =>
    rw [run_cons, List.map_cons, List.map_cons, run_cons, ← view_take hes.1 (hreplicated e (.head _))]
    exact ih hes.2 fun e' he' => hreplicated e' (List.mem_cons_of_mem e he')

theorem SameReading.fields_eq (h : SameReading p p') (o : OpenedFrame) : o.fields p = o.fields p' := by
  unfold OpenedFrame.fields
  rw [h.loads]

theorem SameReading.relayChange_eq (h : SameReading p p') (o : OpenedFrame) : relayChange p o = relayChange p' o := by
  funext f action row
  unfold relayChange relayAction
  rw [h.repr, h.toInt]

theorem SameReading.op_eq (h : SameReading p p') (o : OpenedFrame) : o.op p = o.op p' := by
  unfold OpenedFrame.op
  split
  · rw [rolesAssignOp, h.fields_eq, h.repr, rolesAssignOp]
  · rw [rolesDefOp, h.fields_eq, h.repr, rolesDefOp]
  · rw [rosterUpdateOp, h.fields_eq, h.repr, rosterUpdateOp]
  · rw [chatMuteOp, h.fields_eq, h.repr, chatMuteOp]
  · rw [chatMessageOp, h.fields_eq, h.repr, h.toInt, chatMessageOp]
  · rw [chatDeleteOp, h.fields_eq, h.repr, chatDeleteOp]
  · rw [relayUpdateOp, h.fields_eq, h.repr, h.relayChange_eq, relayUpdateOp]
  · rfl

theorem SameReading.replicated (h : SameReading p p') {o : OpenedFrame} (ho : Replicated p o) : Replicated p' o := by
  obtain ⟨hloads, hrepr, htoInt⟩ := h
  cases p
  cases p'
  simp only at hloads hrepr htoInt
  subst hloads hrepr htoInt
  exact ho

/-- **Members converge on frames without conflicts.** -/
theorem views_converge (hsame : SameReading p p') (hstart : n.db.groupView = n'.db.groupView)
    {es es' : List Receipt} (hes : Along (Node.take p) (Applies p) n es)
    (hes' : Along (Node.take p') (Applies p') n' es') (hperm : (es.map Prod.snd).Perm (es'.map Prod.snd))
    (hreplicated : ∀ e ∈ es, Replicated p e.2)
    (hfree : (es.map Prod.snd).Pairwise fun o o' => ¬ (o.op p).Conflict (o'.op p)) :
    (run (Node.take p) n es).db.groupView = (run (Node.take p') n' es').db.groupView := by
  have hreplicated' : ∀ e ∈ es', Replicated p' e.2 := by
    intro e he
    have hmem : e.2 ∈ es.map Prod.snd := hperm.mem_iff.mpr (List.mem_map_of_mem he)
    obtain ⟨e₁, he₁, heq⟩ := List.mem_map.mp hmem
    exact heq ▸ hsame.replicated (hreplicated e₁ he₁)
  have hops : OpenedFrame.op p' = OpenedFrame.op p := funext fun o => (hsame.op_eq o).symm
  have hcomm : ((es.map Prod.snd).map (OpenedFrame.op p)).Pairwise (Commutes GroupView.step) := by
    rw [List.pairwise_map]
    exact hfree.imp fun hnot v => (GroupOp.act_comm_of_not_conflict hnot v).symm
  rw [view_run hes hreplicated, view_run hes' hreplicated', ← hstart, hops]
  exact run_perm (hperm.map _) hcomm _

end Runs

/-! ### Two orders

`alice` has founded `g` and may assign roles and mute; `bob` is a member. A ciphertext is the id of its frame. -/

def examplePayloads : List (String × List (String × Json)) :=
  [("1", [("group_id", .str "g"), ("member_pubkey", .str "bob"), ("roles", .arr [.str "helper"])]),
    ("2", [("group_id", .str "g"), ("member_pubkey", .str "bob"), ("roles", .arr [])]),
    ("3", [("group_id", .str "g"), ("msg_id", .str "m"), ("body", .str "hi"), ("sent_at", .str "1")]),
    ("4", [("group_id", .str "g"), ("msg_id", .str "m")]),
    ("5", [("group_id", .str "g"), ("member_pubkey", .str "bob"), ("muted", .bool true)])]

def exampleReading (me : String) : Primitives :=
  { examplePrimitives [] with
    loads := fun blob =>
      match examplePayloads.find? fun e => exampleBytes e.1 = blob with
      | some e => some (.obj e.2)
      | none => (examplePrimitives []).loads blob
    me := me }

def exampleArrival (now frameId frameType sender : String) : Receipt :=
  (⟨.dispatch, ⟨now, id, fun _ _ => none⟩, .obj [("frame_id", .str frameId), ("channel", .str "g"),
      ("frame_type", .str frameType), ("sender_grant_b64", .str sender), ("nonce_b64", .str "aaaaaaaaaaaa"),
      ("ciphertext_b64", .str frameId), ("signature_b64", .str sender)]⟩,
    ⟨frameId, "g", frameType, sender, ⟨"g", sender, [], "alice", "1", "9", ""⟩, exampleBytes frameId⟩)

def exampleMember : Node :=
  { exampleNode with
    db := { exampleNode.db with
      roles := Table.putAll exampleNode.db.roles [
        (("g", "founder"), ⟨[permRoleAssign, permMemberMute], "1", "1"⟩), (("g", "helper"), ⟨[], "1", "1"⟩)] } }

/-- `bob` gets a role and says something, heard of in different orders. -/
theorem views_converge_role_and_message :
    let es := [exampleArrival "2" "1" "roles.assign" "alice", exampleArrival "2" "3" "chat.message" "bob"]
    let es' := [exampleArrival "3" "3" "chat.message" "bob", exampleArrival "4" "1" "roles.assign" "alice"]
    (run (Node.take (exampleReading "carol")) exampleMember es).db.groupView =
      (run (Node.take (exampleReading "dave")) exampleMember es').db.groupView := by
  intro es es'
  obtain ⟨hes, hes'⟩ : Along (Node.take (exampleReading "carol")) (Applies (exampleReading "carol")) exampleMember es ∧
      Along (Node.take (exampleReading "dave")) (Applies (exampleReading "dave")) exampleMember es' := by
    decide +kernel
  have hsame : SameReading (exampleReading "carol") (exampleReading "dave") := ⟨rfl, rfl, rfl⟩
  have hstart : exampleMember.db.groupView = exampleMember.db.groupView := rfl
  have hperm : (es.map Prod.snd).Perm (es'.map Prod.snd) :=
    List.Perm.swap (exampleArrival "3" "3" "chat.message" "bob").2 (exampleArrival "4" "1" "roles.assign" "alice").2 []
  refine views_converge hsame hstart hes hes' hperm ?_ ?_
  · intro e he
    rcases List.mem_cons.mp he with rfl | he
    · exact ⟨.rolesAssign, rfl, rfl, trivial⟩
    rw [List.mem_singleton.mp he]
    refine ⟨.chatMessage, rfl, rfl, fun f hf => ?_⟩
    cases Eq.trans (by rfl) hf
    decide
  have hfree : ¬ ((exampleArrival "2" "1" "roles.assign" "alice").2.op (exampleReading "carol")).Conflict
      ((exampleArrival "2" "3" "chat.message" "bob").2.op (exampleReading "carol")) :=
    fun h => h.2.elim id id
  simpa [es] using hfree

def OrderMatters (p : Primitives) (n : Node) (a b : Receipt) : Prop :=
  Along (Node.take p) (Applies p) n [a, b] ∧ Along (Node.take p) (Applies p) n [b, a] ∧
    (run (Node.take p) n [a, b]).db.groupView ≠ (run (Node.take p) n [b, a]).db.groupView

/-- **The order matters** for two role sets of a member, for a message and its deletion, and for a message and the
muting of its sender. -/
theorem order_matters :
    let p := exampleReading "carol"
    let first := exampleArrival "2" "1" "roles.assign" "alice"
    let second := exampleArrival "2" "2" "roles.assign" "alice"
    let message := exampleArrival "2" "3" "chat.message" "bob"
    let deletion := exampleArrival "2" "4" "chat.delete" "bob"
    let muting := exampleArrival "2" "5" "chat.mute" "alice"
    OrderMatters p exampleMember first second ∧ OrderMatters p exampleMember message deletion ∧
      OrderMatters p exampleMember message muting := by
  intro p first second message deletion muting
  -- one cell for each of the pairs
  obtain ⟨⟨hroles, hroles', hhelper⟩, ⟨hdeletion, hdeletion', hbody⟩, hmuting, hmuting', hsaid⟩ :
      (Along (Node.take p) (Applies p) exampleMember [first, second] ∧
        Along (Node.take p) (Applies p) exampleMember [second, first] ∧
        (run (Node.take p) exampleMember [first, second]).db.groupView (.assignment "g" "bob" "helper") ≠
          (run (Node.take p) exampleMember [second, first]).db.groupView (.assignment "g" "bob" "helper")) ∧
      (Along (Node.take p) (Applies p) exampleMember [message, deletion] ∧
        Along (Node.take p) (Applies p) exampleMember [deletion, message] ∧
        (run (Node.take p) exampleMember [message, deletion]).db.groupView (.message "g" "m") ≠
          (run (Node.take p) exampleMember [deletion, message]).db.groupView (.message "g" "m")) ∧
      Along (Node.take p) (Applies p) exampleMember [message, muting] ∧
        Along (Node.take p) (Applies p) exampleMember [muting, message] ∧
        (run (Node.take p) exampleMember [message, muting]).db.groupView (.message "g" "m") ≠
          (run (Node.take p) exampleMember [muting, message]).db.groupView (.message "g" "m") := by
    decide +kernel
  refine ⟨⟨hroles, hroles', fun heq => hhelper ?_⟩, ⟨hdeletion, hdeletion', fun heq => hbody ?_⟩,
    hmuting, hmuting', fun heq => hsaid ?_⟩
  · rw [heq]
  · rw [heq]
  · rw [heq]

end NexusGrid.Groups

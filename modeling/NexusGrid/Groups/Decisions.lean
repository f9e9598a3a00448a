import NexusGrid.Groups.Authority

/-! # Who decides join requests and who rotates the key

Two kinds of frames change a group on the word of their sender alone.
-/

namespace NexusGrid.Groups

open Lib

variable {p : Primitives} {n : Node} {d : Delivery} {o : OpenedFrame}

theorem Opens.unique {o' : OpenedFrame} (h : Opens p n d o) (h' : Opens p n d o') : o' = o :=
  Except.ok.inj (h'.symm.trans h)

/-- The payload `f` is a decision on the request `id`: all that the handler asks for. -/
structure DecisionOn (p : Primitives) (o : OpenedFrame) (id : String) (f : List (String × Json)) : Prop where
  fields : o.fields p = some f
  group : Json.textAt p.repr f "group_id" = o.channel
  request : Json.textAt p.repr f "request_id" = id
  named : id ≠ ""
  status : (RequestStatus.ofDecision (Json.textAt p.repr f "status")).isSome

theorem ofDecision_ne_pending {text : String} {status : RequestStatus}
    (h : RequestStatus.ofDecision text = some status) : status ≠ .pending := by
  unfold RequestStatus.ofDecision at h
  repeat' split at h
  all_goals cases h <;> decide

theorem Authority.Step.decides {call : Call} {type : FrameType} {A A' : Authority}
    (h : Authority.Step p call o type A A') {id : String} {row row' : JoinRequest}
    (hrow : A.requests.get id = some row) (hpending : row.status = .pending)
    (hrow' : A'.requests.get id = some row') (hdecided : row'.status ≠ .pending) :
    type = .pendingDecision ∧ ∃ f, DecisionOn p o id f ∧
      row'.decidedByPubkey = Json.textAt p.repr f "decided_by_pubkey" := by
  -- a step that keeps the row cannot have decided it
  have hkept : A'.requests.get id = some row → False := by
    intro hsame
    rw [Option.some.inj (hrow'.symm.trans hsame)] at hdecided
    exact hdecided hpending
  cases h with
  | same | join | noRotation | rotate | rotateAndDrop | assign | define => exact (hkept hrow).elim
  | @request _ id₁ row₁ hnew =>
    have hne : id ≠ id₁ := by
      rintro rfl
      rw [hnew] at hrow
      cases hrow
    exact (hkept ((Table.get_put_ne _ _ hne).trans hrow)).elim
  | @decide _ f row₁ status hfields hgroup hid hstatus hrow₁ _ =>
    by_cases heq : id = Json.textAt p.repr f "request_id"
    · subst heq
      rw [Table.get_put_self] at hrow'
      cases hrow'
      exact ⟨rfl, f, ⟨hfields, hgroup, rfl, hid, by rw [hstatus]; rfl⟩, rfl⟩
    · exact (hkept ((Table.get_put_ne _ _ heq).trans hrow)).elim

theorem decided_of_accepted {id : String} {f : List (String × Json)} {row : JoinRequest}
    (haccepted : accepted p n d = some (o, .pendingDecision)) (hdec : DecisionOn p o id f)
    (hrow : n.db.pendingRequests.get id = some row) (hpending : row.status = .pending) :
    ∃ row', (n.step p d).db.pendingRequests.get id = some row' ∧ row'.status ≠ .pending ∧
      row'.decidedByPubkey = Json.textAt p.repr f "decided_by_pubkey" := by
  obtain ⟨status, hstatus⟩ := Option.isSome_iff_exists.mp hdec.status
  have hafter : (n.step p d).db.authority = n.afterHandler p d.call o .pendingDecision := by
    rw [(deliver_spec p n d).2, haccepted]
  have happ : ∃ db' : Db, applyFrame p d.call n.db o .pendingDecision = some (db', true) ∧
      db'.pendingRequests = n.db.pendingRequests.put id { row with
        status := status
        decidedAt := Json.textOr p.repr f "decided_at" d.call.now
        decidedByPubkey := Json.textAt p.repr f "decided_by_pubkey"
        decisionReason := Json.textAt p.repr f "decision_reason" } := by
    simp [applyFrame, applyPendingDecision, hdec.fields, hdec.group, hdec.request, hdec.named, hstatus, hrow, hpending]
  obtain ⟨db', happ, hdb'⟩ := happ
  have hrequests : (n.step p d).db.pendingRequests = db'.pendingRequests := by
    have hauth : (n.step p d).db.authority = db'.authority := by rw [hafter, Node.afterHandler, happ]
    exact congrArg Authority.requests hauth
  rw [hrequests, hdb', Table.get_put_self]
  exact ⟨_, rfl, ofDecision_ne_pending hstatus, rfl⟩

/-- A pending request is decided by an approver of its group, who is recorded. -/
def OnlyApproversDecide (p : Primitives) (n : Node) (d : Delivery) : Prop :=
  ∀ id row row', n.db.pendingRequests.get id = some row → row.status = .pending →
    (n.step p d).db.pendingRequests.get id = some row' → row'.status ≠ .pending →
    ∃ o, Opens p n d o ∧ n.db.hasPermission o.channel o.senderPubkey permGroupApprove = true ∧
      row'.decidedByPubkey = o.senderPubkey ∧ row.groupId = o.channel

/-- **When only approvers decide join requests.** -/
theorem only_approvers_decide_iff (p : Primitives) (n : Node) (d : Delivery) : OnlyApproversDecide p n d ↔
      ∀ o id f row, accepted p n d = some (o, .pendingDecision) → DecisionOn p o id f →
        n.db.pendingRequests.get id = some row → row.status = .pending →
        n.db.hasPermission o.channel o.senderPubkey permGroupApprove = true ∧
          Json.textAt p.repr f "decided_by_pubkey" = o.senderPubkey ∧ row.groupId = o.channel := by
  constructor
  · intro h o id f row haccepted hdec hrow hpending
    obtain ⟨row', hrow', hdecided, hby⟩ := decided_of_accepted haccepted hdec hrow hpending
    obtain ⟨o', hopens', happrove, hsender, hgroup⟩ := h id row row' hrow hpending hrow' hdecided
    have hopens : Opens p n d o := (accepted_eq_some.mp haccepted).1
    obtain rfl := hopens.unique hopens'
    exact ⟨happrove, hby.symm.trans hsender, hgroup⟩
  intro h id row row' hrow hpending hrow' hdecided
  rcases authority_step p n d with ⟨-, hsame⟩ | ⟨o, type, haccepted, hstep⟩
  · have hrequests : (n.step p d).db.pendingRequests = n.db.pendingRequests := congrArg Authority.requests hsame
    rw [hrequests, hrow] at hrow'
    rw [← Option.some.inj hrow'] at hdecided
    exact absurd hpending hdecided
  obtain ⟨rfl, f, hdec, hby⟩ := hstep.decides hrow hpending hrow' hdecided
  obtain ⟨happrove, hsender, hgroup⟩ := h o id f row haccepted hdec hrow hpending
  exact ⟨o, (accepted_eq_some.mp haccepted).1, happrove, hby.trans hsender, hgroup⟩

/-- A request to join another group, `h`. -/
def exampleRequest : JoinRequest := ⟨"h", "erin", "", "", "", "", "", "", .pending, "1", "", "", ""⟩

def exampleRequestNode : Node :=
  { exampleNode with
    db := { exampleNode.db with pendingRequests := Table.put ∅ "r1" exampleRequest } }

/-- **A plain member admits somebody to a foreign group.** -/
theorem plain_member_decides :
    let p := examplePrimitives [("group_id", .str "g"), ("request_id", .str "r1"),
      ("status", .str "approved"), ("decided_by_pubkey", .str "alice")]
    let d := exampleDelivery .dispatch (exampleFrame "1" "pending.decision" "bob" "bob")
    (deliver p exampleRequestNode d).handled.map OpenedFrame.senderPubkey = some "bob" ∧
      exampleRequestNode.db.hasPermission "g" "bob" permGroupApprove = false ∧
      ((exampleRequestNode.step p d).db.pendingRequests.get "r1").map
          (fun r => (r.groupId, r.status, r.decidedByPubkey)) = some ("h", .approved, "alice") ∧
      ¬OnlyApproversDecide p exampleRequestNode d := by
  intro p d
  have hlacks : exampleRequestNode.db.hasPermission "g" "bob" permGroupApprove = false := by decide +kernel
  obtain ⟨hsender, hhandled, hrow⟩ : (receive p d.call exampleRequestNode d.envelope).2.toOption.map
        (fun o => (o.senderPubkey, o.channel)) = some ("bob", "g") ∧
      (deliver p exampleRequestNode d).handled.map OpenedFrame.senderPubkey = some "bob" ∧
      ((exampleRequestNode.step p d).db.pendingRequests.get "r1").map
        (fun r => (r.groupId, r.status, r.decidedByPubkey)) = some ("h", .approved, "alice") := by
    decide +kernel
  refine ⟨hhandled, hlacks, hrow, fun h => ?_⟩
  obtain ⟨row', hrow', heq⟩ := Option.map_eq_some_iff.mp hrow
  have hdecided : row'.status ≠ .pending := by
    rw [(Prod.mk.inj (Prod.mk.inj heq).2).1]
    decide
  obtain ⟨o, hopens, happrove, -⟩ := h "r1" exampleRequest row' (by decide +kernel) rfl hrow' hdecided
  rw [Opens] at hopens
  rw [hopens] at hsender
  obtain ⟨hbob, hg⟩ := Prod.mk.inj (Option.some.inj hsender)
  rw [hbob, hg, hlacks] at happrove
  cases happrove

/-- The member that a `symkey.rotate` frame removes. -/
def OpenedFrame.kickedPubkey (p : Primitives) (o : OpenedFrame) : String :=
  match o.fields p with
  | some f => Json.textAt p.repr f "kicked_pubkey"
  | none => ""

/-- The key that a sender who removes themselves leaves to this node. -/
def leaveKey (p : Primitives) (o : OpenedFrame) : Option (List UInt8) :=
  if FrameType.ofText o.frameType = some .symkeyRotate ∧ o.kickedPubkey p ≠ "" ∧
      o.kickedPubkey p = o.senderPubkey then carriedKey p o
  else none

theorem passes_rotate_iff {db : Db} (hlacks : db.hasPermission o.channel o.senderPubkey permMemberKick = false) :
    gate p db o .symkeyRotate = .passes ↔ o.kickedPubkey p ≠ "" ∧ o.kickedPubkey p = o.senderPubkey := by
  show (if o.kickedPubkey p ≠ "" ∧ o.kickedPubkey p = o.senderPubkey then Gate.passes
    else _) = _ ↔ _
  split
  next hleave => exact iff_of_true rfl hleave
  next hnot =>
    refine iff_of_false ?_ hnot
    simp [requirePermission, hlacks]

theorem Authority.Step.symkeys {call : Call} {type : FrameType} {A A' : Authority}
    (h : Authority.Step p call o type A A') :
    A'.symkeys = if type = .symkeyRotate then A.adopt call o.channel (carriedKey p o) else A.symkeys := by
  cases h with
  | same htype => rw [if_neg htype]
  | noRotation hkey => rw [if_pos rfl, hkey]; rfl
  | _ => rfl

/-- **Without `member:kick` the key changes only when one leaves.** -/
theorem symkey_of_plain_sender (p : Primitives) (n : Node) (d : Delivery) (o : OpenedFrame) (hopens : Opens p n d o)
    (hlacks : n.db.hasPermission o.channel o.senderPubkey permMemberKick = false) :
    ((n.step p d).db.groups.get o.channel).map Group.groupSymkeyEnc = match leaveKey p o with
      | none => (n.db.groups.get o.channel).map Group.groupSymkeyEnc
      | some key => (n.db.groups.get o.channel).map fun _ => d.call.eciesSeal key := by
  have hadopt : (match leaveKey p o with
      | none => (n.db.groups.get o.channel).map Group.groupSymkeyEnc
      | some key => (n.db.groups.get o.channel).map fun _ => d.call.eciesSeal key) =
      n.db.authority.adopt d.call o.channel (leaveKey p o) o.channel := by
    cases leaveKey p o with
    | none => rfl
    | some key => simp [Authority.adopt, Db.authority, Function.comp_def]
  rw [hadopt]
  show (n.step p d).db.authority.symkeys o.channel = _
  rcases authority_step p n d with ⟨hnone, hsame⟩ | ⟨o', type, haccepted, hstep⟩
  · -- a leave would have passed the gate
    have hstays : leaveKey p o = none := by
      refine if_neg ?_
      rintro ⟨htype, hleave⟩
      have haccepted : accepted p n d = some (o, .symkeyRotate) :=
        accepted_eq_some.mpr ⟨hopens, htype, (passes_rotate_iff hlacks).mpr hleave, by simp [FrameType.adminsOnly]⟩
      rw [hnone] at haccepted
      cases haccepted
    rw [hsame, hstays]
    rfl
  · obtain ⟨hopens', htype, hpasses, -⟩ := accepted_eq_some.mp haccepted
    obtain rfl := hopens.unique hopens'
    rw [hstep.symkeys]
    by_cases hrotate : type = .symkeyRotate
    · subst hrotate
      rw [if_pos rfl, leaveKey, if_pos ⟨htype, (passes_rotate_iff hlacks).mp hpasses⟩]
    have hstays : leaveKey p o' = none := by
      refine if_neg ?_
      rintro ⟨htype', -⟩
      exact hrotate (Option.some.inj (htype.symm.trans htype'))
    rw [if_neg hrotate, hstays]
    rfl

def exampleRotation (kicked : String) : List (String × Json) :=
  [("group_id", .str "g"), ("kicked_pubkey", .str kicked), ("envelopes", .obj [("carol", .str "new key")])]

def exampleRotationFrame : OpenedFrame where
  frameId := "1"
  channel := "g"
  frameType := "symkey.rotate"
  senderPubkey := "bob"
  senderGrant := ⟨"g", "bob", [], "alice", "1", "9", ""⟩
  payload := []

/-- `bob` tries to remove `alice`: the key stays. -/
theorem symkey_of_plain_sender_kick :
    let p := examplePrimitives (exampleRotation "alice")
    let d := exampleDelivery .dispatch (exampleFrame "1" "symkey.rotate" "bob" "bob")
    ((exampleNode.step p d).db.groups.get "g").map Group.groupSymkeyEnc =
      match leaveKey p exampleRotationFrame with
      | none => (exampleNode.db.groups.get "g").map Group.groupSymkeyEnc
      | some key => (exampleNode.db.groups.get "g").map fun _ => d.call.eciesSeal key := by
  intro p d
  exact symkey_of_plain_sender p exampleNode d exampleRotationFrame
    (by decide +kernel) (by decide +kernel)

/-- **A plain member changes the key by leaving.** -/
theorem leaving_member_changes_symkey :
    let p := examplePrimitives (exampleRotation "bob")
    let d := exampleDelivery .dispatch (exampleFrame "1" "symkey.rotate" "bob" "bob")
    Opens p exampleNode d exampleRotationFrame ∧ exampleNode.db.hasPermission "g" "bob" permMemberKick = false ∧
      ((exampleNode.step p d).db.groups.get "g").map Group.groupSymkeyEnc ≠
        (exampleNode.db.groups.get "g").map Group.groupSymkeyEnc := by
  decide +kernel

end NexusGrid.Groups

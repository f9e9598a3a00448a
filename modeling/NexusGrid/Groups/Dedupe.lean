import NexusGrid.Groups.Authority

/-! # The cache of seen frame ids

Both entry points look the id of a frame up in the cache, and record it there, before they check anything else about
the envelope.
-/

namespace NexusGrid.Groups

open Lib

variable {p : Primitives}

def recordedId (p : Primitives) (envelope : Json) : Option String :=
  match GroupFrame.fromDict p.repr envelope with
  | .error _ => none
  | .ok frame => if frame.frameId = "" then none else some frame.frameId

def recordedIds (p : Primitives) (ds : List Delivery) : List String := ds.filterMap fun d => recordedId p d.envelope

theorem dedupe_receive (call : Call) (n : Node) (envelope : Json) : (receive p call n envelope).1.dedupe =
      match recordedId p envelope with
      | none => n.dedupe
      | some id => n.dedupe.touch id := by
  unfold receive recordedId
  cases GroupFrame.fromDict p.repr envelope with
  | error _ => rfl
  | ok frame =>
    by_cases hid : frame.frameId = ""
    · simp [Node.seen, hid]
    · by_cases hmem : frame.frameId ∈ n.dedupe.items <;> simp [Node.seen, hid, hmem]

theorem dedupe_step (n : Node) (d : Delivery) : (n.step p d).dedupe = (receive p d.call n d.envelope).1.dedupe := by
  unfold Node.step deliver
  split
  · unfold dispatchInboundFrame
    repeat' split
    all_goals simp_all
  unfold relayInboundFrame
  repeat' split
  all_goals simp_all

theorem dedupe_run (db : Db) (ds : List Delivery) :
    (run (Node.step p) ⟨db, .empty⟩ ds).dedupe = LruSet.touchAll (recordedIds p ds) := by
  induction ds using List.reverseRecOn with
  | nil => rfl
  | append_singleton ds d ih =>
    rw [run_concat, dedupe_step, dedupe_receive, ih]
    unfold recordedIds
    cases hid : recordedId p d.envelope with
    | none => simp [hid]
    | some id => simp [hid]

/-- The frame opens as `o` on a group that is not paused, and its sender passes. -/
structure Acceptable (p : Primitives) (call : Call) (db : Db) (frame : GroupFrame)
    (o : OpenedFrame) : Prop where
  opens : openInbound p call db frame = .ok o
  authorized : ∃ type, FrameType.ofText o.frameType = some type ∧ gate p db o type = .passes

def duplicateReply : Reply := .answer true false 0 "duplicate"

section Dispatch

variable {call : Call} {n : Node} {envelope : Json} {frame : GroupFrame} {o : OpenedFrame}

theorem dispatch_of_seen (hframe : GroupFrame.fromDict p.repr envelope = .ok frame)
    (hseen : (n.seen frame.frameId).1 = true) : (dispatchInboundFrame p call n envelope).handled = none ∧
      (dispatchInboundFrame p call n envelope).reply = duplicateReply := by
  rcases hcache : n.seen frame.frameId with ⟨seen, n₁⟩
  rw [hcache] at hseen
  obtain rfl : seen = true := hseen
  simp [dispatchInboundFrame, receive, hframe, hcache, duplicateReply]

theorem dispatch_of_unseen (hframe : GroupFrame.fromDict p.repr envelope = .ok frame)
    (hseen : (n.seen frame.frameId).1 = false) (hacc : Acceptable p call n.db frame o) :
    (dispatchInboundFrame p call n envelope).handled = some o ∧
      (dispatchInboundFrame p call n envelope).reply ≠ duplicateReply := by
  obtain ⟨type, htype, hgate⟩ := hacc.authorized
  have hdb := db_seen n frame.frameId
  rcases hcache : n.seen frame.frameId with ⟨seen, n₁⟩
  rw [hcache] at hseen hdb
  obtain rfl : seen = false := hseen
  replace hdb : n₁.db = n.db := hdb
  cases happ : applyFrame p call n.db o type with
  | none => simp [dispatchInboundFrame, receive, hframe, hcache, hdb, hacc.opens, htype, hgate, happ, duplicateReply]
  | some result =>
    simp [dispatchInboundFrame, receive, hframe, hcache, hdb, hacc.opens, htype, hgate, happ, duplicateReply]

end Dispatch

/-- `FrameDedupeCache`, the newest id first. -/
abbrev FrameDedupeCache (capacity : Nat) := LruSet String capacity

namespace FrameDedupeCache

variable {capacity : Nat}

def seen (c : FrameDedupeCache capacity) (frameId : String) : Bool × FrameDedupeCache capacity :=
  if frameId = "" then (false, c) else (decide (frameId ∈ c.items), c.touch frameId)

/-- The cache after some queries, starting from an empty one. -/
def after (capacity : Nat) (queries : List String) : FrameDedupeCache capacity :=
  queries.foldl (fun c q => (c.seen q).2) .empty

theorem after_eq (queries : List String) : after capacity queries = LruSet.touchAll (queries.filter (· ≠ "")) := by
  induction queries using List.reverseRecOn with
  | nil => rfl
  | append_singleton queries q ih =>
    have hstep : after capacity (queries ++ [q]) = ((after capacity queries).seen q).2 := by simp [after]
    rw [hstep, ih, seen]
    by_cases hq : q = ""
    · simp [hq]
    · simp [hq, List.filter_append]

/-- **The answer of `seen`.** -/
theorem seen_iff (capacity : Nat) (queries : List String) (frameId : String) :
    ((after capacity queries).seen frameId).1 = true ↔ frameId ≠ "" ∧
      ∃ pre post, queries = pre ++ frameId :: post ∧ frameId ∉ post ∧
        (post.filter (· ≠ "")).dedup.length < capacity := by
  unfold seen
  by_cases hid : frameId = ""
  · simp [hid]
  rw [if_neg hid, decide_eq_true_eq, after_eq, LruSet.mem_touchAll]
  constructor
  · rintro ⟨pre, post, hsplit, hpost, hlt⟩
    -- the empty queries between the others make no difference
    obtain ⟨l₁, l₂, rfl, -, h₂⟩ := List.filter_eq_append_iff.mp hsplit
    obtain ⟨l₃, l₄, rfl, -, -, rfl⟩ := List.filter_eq_cons_iff.mp h₂
    refine ⟨hid, l₁ ++ l₃, l₄, by simp, fun hmem => hpost ?_, hlt⟩
    exact List.mem_filter.mpr ⟨hmem, by simpa using hid⟩
  rintro ⟨-, pre, post, rfl, hpost, hlt⟩
  refine ⟨pre.filter (· ≠ ""), post.filter (· ≠ ""), ?_, fun hmem => hpost (List.mem_filter.mp hmem).1, hlt⟩
  simp [List.filter_append, hid]

end FrameDedupeCache

theorem seen_run (db : Db) (ds : List Delivery) (frameId : String) :
    ((run (Node.step p) ⟨db, .empty⟩ ds).seen frameId).1 = true ↔
      frameId ≠ "" ∧ LruSet.Recent dedupeCapacity (recordedIds p ds) frameId := by
  unfold Node.seen
  rw [dedupe_run]
  by_cases hid : frameId = ""
  · simp [hid]
  · simp [hid, LruSet.mem_touchAll]

def Outcome.applied (out : Outcome) : Bool :=
  match out.reply with
  | .answer _ applied _ _ => applied
  | .raised => false

def AppliedBefore (p : Primitives) (frame : GroupFrame) (n : Node) (ds : List Delivery) : Prop :=
  Once (Node.step p) (fun n d => (GroupFrame.fromDict p.repr d.envelope).toOption = some frame ∧
    (deliver p n d).applied = true) n ds

instance AppliedBefore.instDecidable (p : Primitives) (frame : GroupFrame) (n : Node)
    (ds : List Delivery) : Decidable (AppliedBefore p frame n ds) :=
  inferInstanceAs (Decidable (Once _ _ _ _))

/-- Unless it was applied before, `o` is handed to its handler. -/
def HandedOver (p : Primitives) (n : Node) (ds : List Delivery) (call : Call) (envelope : Json)
    (frame : GroupFrame) (o : OpenedFrame) : Prop :=
  ¬AppliedBefore p frame n ds → (dispatchInboundFrame p call (run (Node.step p) n ds) envelope).handled = some o ∧
      (dispatchInboundFrame p call (run (Node.step p) n ds) envelope).reply ≠ duplicateReply

/-- **When a frame is handed over.** -/
theorem handed_over_iff (p : Primitives) (db : Db) (ds : List Delivery) (call : Call)
    (envelope : Json) (frame : GroupFrame) (o : OpenedFrame)
    (hframe : GroupFrame.fromDict p.repr envelope = .ok frame)
    (hacc : Acceptable p call (run (Node.step p) ⟨db, .empty⟩ ds).db frame o) :
    HandedOver p ⟨db, .empty⟩ ds call envelope frame o ↔ AppliedBefore p frame ⟨db, .empty⟩ ds ∨ frame.frameId = "" ∨
        ¬LruSet.Recent dedupeCapacity (recordedIds p ds) frame.frameId := by
  by_cases happlied : AppliedBefore p frame ⟨db, .empty⟩ ds
  · exact iff_of_true (fun h => absurd happlied h) (.inl happlied)
  -- both sides are decided by the lookup
  cases hseen : ((run (Node.step p) ⟨db, .empty⟩ ds).seen frame.frameId).1 with
  | true =>
    obtain ⟨hid, hrecent⟩ := (seen_run db ds frame.frameId).mp hseen
    refine iff_of_false ?_ ?_
    · intro h
      have hnone : (dispatchInboundFrame p call _ envelope).handled = none := (dispatch_of_seen hframe hseen).1
      rw [(h happlied).1] at hnone
      cases hnone
    rintro (h | h | h)
    · exact happlied h
    · exact hid h
    · exact h hrecent
  | false =>
    refine iff_of_true (fun _ => dispatch_of_unseen hframe hseen hacc) (.inr ?_)
    by_contra hnot
    rw [not_or, not_not] at hnot
    rw [(seen_run db ds frame.frameId).mpr hnot] at hseen
    cases hseen

/-! ### Two envelopes

A chat message of `bob`, and before it an envelope that nobody signed. -/

def exampleChat : Primitives := examplePrimitives [("group_id", .str "g"), ("msg_id", .str "m1"), ("body", .str "hi")]

def exampleChatFrame : GroupFrame := ⟨"1", "g", "chat.message", "bob", "aaaaaaaaaaaa", "", "bob"⟩

/-- The message as `carol` opens it. -/
def exampleChatOpened : OpenedFrame := ⟨"1", "g", "chat.message", "bob", ⟨"g", "bob", [], "alice", "1", "9", ""⟩, []⟩

def exampleForgery (frameId : String) : Delivery :=
  exampleDelivery .dispatch (exampleFrame frameId "chat.message" "bob" "mallory")

/-- After a forgery with another id, the message is handed over. -/
theorem handed_over_after_other_id : HandedOver exampleChat ⟨exampleNode.db, .empty⟩ [exampleForgery "2"]
      (exampleForgery "1").call (exampleFrame "1" "chat.message" "bob" "bob") exampleChatFrame exampleChatOpened := by
  obtain ⟨hframe, hopens, hgate, hids⟩ :
      GroupFrame.fromDict exampleChat.repr (exampleFrame "1" "chat.message" "bob" "bob") = .ok exampleChatFrame ∧
      openInbound exampleChat (exampleForgery "1").call
        (run (Node.step exampleChat) ⟨exampleNode.db, .empty⟩ [exampleForgery "2"]).db exampleChatFrame =
          .ok exampleChatOpened ∧
      FrameType.ofText exampleChatOpened.frameType = some .chatMessage ∧
      "1" ∉ recordedIds exampleChat [exampleForgery "2"] := by
    decide +kernel
  refine (handed_over_iff exampleChat exampleNode.db _ _ _ _ _ hframe ⟨hopens, .chatMessage, hgate, rfl⟩).mpr ?_
  right; right
  rintro ⟨pre, post, hrecorded, -⟩
  refine hids ?_
  rw [hrecorded]
  exact List.mem_append_right _ (.head _)

/-- **A forgery shuts a message out.** -/
theorem forged_id_drops_frame :
    let ds := [exampleForgery "1"]
    let envelope := exampleFrame "1" "chat.message" "bob" "bob"
    let out := dispatchInboundFrame exampleChat (exampleForgery "1").call
      (run (Node.step exampleChat) ⟨exampleNode.db, .empty⟩ ds) envelope
    (deliver exampleChat ⟨exampleNode.db, .empty⟩ (exampleForgery "1")).reply =
        .answer false false 0 "verify: frame signature invalid" ∧
      GroupFrame.fromDict exampleChat.repr envelope = .ok exampleChatFrame ∧
      Acceptable exampleChat (exampleForgery "1").call
        (run (Node.step exampleChat) ⟨exampleNode.db, .empty⟩ ds).db exampleChatFrame
        exampleChatOpened ∧
      out.handled = none ∧ out.reply = duplicateReply ∧
      ¬HandedOver exampleChat ⟨exampleNode.db, .empty⟩ ds (exampleForgery "1").call envelope
        exampleChatFrame exampleChatOpened := by
  intro ds envelope out
  obtain ⟨hrejected, hframe, hopens, htype, hnever, hhandled, hreply⟩ :
      (deliver exampleChat ⟨exampleNode.db, .empty⟩ (exampleForgery "1")).reply =
        .answer false false 0 "verify: frame signature invalid" ∧
      GroupFrame.fromDict exampleChat.repr envelope = .ok exampleChatFrame ∧
      openInbound exampleChat (exampleForgery "1").call
        (run (Node.step exampleChat) ⟨exampleNode.db, .empty⟩ ds).db exampleChatFrame = .ok exampleChatOpened ∧
      FrameType.ofText exampleChatOpened.frameType = some .chatMessage ∧
      ¬AppliedBefore exampleChat exampleChatFrame ⟨exampleNode.db, .empty⟩ ds ∧
      out.handled = none ∧ out.reply = duplicateReply := by
    decide +kernel
  refine ⟨hrejected, hframe, ⟨hopens, .chatMessage, htype, rfl⟩, hhandled, hreply, fun h => ?_⟩
  exact (h hnever).2 hreply

end NexusGrid.Groups

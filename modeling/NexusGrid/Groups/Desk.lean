import NexusGrid.Groups.Admission

/-! # Interleaved admissions

No endpoint holds a lock.

An admission is cut at its awaits, and the desk holds those that are under way. What an invite and
the cap of a group promise is then a question about every interleaving of the steps.
-/

namespace NexusGrid.Groups

open Lib

/-! ## The desk -/

inductive InFlight
  /-- A join request that has read its invite. -/
  | invited (body : JoinRequestBody) (read : InviteRead)
  /-- A join request that has also read the group and counted its members. -/
  | counted (body : JoinRequestBody) (read : InviteRead) (group : Group) (count : Nat)
  | approving (groupId requestId : String) (group : Group) (row : JoinRequest)
  | revoking (inviteId : String)
deriving DecidableEq

structure Admitted where
  inviteId : String
  pubkey : String
  /-- The revocation of the invite was committed before. -/
  late : Bool
deriving DecidableEq

/-- The node of an admin. -/
structure Desk where
  db : AdmissionDb
  flight : List InFlight
  /-- The parked requests with a signed invite, with its id. -/
  parked : List (String × String)
  /-- The invites whose revocation is committed. -/
  revoked : List String
  admitted : List Admitted

namespace Desk

inductive Event
  | joinRequest (call : Call) (body : JoinRequestBody)
  | approve (groupId requestId : String)
  | revoke (groupId inviteId : String)
  /-- The request at this index goes on. -/
  | resume (index : Nat) (call : Call) (draws : Draws)

def record (d : Desk) (inviteId : Option String) (pubkey : String) : List Admitted :=
  match inviteId with
  | none => d.admitted
  | some inviteId => ⟨inviteId, pubkey, decide (inviteId ∈ d.revoked)⟩ :: d.admitted

def park (d : Desk) (inviteId : Option String) (requestId : String) : List (String × String) :=
  match inviteId with
  | none => d.parked
  | some inviteId => (requestId, inviteId) :: d.parked

section Step

variable (p : Primitives)

def start (d : Desk) (f : InFlight) : Desk := { d with flight := f :: d.flight }

def resume (d : Desk) (call : Call) (draws : Draws) : InFlight → Desk
  | .invited body read =>
    match readGroup p d.db read.groupId body.joinerPubkey with
    | .error _ => d
    | .ok (group, count) => d.start (.counted body read group count)
  | .counted body read group _ =>
    let inviteId := read.signed.map Prod.fst
    match commitJoin p call draws d.db body read group with
    | .error _ => d
    | .ok (db, .pending requestId ..) => { d with db, parked := d.park inviteId requestId }
    | .ok (db, .granted ..) => { d with db, admitted := d.record inviteId body.joinerPubkey }
  | .approving groupId requestId group row =>
    match commitApproval p call draws d.db groupId requestId group row with
    | .error _ => d
    | .ok db => { d with db, admitted := d.record (d.parked.lookup requestId) row.joinerPubkey }
  | .revoking inviteId =>
    match commitRevocation d.db inviteId with
    | none => d
    | some db => { d with db, revoked := inviteId :: d.revoked }

def without (d : Desk) (index : Nat) : Desk := { d with flight := d.flight.eraseIdx index }

def step (d : Desk) : Event → Desk
  | .joinRequest call body =>
    match readInvite p call d.db body with
    | .error _ => d
    | .ok read => d.start (.invited body read)
  | .approve groupId requestId =>
    match readApproval p d.db groupId requestId with
    | .error _ => d
    | .ok (group, row) => d.start (.approving groupId requestId group row)
  | .revoke groupId inviteId =>
    match readRevocation p d.db groupId inviteId with
    | .ok true => d.start (.revoking inviteId)
    | _ => d
  | .resume index call draws =>
    match d.flight[index]? with
    | none => d
    | some f => (d.without index).resume p call draws f

end Step

end Desk

namespace Desk

variable {p : Primitives} {d : Desk}

/-! ## The effects of a step

`effect_step` says once what a step can do. The two invariants below are proved from it.
-/

def Reads (p : Primitives) (d : Desk) : InFlight → Prop
  | .invited body read => ∃ call, readInvite p call d.db body = .ok read
  | .counted body read group count =>
    .invited body read ∈ d.flight ∧ readGroup p d.db read.groupId body.joinerPubkey = .ok (group, count)
  | .approving groupId requestId group row => readApproval p d.db groupId requestId = .ok (group, row)
  | .revoking _ => True

inductive Effect (p : Primitives) (d : Desk) : Event → Desk → Prop
  | nothing {e : Event} {flight : List InFlight} (hsub : flight ⊆ d.flight) : Effect p d e { d with flight }
  | reads {e : Event} {flight : List InFlight} {f : InFlight} (hsub : flight ⊆ d.flight)
      (hf : d.Reads p f) :
    Effect p d e { d with flight := f :: flight }
  | parks {index : Nat} {call : Call} {draws : Draws} {body : JoinRequestBody} {read : InviteRead}
      {group : Group} {count : Nat} (hmem : d.flight[index]? = some (.counted body read group count))
      (pendingRequests : Table String JoinRequest) :
    Effect p d (.resume index call draws) { d.without index with
      db := { d.db with pendingRequests }
      parked := d.park (read.signed.map Prod.fst) draws.requestId }
  | admits {index : Nat} {call : Call} {draws : Draws} {body : JoinRequestBody} {read : InviteRead}
      {group : Group} {count : Nat} {db : AdmissionDb}
      (hmem : d.flight[index]? = some (.counted body read group count))
      (hopen : group.isPrivate = false)
      (hadds : AddsMember d.db.toDb db.toDb read.groupId body.joinerPubkey)
      (huses : UsesInvite call.now read.signed d.db.joinInvites db.joinInvites) :
    Effect p d (.resume index call draws) { d.without index with
      db := db
      admitted := d.record (read.signed.map Prod.fst) body.joinerPubkey }
  | approves {index : Nat} {call : Call} {draws : Draws} {groupId requestId : String} {group : Group}
      {row : JoinRequest} {db : AdmissionDb}
      (hmem : d.flight[index]? = some (.approving groupId requestId group row))
      (hadds : AddsMember d.db.toDb db.toDb groupId row.joinerPubkey)
      (hinvites : db.joinInvites = d.db.joinInvites) :
    Effect p d (.resume index call draws) { d.without index with
      db := db
      admitted := d.record (d.parked.lookup requestId) row.joinerPubkey }
  | revokes {index : Nat} {call : Call} {draws : Draws} {inviteId : String} {row : JoinInvite}
      (hmem : d.flight[index]? = some (.revoking inviteId))
      (hrow : d.db.joinInvites.get inviteId = some row) :
    Effect p d (.resume index call draws) { d.without index with
      db := { d.db with joinInvites := d.db.joinInvites.put inviteId { row with status := .revoked } }
      revoked := inviteId :: d.revoked }

theorem without_subset (index : Nat) : (d.without index).flight ⊆ d.flight := List.eraseIdx_subset

theorem effect_resume {index : Nat} {f : InFlight} (hmem : d.flight[index]? = some f) (call : Call) (draws : Draws) :
    Effect p d (.resume index call draws) ((d.without index).resume p call draws f) := by
  have hsub : (d.without index).flight ⊆ d.flight := without_subset index
  cases f with
  | invited body read =>
    unfold resume
    dsimp only
    split
    · exact .nothing hsub
    next group count hread => exact .reads hsub ⟨List.mem_of_getElem? hmem, hread⟩
  | counted body read group count =>
    unfold resume
    dsimp only
    cases hcommit : commitJoin p call draws (d.without index).db body read group with
    | error e => exact .nothing hsub
    | ok result =>
      obtain ⟨db, answer⟩ := result
      unfold commitJoin at hcommit
      split at hcommit
      · obtain ⟨⟨pendingRequests, rfl⟩, rfl⟩ := parkRequest_spec hcommit
        exact .parks hmem pendingRequests
      next hopen =>
        obtain ⟨hadds, huses, _, _, _, rfl⟩ := admitJoiner_spec hcommit
        exact .admits hmem (by simpa using hopen) hadds huses
  | approving groupId requestId group row =>
    unfold resume
    dsimp only
    split
    · exact .nothing hsub
    next db hcommit =>
      obtain ⟨hadds, hinvites⟩ := commitApproval_spec hcommit
      exact .approves hmem hadds hinvites
  | revoking inviteId =>
    unfold resume
    dsimp only
    split
    · exact .nothing hsub
    next db hcommit =>
      obtain ⟨row, hrow, rfl⟩ := Option.map_eq_some_iff.mp hcommit
      exact .revokes hmem hrow

theorem effect_step (p : Primitives) (d : Desk) (e : Event) : Effect p d e (d.step p e) := by
  cases e with
  | joinRequest call body =>
    unfold step
    dsimp only
    split
    · exact .nothing (.refl _)
    next read hread => exact .reads (.refl _) ⟨call, hread⟩
  | approve groupId requestId =>
    unfold step
    dsimp only
    split
    · exact .nothing (.refl _)
    next group row hread => exact .reads (.refl _) hread
  | revoke groupId inviteId =>
    unfold step
    dsimp only
    split
    · exact .reads (.refl _) trivial
    · exact .nothing (.refl _)
  | resume index call draws =>
    unfold step
    dsimp only
    split
    · exact .nothing (.refl _)
    next f hmem => exact effect_resume hmem call draws

end Desk

/-! ## The uses of an invite -/

def InFlight.signed : InFlight → Option (String × JoinInvite)
  | .invited _ read | .counted _ read _ _ => read.signed
  | .approving .. | .revoking _ => none

/-- Joins find the invite's row as they have read it, and approvals do not use it. -/
def InFlight.KeepsUses (d : Desk) (inviteId : String) : InFlight → Prop
  | .counted _ read group _ => group.isPrivate = false →
    ∀ s ∈ read.signed, s.1 = inviteId → d.db.joinInvites.get inviteId = some s.2
  | .approving _ requestId _ _ => d.parked.lookup requestId ≠ some inviteId
  | .invited .. | .revoking _ => True

instance InFlight.KeepsUses.instDecidable (d : Desk) (inviteId : String) :
    (f : InFlight) → Decidable (f.KeepsUses d inviteId)
  | .counted .. => inferInstanceAs (Decidable (_ → ∀ s ∈ _, _ → _ = _))
  | .approving .. => inferInstanceAs (Decidable (_ ≠ _))
  | .invited .. | .revoking _ => .isTrue trivial

namespace Desk

section Uses

variable {p : Primitives} {d : Desk} {inviteId : String} {m : Nat}

def KeepsUses (inviteId : String) (d : Desk) : Event → Prop
  | .resume index _ _ => ∀ f ∈ d.flight[index]?, f.KeepsUses d inviteId
  | _ => True

instance KeepsUses.instDecidable (inviteId : String) (d : Desk) : (e : Event) → Decidable (KeepsUses inviteId d e)
  | .resume .. => inferInstanceAs (Decidable (∀ f ∈ _, _))
  | .joinRequest .. | .approve .. | .revoke .. => .isTrue trivial

def admittedBy (d : Desk) (inviteId : String) : List Admitted := d.admitted.filter fun x => x.inviteId = inviteId

/-- At most `m` members came with the invite, none after its revocation. -/
structure WithinUses (inviteId : String) (m : Nat) (d : Desk) : Prop where
  uses : ((d.admittedBy inviteId).map Admitted.pubkey).dedup.length ≤ m
  onTime : ∀ x ∈ d.admittedBy inviteId, x.late = false

/-- The invite has `m` uses, and no request has read it yet. -/
structure JustIssued (inviteId : String) (m : Nat) (d : Desk) : Prop where
  row : ∃ row, d.db.joinInvites.get inviteId = some row ∧ row.maxUses = m ∧ row.usedCount = 0
  unread : ∀ f ∈ d.flight, ∀ s ∈ f.signed, s.1 ≠ inviteId
  unrevoked : inviteId ∉ d.revoked
  unused : d.admittedBy inviteId = []

/-- The row counts the members that came, and says whether it is revoked. -/
structure RowCounts (inviteId : String) (m : Nat) (d : Desk) (row : JoinInvite) : Prop where
  stored : d.db.joinInvites.get inviteId = some row
  maxUses : row.maxUses = m
  counts : row.usedCount = (d.admittedBy inviteId).length
  within : row.usedCount ≤ m
  revoked : inviteId ∈ d.revoked → row.status = .revoked

structure UsesInv (inviteId : String) (m : Nat) (d : Desk) : Prop where
  row : ∃ row, RowCounts inviteId m d row
  reads : ∀ f ∈ d.flight, ∀ s ∈ f.signed, s.1 = inviteId → s.2.Usable
  onTime : ∀ x ∈ d.admittedBy inviteId, x.late = false

theorem UsesInv.congr {d' : Desk} (h : UsesInv inviteId m d)
    (hrow : d'.db.joinInvites.get inviteId = d.db.joinInvites.get inviteId)
    (hadmitted : d'.admittedBy inviteId = d.admittedBy inviteId)
    (hrevoked : inviteId ∈ d'.revoked → inviteId ∈ d.revoked)
    (hreads : ∀ f ∈ d'.flight, ∀ s ∈ f.signed, s.1 = inviteId → s.2.Usable) : UsesInv inviteId m d' := by
  obtain ⟨row, hcounts⟩ := h.row
  refine ⟨⟨row, ?_, hcounts.maxUses, ?_, hcounts.within, fun hr => hcounts.revoked (hrevoked hr)⟩, hreads, ?_⟩
  · rw [hrow, hcounts.stored]
  · rw [hadmitted, hcounts.counts]
  rw [hadmitted]
  exact h.onTime

theorem admittedBy_record (o : Option String) (pubkey : String) (db : AdmissionDb) (flight : List InFlight) :
    ({ d with db, flight, admitted := d.record o pubkey } : Desk).admittedBy inviteId =
      if o = some inviteId then
        ⟨inviteId, pubkey, decide (inviteId ∈ d.revoked)⟩ :: d.admittedBy inviteId
      else d.admittedBy inviteId := by
  unfold admittedBy record
  cases o with
  | none => rfl
  | some i =>
    by_cases hi : i = inviteId
    · subst hi
      rw [if_pos rfl, List.filter_cons_of_pos (by simp)]
    · rw [if_neg (by simpa using hi), List.filter_cons_of_neg (by simpa using hi)]

theorem usable_of_reads (h : UsesInv inviteId m d) {f : InFlight} (hf : d.Reads p f)
    {s : String × JoinInvite} (hs : s ∈ f.signed) (hid : s.1 = inviteId) : s.2.Usable := by
  cases f with
  | invited body read =>
    obtain ⟨call, hread⟩ := hf
    exact (readInvite_spec hread hs).2
  | counted body read group count => exact h.reads _ hf.1 s hs hid
  | approving => cases hs
  | revoking => cases hs

theorem usesInv_use (hm : 0 < m) (h : UsesInv inviteId m d) {row : JoinInvite}
    (hrow : d.db.joinInvites.get inviteId = some row) (husable : row.Usable) (now pubkey : String)
    {db : AdmissionDb} {flight : List InFlight} (hsub : flight ⊆ d.flight)
    (hinvites : db.joinInvites.get inviteId = some (row.used row now)) :
    UsesInv inviteId m { d with db, flight, admitted := d.record (some inviteId) pubkey } := by
  obtain ⟨row', hcounts⟩ := h.row
  cases hrow.symm.trans hcounts.stored
  have hcap : row.cap = m := by
    unfold JoinInvite.cap
    rw [hcounts.maxUses, if_neg (by omega)]
  have hnot : inviteId ∉ d.revoked := fun hr => husable.1 (hcounts.revoked hr)
  have huses := husable.2.2
  refine ⟨⟨row.used row now, hinvites, hcounts.maxUses, ?_, ?_, fun hr => absurd hr hnot⟩, ?_, ?_⟩
  · rw [admittedBy_record, if_pos rfl, List.length_cons, ← hcounts.counts]
    rfl
  · show row.usedCount + 1 ≤ m
    omega
  · exact fun f hf => h.reads f (hsub hf)
  intro x hx
  rw [admittedBy_record, if_pos rfl] at hx
  rcases List.mem_cons.mp hx with rfl | hx
  · exact decide_eq_false hnot
  · exact h.onTime x hx

theorem usesInv_step (hm : 0 < m) (e : Event) (hkeeps : KeepsUses inviteId d e)
    (h : UsesInv inviteId m d) : UsesInv inviteId m (d.step p e) := by
  have heffect := effect_step p d e
  generalize d.step p e = d' at heffect
  cases heffect with
  | nothing hsub => exact h.congr rfl rfl id fun f hf => h.reads f (hsub hf)
  | reads hsub hf =>
    refine h.congr rfl rfl id fun f' hf' s hs hid => ?_
    rcases List.mem_cons.mp hf' with rfl | hf'
    · exact usable_of_reads h hf hs hid
    · exact h.reads f' (hsub hf') s hs hid
  | parks hmem pendingRequests => exact h.congr rfl rfl id fun f hf => h.reads f (without_subset _ hf)
  | @admits index call _ body read group count db hmem hopen hadds huses =>
    have hreads := fun f (hf : f ∈ (d.without index).flight) => h.reads f (without_subset _ hf)
    cases hsigned : read.signed with
    | none =>
      rw [hsigned] at huses
      refine h.congr ?_ ?_ id hreads
      · exact congrArg (fun t => Table.get t inviteId) huses
      · exact (admittedBy_record none body.joinerPubkey db _).trans (if_neg (by simp))
    | some s =>
      obtain ⟨i, row⟩ := s
      rw [hsigned] at huses
      obtain ⟨current, hcurrent, hinvites⟩ := huses
      by_cases hi : i = inviteId
      · subst hi
        -- the row is the one that was read
        have hrow : d.db.joinInvites.get i = some row := hkeeps _ hmem hopen (i, row) hsigned rfl
        obtain rfl : current = row := Option.some.inj (hcurrent.symm.trans hrow)
        have husable := h.reads _ (List.mem_of_getElem? hmem) (i, current) hsigned rfl
        refine usesInv_use hm h hrow husable call.now _ (without_subset index) ?_
        rw [hinvites, Table.get_put_self]
      refine h.congr ?_ ?_ id hreads
      · rw [hinvites, Table.get_put_ne _ _ (Ne.symm hi)]
      have hother : some i ≠ some inviteId := by simpa using hi
      exact (admittedBy_record (some i) body.joinerPubkey db _).trans (if_neg hother)
  | @approves index _ _ groupId requestId group row db hmem hadds hinvites =>
    have hother : d.parked.lookup requestId ≠ some inviteId := hkeeps _ hmem
    refine h.congr ?_ ?_ id fun f hf => h.reads f (without_subset _ hf)
    · exact congrArg (fun t => Table.get t inviteId) hinvites
    · exact (admittedBy_record _ row.joinerPubkey db _).trans (if_neg hother)
  | @revokes index _ _ i row hmem hrow =>
    have hreads := fun f (hf : f ∈ (d.without index).flight) => h.reads f (without_subset _ hf)
    by_cases hi : i = inviteId
    · subst hi
      obtain ⟨row', hcounts⟩ := h.row
      cases hrow.symm.trans hcounts.stored
      refine ⟨⟨{ row with status := .revoked }, ?_, hcounts.maxUses, hcounts.counts,
        hcounts.within, fun _ => rfl⟩, hreads, h.onTime⟩
      exact Table.get_put_self _ _ _
    refine h.congr (Table.get_put_ne _ _ (Ne.symm hi)) rfl (fun hr => ?_) hreads
    rcases List.mem_cons.mp hr with hr | hr
    · exact absurd hr.symm hi
    · exact hr

/-- **The uses of a signed invite.** -/
theorem invite_uses_bounded (p : Primitives) (inviteId : String) (m : Nat) (hm : 0 < m) (d : Desk)
    (hissued : JustIssued inviteId m d) (es : List Event) (hkeeps : Along (step p) (KeepsUses inviteId) d es) :
    WithinUses inviteId m (run (step p) d es) := by
  have hstart : UsesInv inviteId m d := by
    obtain ⟨row, hstored, hmax, hused⟩ := hissued.row
    refine ⟨⟨row, hstored, hmax, ?_, by omega, fun hr => absurd hr hissued.unrevoked⟩, ?_, ?_⟩
    · rw [hused, hissued.unused, List.length_nil]
    · exact fun f hf s hs hid => absurd hid (hissued.unread f hf s hs)
    rw [hissued.unused]
    exact fun x hx => absurd hx List.not_mem_nil
  have hend := run_invariant (fun d e hC hP => usesInv_step hm e hC hP) hstart hkeeps
  refine ⟨?_, hend.onTime⟩
  obtain ⟨row, hcounts⟩ := hend.row
  calc (((run (step p) d es).admittedBy inviteId).map Admitted.pubkey).dedup.length
      ≤ (((run (step p) d es).admittedBy inviteId).map Admitted.pubkey).length := (List.dedup_sublist _).length_le
    _ = row.usedCount := by rw [List.length_map, hcounts.counts]
    _ ≤ m := hcounts.within

end Uses

end Desk

/-! ## One invite, two requests -/

def exampleKey (c : Char) : String := String.ofList (List.replicate 64 c)

/-- Under these every signed invite is the invite `i` of the group `g`. -/
def exampleIssuer : Primitives :=
  { exampleFounder with
    verify := fun _ _ _ => true
    loads := fun _ => some (.obj [("payload", .obj [("invite_id", .str "i"), ("group_id", .str "g"),
        ("founder_pubkey", .str (exampleKey 'f')), ("issued_at", .str "1"),
        ("expires_at", .str "9"), ("max_uses", .int 1)]),
      ("signature", .str (String.ofList (List.replicate 128 '0')))]) }

def exampleDesk (privacyMode : String) : Desk where
  db := { exampleNode.db with
    groups := Table.put ∅ "g"
      { founderPubkey := "alice", groupSymkeyEnc := [], privacyMode := privacyMode, maxMembers := 3 }
    roles := Table.putAll ∅ [(("g", "founder"), ⟨allNonparametric, "1", "1"⟩)]
    joinInvites := Table.put ∅ "i" { groupId := "g", founderPubkey := exampleKey 'f', maxUses := 1 }
    inviteLinks := Table.put ∅ "token" ⟨"g", 0, 0, true, ""⟩ }
  flight := []
  parked := []
  revoked := []
  admitted := []

def exampleResume (id : String) : Desk.Event :=
  .resume 0 exampleCall ⟨"request " ++ id, "grant " ++ id, exampleSealing "1" "alice" 9⟩

def exampleJoin (id : String) (c : Char) : List Desk.Event :=
  [.joinRequest exampleCall { joinerPubkey := exampleKey c, signedInviteHex := "invite" },
    exampleResume id, exampleResume id]

def exampleTokenJoin (id : String) (c : Char) : List Desk.Event :=
  [.joinRequest exampleCall { joinerPubkey := exampleKey c, inviteToken := "token" },
    exampleResume id, exampleResume id]

def exampleApproval (id : String) : List Desk.Event := [.approve "g" ("request " ++ id), exampleResume id]

namespace Desk

theorem invite_used_once :
    let es := exampleJoin "1" 'b' ++ exampleJoin "2" 'c'
    let d := run (step exampleIssuer) (exampleDesk "open") es
    d.admitted = [⟨"i", exampleKey 'b', false⟩] ∧ WithinUses "i" 1 d := by
  intro es d
  obtain ⟨hadmitted, hkeeps⟩ : d.admitted = [⟨"i", exampleKey 'b', false⟩] ∧
      Along (step exampleIssuer) (KeepsUses "i") (exampleDesk "open") es := by
    decide +kernel
  refine ⟨hadmitted, invite_uses_bounded exampleIssuer "i" 1 (by decide) (exampleDesk "open") ?_ es
    hkeeps⟩
  exact ⟨⟨_, rfl, rfl, rfl⟩, fun f hf => absurd hf List.not_mem_nil, List.not_mem_nil, rfl⟩

/-- **Approvals use an invite without counting.** -/
theorem parked_requests_outlive_invite :
    let es := exampleJoin "1" 'b' ++ exampleJoin "2" 'c' ++ exampleApproval "1" ++
      [.revoke "g" "i", exampleResume ""] ++ exampleApproval "2"
    let d := run (step exampleIssuer) (exampleDesk "private") es
    JustIssued "i" 1 (exampleDesk "private") ∧
      d.admittedBy "i" = [⟨"i", exampleKey 'c', true⟩, ⟨"i", exampleKey 'b', false⟩] ∧
      ¬WithinUses "i" 1 d := by
  intro es d
  have hadmitted : d.admittedBy "i" = [⟨"i", exampleKey 'c', true⟩, ⟨"i", exampleKey 'b', false⟩] := by
    decide +kernel
  refine ⟨?_, hadmitted, fun h => ?_⟩
  · exact ⟨⟨_, rfl, rfl, rfl⟩, fun f hf => absurd hf List.not_mem_nil, List.not_mem_nil, rfl⟩
  have hlate := h.onTime ⟨"i", exampleKey 'c', true⟩ (by
    rw [hadmitted]
    exact .head _)
  cases hlate

end Desk

/-! ## The cap on members -/

/-- A join finds no more members than it has counted, an approval fewer than `k`. -/
def InFlight.KeepsCap (d : Desk) (groupId : String) (k : Nat) : InFlight → Prop
  | .counted _ read group count => group.isPrivate = false → read.groupId = groupId → d.db.memberCount groupId ≤ count
  | .approving approvedGroup _ _ _ => approvedGroup = groupId → d.db.memberCount groupId < k
  | .invited .. | .revoking _ => True

instance InFlight.KeepsCap.instDecidable (d : Desk) (groupId : String) (k : Nat) :
    (f : InFlight) → Decidable (f.KeepsCap d groupId k)
  | .counted .. => inferInstanceAs (Decidable (_ → _ → _ ≤ _))
  | .approving .. => inferInstanceAs (Decidable (_ → _ < _))
  | .invited .. | .revoking _ => .isTrue trivial

namespace Desk

section Cap

variable {p : Primitives} {d : Desk} {groupId : String} {k : Nat}

def KeepsCap (groupId : String) (k : Nat) (d : Desk) : Event → Prop
  | .resume index _ _ => ∀ f ∈ d.flight[index]?, f.KeepsCap d groupId k
  | _ => True

instance KeepsCap.instDecidable (groupId : String) (k : Nat) (d : Desk) :
    (e : Event) → Decidable (KeepsCap groupId k d e)
  | .resume .. => inferInstanceAs (Decidable (∀ f ∈ _, _))
  | .joinRequest .. | .approve .. | .revoke .. => .isTrue trivial

/-- The group has the cap `k`, and no request under way has counted `k` members. -/
structure CapInv (groupId : String) (k : Nat) (d : Desk) : Prop where
  within : d.db.memberCount groupId ≤ k
  cap : (d.db.groups.get groupId).map Group.maxMembers = some (k : Int)
  reads : ∀ body read group count, .counted body read group count ∈ d.flight → read.groupId = groupId → count < k

theorem capInv_adds {h : String} {db : AdmissionDb} {pubkey : String}
    (hadds : AddsMember d.db.toDb db.toDb h pubkey) (hinv : CapInv groupId k d)
    (hroom : h = groupId → d.db.memberCount groupId < k) {d' : Desk} (hdb : d'.db = db)
    (hsub : d'.flight ⊆ d.flight) : CapInv groupId k d' := by
  subst hdb
  refine ⟨?_, (hadds.caps groupId).trans hinv.cap, fun body read group count hmem =>
    hinv.reads body read group count (hsub hmem)⟩
  rw [hadds.memberCount groupId]
  by_cases hg : h = groupId
  · rw [if_pos hg]
    exact hroom hg
  rw [if_neg hg]
  exact hinv.within

theorem capInv_step (hk : 0 < k) (e : Event) (hkeeps : KeepsCap groupId k d e)
    (h : CapInv groupId k d) : CapInv groupId k (d.step p e) := by
  have heffect := effect_step p d e
  generalize d.step p e = d' at heffect
  cases heffect with
  | nothing hsub =>
    exact ⟨h.within, h.cap, fun body read group count hmem => h.reads body read group count (hsub hmem)⟩
  | reads hsub hf =>
    refine ⟨h.within, h.cap, fun body read group count hmem hgroup => ?_⟩
    rcases List.mem_cons.mp hmem with rfl | hmem
    · -- the request has just counted the members, under the cap
      obtain ⟨hget, hcount, hroom⟩ := readGroup_spec hf.2
      have hcap := h.cap
      rw [← hgroup, hget, Option.map_some] at hcap
      have hcap : group.maxMembers = (k : Int) := Option.some.inj hcap
      rw [hcap] at hroom
      omega
    · exact h.reads body read group count (hsub hmem) hgroup
  | @parks index _ _ _ _ _ _ hmem pendingRequests =>
    exact ⟨h.within, h.cap, fun body read group count hmem =>
      h.reads body read group count (without_subset index hmem)⟩
  | @admits index _ _ body read group count db hmem hopen hadds huses =>
    refine capInv_adds hadds h (fun hgroup => ?_) rfl (without_subset index)
    have hcount := hkeeps _ hmem hopen hgroup
    have hread := h.reads body read group count (List.mem_of_getElem? hmem) hgroup
    omega
  | @approves index _ _ approvedGroup requestId group row db hmem hadds hinvites =>
    exact capInv_adds hadds h (hkeeps _ hmem) rfl (without_subset index)
  | @revokes index _ _ i row hmem hrow =>
    exact ⟨h.within, h.cap, fun body read group count hmem =>
      h.reads body read group count (without_subset index hmem)⟩

/-- **The cap on the members.** -/
theorem members_within_cap (p : Primitives) (groupId : String) (k : Nat) (hk : 0 < k) (d : Desk)
    (hcap : (d.db.groups.get groupId).map Group.maxMembers = some (k : Int))
    (hstart : d.db.memberCount groupId ≤ k) (hflight : d.flight = []) (es : List Event)
    (hkeeps : Along (step p) (KeepsCap groupId k) d es) : (run (step p) d es).db.memberCount groupId ≤ k := by
  have hinv : CapInv groupId k d := by
    refine ⟨hstart, hcap, fun body read group count hmem => ?_⟩
    rw [hflight] at hmem
    cases hmem
  have hend := run_invariant (fun d e hC hP => capInv_step hk e hC hP) hinv hkeeps
  exact hend.within

end Cap

theorem group_filled_up :
    let es := exampleTokenJoin "1" 'b' ++ exampleTokenJoin "2" 'c'
    let d := run (step exampleIssuer) (exampleDesk "open") es
    d.db.memberCount "g" = 3 ∧ d.db.memberCount "g" ≤ 3 := by
  intro es d
  obtain ⟨hcount, hkeeps⟩ : d.db.memberCount "g" = 3 ∧
      Along (step exampleIssuer) (KeepsCap "g" 3) (exampleDesk "open") es := by
    decide +kernel
  exact ⟨hcount, members_within_cap exampleIssuer "g" 3 (by decide) (exampleDesk "open") rfl
    (by decide) rfl es hkeeps⟩

/-- **Approvals do not look at the cap.** A private group with two members and room for three approves two requests.
-/
theorem approvals_exceed_cap :
    let es := exampleTokenJoin "1" 'b' ++ exampleTokenJoin "2" 'c' ++ exampleApproval "1" ++ exampleApproval "2"
    (exampleDesk "private").db.memberCount "g" = 2 ∧
      ((exampleDesk "private").db.groups.get "g").map Group.maxMembers = some 3 ∧
      (run (step exampleIssuer) (exampleDesk "private") es).db.memberCount "g" = 4 := by
  decide +kernel

end Desk

end NexusGrid.Groups

import NexusGrid.Lib.Run
import NexusGrid.Storage.Deposit

/-! # Automatic offers

In automatic mode the depositor offers a deposit to several candidates at once and keeps the row in `offering_multi`
until one of them accepts.
-/

namespace NexusGrid.Storage

open Lib

structure AutoRow where
  status : DepositStatus
  hostUuid : String
  hostSignature : String
deriving DecidableEq

/-- A session that read `seen` and wants `new` writes changed columns only. -/
def AutoRow.commit (row seen new : AutoRow) : AutoRow where
  status := if new.status = seen.status then row.status else new.status
  hostUuid := if new.hostUuid = seen.hostUuid then row.hostUuid else new.hostUuid
  hostSignature := if new.hostSignature = seen.hostSignature then row.hostSignature else new.hostSignature

theorem AutoRow.commit_status (row seen : AutoRow) (status : DepositStatus) : row.commit seen { seen with status } =
      { row with status := if status = seen.status then row.status else status } := by
  simp [AutoRow.commit]

/-- The session of `_handle_offer_response`, between its read and its commit. -/
structure Responding where
  peer : String
  seen : AutoRow
  new : AutoRow
deriving DecidableEq

inductive AutoWriter
  | rejected (peer : String)
  | timeoutPass
  | userDelete
deriving DecidableEq

structure StatusWrite where
  writer : AutoWriter
  seen : AutoRow
  status : DepositStatus
deriving DecidableEq

structure AutoOffer where
  row : AutoRow
  /-- `STATE.foreign_storage_auto_candidates`. -/
  candidates : Option (List String)
  /-- `STATE.foreign_storage_auto_started_at` has an entry. -/
  started : Bool
  responding : Option Responding
  writes : List StatusWrite
  winners : List String
  cancelled : List String
deriving DecidableEq

inductive AutoEvent
  | response (peer : String) (accepted : Bool) (hostSignature : String)
  | commitResponse
  /-- `_handle_offer_rejected` reads the row. -/
  | rejected (peer : String)
  /-- `elapsed` tells whether the offer is over time. -/
  | timeoutPass (elapsed : Bool)
  | userDelete
  /-- One of the sessions without the lock commits. -/
  | commitWrite (i : Nat)
  /-- The transfer to the winner writes the row. -/
  | transfer (status : DepositStatus)
deriving DecidableEq

namespace AutoOffer

/-- The state after `foreign_storage_deposit` has fanned the offer out. -/
def init (fanOut : List String) : AutoOffer where
  row := ⟨.offeringMulti, "", ""⟩
  candidates := some fanOut
  started := true
  responding := none
  writes := []
  winners := []
  cancelled := []

/-- `_handle_offer_response`, from the read of the row to the commit. -/
def handleOfferResponse (s : AutoOffer) (peer : String) (accepted : Bool) (hostSignature : String) : AutoOffer :=
  let others := (s.candidates.getD []).filter (· ≠ peer)
  let session (new : AutoRow) : Option Responding := some ⟨peer, s.row, new⟩
  if s.row.status = .offeringMulti then
    if accepted then
      { s with
        candidates := none, started := false, cancelled := s.cancelled ++ others
        responding := session ⟨.transferring, peer, hostSignature⟩ }
    else if others = [] then
      { s with
        candidates := none, started := false
        responding := session { s.row with status := .withdrawn } }
    else { s with candidates := some others }
  else if accepted ∧ (s.row.status = .transferring ∨ s.row.status = .stored) then
    { s with cancelled := s.cancelled ++ [peer] }
  else if accepted then
    { s with responding := session { s.row with status := .transferring, hostSignature } }
  else
    { s with responding := session { s.row with status := .declined, hostSignature := "" } }

/-- `_foreign_storage_auto_offer_timeout_pass`. -/
def handleTimeout (s : AutoOffer) (elapsed : Bool) : AutoOffer :=
  if s.row.status = .offeringMulti ∧ (elapsed ∨ s.started = false) then
    { s with
      candidates := none, started := false
      cancelled := s.cancelled ++ if s.started then s.candidates.getD [] else []
      writes := s.writes ++ [⟨.timeoutPass, s.row, .withdrawn⟩] }
  else s

/-- Commit of session `w`. -/
def commitStatus (s : AutoOffer) (w : StatusWrite) : AutoOffer :=
  let s := { s with row := s.row.commit w.seen { w.seen with status := w.status } }
  if w.writer = .userDelete ∧ w.seen.status = .offeringMulti then
    { s with
      candidates := none, started := false, cancelled := s.cancelled ++ s.candidates.getD [] }
  else s

def transferStatus (status : DepositStatus) : Bool := status.inFlight || status = .stored || status = .failedInTransit

def step (s : AutoOffer) : AutoEvent → AutoOffer
  | .response peer accepted hostSignature =>
    -- the lock is taken
    if s.responding.isSome then s else s.handleOfferResponse peer accepted hostSignature
  | .commitResponse =>
    match s.responding with
    | none => s
    | some r =>
      { s with
        row := s.row.commit r.seen r.new
        responding := none
        winners := s.winners ++ if r.new.hostUuid = r.seen.hostUuid then [] else [r.new.hostUuid] }
  | .rejected peer => { s with writes := s.writes ++ [⟨.rejected peer, s.row, .rejected⟩] }
  | .timeoutPass elapsed => s.handleTimeout elapsed
  | .userDelete => { s with writes := s.writes ++ [⟨.userDelete, s.row, .withdrawn⟩] }
  | .commitWrite i =>
    match s.writes[i]? with
    | none => s
    | some w => { s.commitStatus w with writes := s.writes.eraseIdx i }
  | .transfer status =>
    if s.winners ≠ [] ∧ transferStatus status then { s with row := { s.row with status } } else s

/-! ## At most one winner

The lock makes this true in every run: the row leaves `offering_multi` with the commit that
assigns a host, nothing writes `offering_multi` again, and only a session that read
`offering_multi` assigns a host. -/

structure Arbitrated (s : AutoOffer) : Prop where
  winners : s.winners = if s.row.hostUuid = "" then [] else [s.row.hostUuid]
  open_unassigned : s.row.status = .offeringMulti → s.row.hostUuid = ""
  assigning : ∀ r, s.responding = some r → r.new.hostUuid ≠ r.seen.hostUuid →
    r.seen.status = .offeringMulti ∧ r.seen.hostUuid = "" ∧ s.row.hostUuid = ""
  responding_closes : ∀ r, s.responding = some r → r.new.status ≠ .offeringMulti
  writes_close : ∀ w ∈ s.writes, w.status ≠ .offeringMulti

variable {s : AutoOffer}

theorem arbitrated_init (fanOut : List String) : (init fanOut).Arbitrated where
  winners := rfl
  open_unassigned _ := rfl
  assigning _ h := nomatch h
  responding_closes _ h := nomatch h
  writes_close _ h := nomatch h

@[simp] theorem handleOfferResponse_keeps (peer : String) (accepted : Bool) (sig : String) :
    (s.handleOfferResponse peer accepted sig).row = s.row ∧
      (s.handleOfferResponse peer accepted sig).winners = s.winners ∧
      (s.handleOfferResponse peer accepted sig).writes = s.writes := by
  unfold handleOfferResponse
  dsimp only
  split_ifs <;> exact ⟨rfl, rfl, rfl⟩

/-- The session that an answer opens. -/
theorem handleOfferResponse_responding {peer : String} {accepted : Bool} {sig : String}
    (hfree : s.responding = none) {r : Responding} (h : (s.handleOfferResponse peer accepted sig).responding = some r) :
    r.peer = peer ∧ r.seen = s.row ∧ r.new.status ≠ .offeringMulti ∧ (r.new.hostUuid = s.row.hostUuid ∨
        s.row.status = .offeringMulti ∧ r.new.hostUuid = peer) ∧ (s.row.status = .offeringMulti ∨
        ¬(accepted = true ∧ (s.row.status = .transferring ∨ s.row.status = .stored))) := by
  unfold handleOfferResponse at h
  dsimp only at h
  split_ifs at h with hopen hacc hothers hlate hacc'
  · cases h
    exact ⟨rfl, rfl, by simp, .inr ⟨hopen, rfl⟩, .inl hopen⟩
  · cases h
    exact ⟨rfl, rfl, by simp, .inl rfl, .inl hopen⟩
  · exact absurd (hfree.symm.trans h) (by simp)
  · exact absurd (hfree.symm.trans h) (by simp)
  · cases h
    exact ⟨rfl, rfl, by simp, .inl rfl, .inr hlate⟩
  cases h
  exact ⟨rfl, rfl, by simp, .inl rfl, .inr hlate⟩

theorem arbitrated_response (h : s.Arbitrated) (hfree : s.responding = none) (peer : String)
    (accepted : Bool) (sig : String) : (s.handleOfferResponse peer accepted sig).Arbitrated where
  winners := by simpa using h.winners
  open_unassigned := by simpa using h.open_unassigned
  assigning r hr hne := by
    obtain ⟨-, hseen, -, hhost, -⟩ := handleOfferResponse_responding hfree hr
    rw [hseen] at hne ⊢
    rcases hhost with heq | ⟨hopen, -⟩
    · exact absurd heq hne
    have hrow := h.open_unassigned hopen
    exact ⟨hopen, hrow, by simpa using hrow⟩
  responding_closes r hr := (handleOfferResponse_responding hfree hr).2.2.1
  writes_close := by simpa using h.writes_close

theorem arbitrated_commitResponse (h : s.Arbitrated) : (s.step .commitResponse).Arbitrated := by
  simp only [step]
  split
  case h_1 => exact h
  case h_2 r hr =>
    have hclose := h.responding_closes r hr
    by_cases hassign : r.new.hostUuid = r.seen.hostUuid
    · refine ⟨?_, ?_, by simp, by simp, h.writes_close⟩
      · simpa [AutoRow.commit, hassign] using h.winners
      simp only [AutoRow.commit, hassign, if_true]
      split_ifs
      · exact h.open_unassigned
      · exact fun hst => absurd hst hclose
    -- the row had no host, and gets one together with a closed status
    obtain ⟨hseen, hseenHost, hrowHost⟩ := h.assigning r hr hassign
    have hnew : r.new.hostUuid ≠ "" := fun hempty => hassign (hempty.trans hseenHost.symm)
    have hwinners : s.winners = [] := by simpa [hrowHost] using h.winners
    refine ⟨?_, ?_, by simp, by simp, h.writes_close⟩
    · simp [AutoRow.commit, hassign, hwinners, hnew]
    have hst : r.new.status ≠ r.seen.status := fun heq => hclose (heq.trans hseen)
    simp only [AutoRow.commit, if_neg hst]
    exact fun hopen => absurd hopen hclose

theorem Arbitrated.of_status {s' : AutoOffer} (h : s.Arbitrated) (hwin : s'.winners = s.winners)
    (hhost : s'.row.hostUuid = s.row.hostUuid)
    (hstatus : s'.row.status = s.row.status ∨ s'.row.status ≠ .offeringMulti) (hresp : s'.responding = s.responding)
    (hwrites : ∀ w ∈ s'.writes, w.status ≠ .offeringMulti) : s'.Arbitrated where
  winners := by rw [hwin, hhost, h.winners]
  open_unassigned hopen := by
    rw [hhost]
    rcases hstatus with heq | hne
    · exact h.open_unassigned (heq ▸ hopen)
    · exact absurd hopen hne
  assigning r hr hne := by
    rw [hhost]
    exact h.assigning r (hresp ▸ hr) hne
  responding_closes r hr := h.responding_closes r (hresp ▸ hr)
  writes_close := hwrites

theorem Arbitrated.append_writes (h : s.Arbitrated) {w : StatusWrite}
    (hw : w.status ≠ .offeringMulti) : ∀ w' ∈ s.writes ++ [w], w'.status ≠ .offeringMulti := by
  intro w' hw'
  rcases List.mem_append.mp hw' with hmem | hmem
  · exact h.writes_close w' hmem
  · rwa [List.mem_singleton.mp hmem]

theorem commitStatus_row (w : StatusWrite) : (s.commitStatus w).row =
    { s.row with status := if w.status = w.seen.status then s.row.status else w.status } := by
  unfold commitStatus
  dsimp only
  rw [AutoRow.commit_status]
  split <;> rfl

@[simp] theorem commitStatus_keeps (w : StatusWrite) :
    (s.commitStatus w).winners = s.winners ∧ (s.commitStatus w).responding = s.responding := by
  unfold commitStatus
  split_ifs <;> exact ⟨rfl, rfl⟩

/-- **One step** keeps the arbitration, whatever it is. -/
theorem arbitrated_step (h : s.Arbitrated) (e : AutoEvent) : (s.step e).Arbitrated := by
  cases e with
  | response peer accepted sig =>
    simp only [step]
    split
    case isTrue => exact h
    case isFalse hfree => exact arbitrated_response h (by simpa using hfree) peer accepted sig
  | commitResponse => exact arbitrated_commitResponse h
  | rejected peer => exact h.of_status rfl rfl (.inl rfl) rfl (h.append_writes (by simp))
  | timeoutPass elapsed =>
    simp only [step, handleTimeout]
    split
    · exact h.of_status rfl rfl (.inl rfl) rfl (h.append_writes (by simp))
    · exact h
  | userDelete => exact h.of_status rfl rfl (.inl rfl) rfl (h.append_writes (by simp))
  | commitWrite i =>
    simp only [step]
    split
    case h_1 => exact h
    case h_2 w hw =>
      -- a status write may overwrite a newer row, but it never reopens the offer
      have hclose := h.writes_close w (List.mem_of_getElem? hw)
      refine h.of_status (by simp) (by simp [commitStatus_row]) ?_ (by simp)
        fun w' hw' => h.writes_close w' (List.mem_of_mem_eraseIdx hw')
      simp only [commitStatus_row]
      split_ifs
      · exact .inl rfl
      · exact .inr hclose
  | transfer status =>
    simp only [step]
    split
    case isTrue hst =>
      refine h.of_status rfl rfl (.inr ?_) rfl h.writes_close
      rintro rfl
      simp [transferStatus, DepositStatus.inFlight] at hst
    case isFalse => exact h

/-- **At most one winner**, in every run. -/
theorem arbitrated_run (fanOut : List String) (es : List AutoEvent) : (run step (init fanOut) es).Arbitrated :=
  run_invariant_of_step (P := Arbitrated) (fun _ e h => arbitrated_step h e)
    (arbitrated_init fanOut) es

def answers (s : AutoOffer) : AutoEvent → Option String
  | .response peer _ _ => some peer
  | .commitResponse => s.responding.map Responding.peer
  | .rejected peer => some peer
  | .commitWrite i =>
    match s.writes[i]? with
    | some ⟨.rejected peer, _, _⟩ => some peer
    | _ => none
  | _ => none

/-- The row can still take an answer of this peer. -/
def openTo (row : AutoRow) (peer : String) : Bool :=
  row.status ≠ .withdrawn && (row.hostUuid = "" || row.hostUuid = peer)

/-- An answer comes in time, or from a peer the row is still open to. -/
def timely (fanOut : List String) (s : AutoOffer) : AutoEvent → Bool
  | .response peer accepted _ =>
    if s.row.status = .offeringMulti then peer ∈ fanOut
    else accepted && (s.row.status = .transferring || s.row.status = .stored) || openTo s.row peer
  | .rejected peer => openTo s.row peer
  | .commitResponse =>
    match s.responding with
    | some r => r.seen = s.row
    | none => true
  | .commitWrite i =>
    match s.writes[i]? with
    | some ⟨.rejected _, seen, _⟩ => seen = s.row
    | _ => true
  | _ => true

structure InTime (fanOut : List String) (s : AutoOffer) : Prop where
  responding : ∀ r, s.responding = some r → openTo r.seen r.peer = true ∧
    (r.new.hostUuid = r.seen.hostUuid ∨ r.new.hostUuid = r.peer ∧ r.peer ∈ fanOut)
  rejecting : ∀ w ∈ s.writes, ∀ peer, w.writer = .rejected peer → openTo w.seen peer = true
  winners : ∀ w ∈ s.winners, w ∈ fanOut

theorem inTime_init (fanOut : List String) : (init fanOut).InTime fanOut where
  responding _ h := nomatch h
  rejecting _ h := nomatch h
  winners _ h := nomatch h

variable {fanOut : List String}

theorem InTime.append_write (h : s.InTime fanOut) {w : StatusWrite}
    (hw : ∀ peer, w.writer = .rejected peer → openTo w.seen peer = true) :
    ∀ w' ∈ s.writes ++ [w], ∀ peer, w'.writer = .rejected peer → openTo w'.seen peer = true := by
  intro w' hw'
  rcases List.mem_append.mp hw' with hmem | hmem
  · exact h.rejecting w' hmem
  rw [List.mem_singleton.mp hmem]
  exact hw

theorem inTime_response (h : s.InTime fanOut) (harb : s.Arbitrated) (hfree : s.responding = none)
    {peer : String} {accepted : Bool} {sig : String} (htimely : s.timely fanOut (.response peer accepted sig) = true) :
    (s.handleOfferResponse peer accepted sig).InTime fanOut where
  responding r hr := by
    obtain ⟨hpeer, hseen, -, hhost, hstatus⟩ := handleOfferResponse_responding hfree hr
    rw [hpeer, hseen]
    simp only [timely] at htimely
    by_cases hopen : s.row.status = .offeringMulti
    · rw [if_pos hopen] at htimely
      have hmem : peer ∈ fanOut := by simpa using htimely
      exact ⟨by simp [openTo, hopen, harb.open_unassigned hopen], hhost.imp_right fun ⟨_, hnew⟩ => ⟨hnew, hmem⟩⟩
    have hlate := hstatus.resolve_left hopen
    rw [if_neg hopen] at htimely
    simp only [Bool.or_eq_true, Bool.and_eq_true, decide_eq_true_eq] at htimely
    exact ⟨htimely.resolve_left hlate, .inl (hhost.resolve_right fun hc => hopen hc.1)⟩
  rejecting := by simpa using h.rejecting
  winners := by simpa using h.winners

/-- **One step** of an answer in time keeps what the sessions know. -/
theorem inTime_step (h : s.InTime fanOut) (harb : s.Arbitrated) {e : AutoEvent}
    (htimely : s.timely fanOut e = true) : (s.step e).InTime fanOut := by
  cases e with
  | response peer accepted sig =>
    simp only [step]
    split
    case isTrue => exact h
    case isFalse hfree => exact inTime_response h harb (by simpa using hfree) htimely
  | commitResponse =>
    simp only [step]
    split
    case h_1 => exact h
    case h_2 r hr =>
      refine ⟨by simp, h.rejecting, fun w hw => ?_⟩
      rcases List.mem_append.mp hw with hw | hw
      · exact h.winners w hw
      split_ifs at hw with hsame
      · exact absurd hw List.not_mem_nil
      obtain ⟨hnew, hmem⟩ := (h.responding r hr).2.resolve_left hsame
      rwa [List.mem_singleton.mp hw, hnew]
  | rejected peer =>
    refine ⟨h.responding, h.append_write fun p hp => ?_, h.winners⟩
    obtain rfl : peer = p := by simpa using hp
    exact htimely
  | timeoutPass elapsed =>
    simp only [step, handleTimeout]
    split
    · exact ⟨h.responding, h.append_write (by simp), h.winners⟩
    · exact h
  | userDelete => exact ⟨h.responding, h.append_write (by simp), h.winners⟩
  | commitWrite i =>
    simp only [step]
    split
    case h_1 => exact h
    case h_2 w hw =>
      exact ⟨by simpa using h.responding,
        fun w' hw' => h.rejecting w' (List.mem_of_mem_eraseIdx hw'), by simpa using h.winners⟩
  | transfer status =>
    simp only [step]
    split
    · exact ⟨h.responding, h.rejecting, h.winners⟩
    · exact h

theorem row_eq_or_openTo (h : s.InTime fanOut) {e : AutoEvent} {peer : String}
    (htimely : s.timely fanOut e = true) (hanswers : s.answers e = some peer) :
    (s.step e).row = s.row ∨ openTo s.row peer = true := by
  cases e with
  | response p accepted sig =>
    refine .inl ?_
    simp only [step]
    split
    · rfl
    · exact (handleOfferResponse_keeps p accepted sig).1
  | commitResponse =>
    cases hr : s.responding with
    | none => exact .inl (by simp [step, hr])
    | some r =>
      have hseen : r.seen = s.row := by simpa [timely, hr] using htimely
      obtain rfl : r.peer = peer := by simpa [answers, hr] using hanswers
      exact .inr (hseen ▸ (h.responding r hr).1)
  | rejected p => exact .inl rfl
  | commitWrite i =>
    cases hw : s.writes[i]? with
    | none => exact .inl (by simp [step, hw])
    | some w =>
      obtain ⟨writer, seen, status⟩ := w
      cases writer with
      | rejected p =>
        have hseen : seen = s.row := by simpa [timely, hw] using htimely
        obtain rfl : p = peer := by simpa [answers, hw] using hanswers
        exact .inr (hseen ▸ h.rejecting _ (List.mem_of_getElem? hw) p rfl)
      | timeoutPass => simp [answers, hw] at hanswers
      | userDelete => simp [answers, hw] at hanswers
  | timeoutPass elapsed => simp [answers] at hanswers
  | userDelete => simp [answers] at hanswers
  | transfer status => simp [answers] at hanswers

theorem inTime_run {es : List AutoEvent} (hes : Along step (fun s e => s.timely fanOut e = true) (init fanOut) es) :
    (run step (init fanOut) es).Arbitrated ∧ (run step (init fanOut) es).InTime fanOut :=
  run_invariant (P := fun s => s.Arbitrated ∧ s.InTime fanOut)
    (fun _ e htimely h => ⟨arbitrated_step h.1 e, inTime_step h.2 h.1 htimely⟩)
    ⟨arbitrated_init fanOut, inTime_init fanOut⟩ hes

/-- **Arbitration of answers that come in time.** -/
theorem single_winner_of_timely (fanOut : List String) (es : List AutoEvent)
    (hes : Along step (fun s e => s.timely fanOut e = true) (init fanOut) es) :
    (run step (init fanOut) es).winners.length ≤ 1 ∧ (∀ w ∈ (run step (init fanOut) es).winners, w ∈ fanOut) ∧
      ∀ pre e peer, pre ++ [e] <+: es → (run step (init fanOut) pre).answers e = some peer →
        ((∃ w ∈ (run step (init fanOut) pre).winners, w ≠ peer) →
          ((run step (init fanOut) pre).step e).row = (run step (init fanOut) pre).row) ∧
        ((run step (init fanOut) pre).row.status = .withdrawn →
          ((run step (init fanOut) pre).step e).row.status = .withdrawn) := by
  refine ⟨?_, (inTime_run hes).2.winners, fun pre e peer hpre hanswers => ?_⟩
  · rw [(inTime_run hes).1.winners]
    split_ifs <;> simp
  have hpre' := (along_concat ..).mp (hes.of_prefix hpre)
  obtain ⟨harb, hintime⟩ := inTime_run hpre'.1
  rcases row_eq_or_openTo hintime hpre'.2 hanswers with hsame | hopen
  · exact ⟨fun _ => hsame, fun hst => hsame ▸ hst⟩
  simp only [openTo, ne_eq, decide_not, Bool.and_eq_true, Bool.not_eq_true',
    decide_eq_false_iff_not, Bool.or_eq_true, decide_eq_true_eq] at hopen
  refine ⟨?_, fun hst => absurd hst hopen.1⟩
  rintro ⟨w, hw, hne⟩
  rw [harb.winners] at hw
  split_ifs at hw with hhost
  · exact absurd hw List.not_mem_nil
  rw [List.mem_singleton.mp hw] at hne
  exact absurd (hopen.2.resolve_left hhost) hne

/-- One of two candidates accepts, and the other one accepts late. -/
theorem single_winner_late_accept : (run step (init ["a", "b"])
      [.response "a" true "sig", .commitResponse, .response "b" true ""]).winners.length ≤ 1 :=
  (single_winner_of_timely ["a", "b"]
    [.response "a" true "sig", .commitResponse, .response "b" true ""] (by decide)).1

/-- **Late answers.** -/
theorem late_answers_change_row :
    let won := run step (init ["a", "b"]) [.response "a" true "sig", .commitResponse]
    let lost := run step won [.response "b" false "", .commitResponse]
    let withdrawn := run step (init ["a", "b"]) [.userDelete, .commitWrite 0]
    let revived := run step withdrawn [.response "a" true "sig", .commitResponse]
    let stolen := run step (init ["a", "b"]) [.response "c" true "sig", .commitResponse]
    (won.row = ⟨.transferring, "a", "sig"⟩ ∧ lost.row = ⟨.declined, "a", ""⟩) ∧
      (withdrawn.row.status = .withdrawn ∧ revived.row.status = .transferring) ∧
      stolen.winners = ["c"] := by
  decide

end AutoOffer

end NexusGrid.Storage

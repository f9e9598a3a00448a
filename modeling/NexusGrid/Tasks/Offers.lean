import NexusGrid.Tasks.Workflow

/-! # Pending offers

`STATE.pending_task_offers` under polls, answers and expiry.
-/

namespace NexusGrid.Tasks

open Lib

/-- A refused `api_accept_offer` on its way to put the offer back. -/
structure RefusedAccept where
  workerId : String
  taskId : String
  offer : Offer

structure OfferDesk where
  /-- `STATE.pending_task_offers`. -/
  offers : Table String Offer
  /-- `STATE.consent_strikes`, by task and worker. -/
  strikes : Table (String × String) Nat
  refused : List RefusedAccept

/-- What a handler does while it holds the lock. -/
inductive OfferEvent
  | offer (taskId : String) (o : Offer)
  | supersede (taskId : String)
  | accept (workerId taskId : String)
  | putBack (index : Nat)
  | decline (workerId taskId : String)
  | expire (now : Nat) (taskId : String)

namespace OfferDesk

def strike (s : OfferDesk) (taskId workerId : String) : OfferDesk :=
  { s with strikes := s.strikes.put (taskId, workerId) ((s.strikes.get (taskId, workerId)).getD 0 + 1) }

def step (s : OfferDesk) : OfferEvent → OfferDesk
  | .offer taskId o => { s with offers := s.offers.put taskId o }
  | .supersede taskId => { s with offers := s.offers.delete taskId }
  | .accept workerId taskId =>
    match s.offers.get taskId with
    | none => s
    | some o =>
      { s with
        offers := s.offers.delete taskId
        refused := if o.workerId ≠ workerId then s.refused ++ [⟨workerId, taskId, o⟩] else s.refused }
  | .putBack index =>
    match s.refused[index]? with
    | none => s
    | some r => { s with offers := s.offers.put r.taskId r.offer, refused := s.refused.eraseIdx index }
  | .decline workerId taskId =>
    match s.offers.get taskId with
    | none => s
    | some _ => { s with offers := s.offers.delete taskId }.strike taskId workerId
  | .expire now taskId =>
    match s.offers.get taskId with
    | none => s
    | some o =>
      if now - o.offeredAt ≤ o.timeout then s
      else { s with offers := s.offers.delete taskId }.strike taskId o.workerId

/-- The worker whose answer is handled. -/
def answers (s : OfferDesk) : OfferEvent → Option String
  | .accept workerId _ | .decline workerId _ => some workerId
  | .putBack index => (s.refused[index]?).map RefusedAccept.workerId
  | _ => none

/-- An answer of `w` touches no other offer, and strikes `w` for its own only. -/
def Harmless (s : OfferDesk) (ev : OfferEvent) : Prop := ∀ w, s.answers ev = some w →
    (∀ taskId o, o.workerId ≠ w → ((s.step ev).offers.get taskId = some o ↔ s.offers.get taskId = some o)) ∧
      ∀ taskId, (s.step ev).strikes.get (taskId, w) ≠ s.strikes.get (taskId, w) →
        ∃ o, s.offers.get taskId = some o ∧ o.workerId = w

/-- Whoever answers was asked, or there is no offer. -/
def Asked (s : OfferDesk) : OfferEvent → Prop
  | .accept workerId taskId | .decline workerId taskId => ∀ o ∈ s.offers.get taskId, o.workerId = workerId
  | _ => True

variable {s : OfferDesk} {ev : OfferEvent} {w taskId : String}

theorem delete_spares_iff {offers : Table String Offer} :
    (∀ id o, o.workerId ≠ w → ((offers.delete taskId).get id = some o ↔ offers.get id = some o)) ↔
      ∀ o ∈ offers.get taskId, o.workerId = w := by
  constructor
  · intro h o ho
    by_contra hother
    have hkept := (h taskId o hother).mpr ho
    rw [Table.get_delete, if_pos rfl] at hkept
    cases hkept
  intro h id o hother
  rw [Table.get_delete]
  split
  next hid =>
    refine iff_of_false (by simp) fun ho => hother (h o ?_)
    rwa [← hid]
  · exact Iff.rfl

theorem harmless_of_no_answer (h : s.answers ev = none) : s.Harmless ev := by
  intro w hw
  rw [h] at hw
  cases hw

theorem harmless_of_step_eq (h : s.step ev = s) : s.Harmless ev := by
  intro w _
  rw [h]
  exact ⟨fun _ _ _ => Iff.rfl, fun _ hne => absurd rfl hne⟩

theorem harmless_iff_asked (hrefused : s.refused = []) : s.Harmless ev ↔ s.Asked ev := by
  cases ev with
  | accept w taskId =>
    cases ho : s.offers.get taskId with
    | none => exact iff_of_true (harmless_of_step_eq (by simp [step, ho])) (by simp [Asked, ho])
    | some o =>
      have hoffers : (s.step (.accept w taskId)).offers = s.offers.delete taskId := by simp [step, ho]
      have hstrikes : (s.step (.accept w taskId)).strikes = s.strikes := by simp [step, ho]
      simp only [Harmless, answers, Option.some.injEq, forall_eq', hoffers, hstrikes, ne_eq, not_true_eq_false,
        false_implies, implies_true, and_true]
      exact delete_spares_iff
  | decline w taskId =>
    cases ho : s.offers.get taskId with
    | none => exact iff_of_true (harmless_of_step_eq (by simp [step, ho])) (by simp [Asked, ho])
    | some o =>
      have hstep : s.step (.decline w taskId) = { s with offers := s.offers.delete taskId }.strike taskId w := by
        simp [step, ho]
      simp only [Harmless, answers, Option.some.injEq, forall_eq', hstep, strike]
      rw [delete_spares_iff]
      refine and_iff_left_of_imp fun hasked id hstrike => ?_
      rw [Table.get_put] at hstrike
      split at hstrike
      next hid => exact ⟨o, by rw [(Prod.mk.inj hid).1, ho], hasked o ho⟩
      · exact absurd rfl hstrike
  | putBack index => exact iff_of_true (harmless_of_no_answer (by simp [answers, hrefused])) trivial
  | offer taskId o => exact iff_of_true (harmless_of_no_answer rfl) trivial
  | supersede taskId => exact iff_of_true (harmless_of_no_answer rfl) trivial
  | expire now taskId => exact iff_of_true (harmless_of_no_answer rfl) trivial

theorem refused_step (hrefused : s.refused = []) (hasked : s.Asked ev) : (s.step ev).refused = [] := by
  cases ev with
  | accept w taskId =>
    dsimp only [step]
    split
    · exact hrefused
    next o ho =>
      have hown : ¬ o.workerId ≠ w := not_not.mpr (hasked o ho)
      rw [if_neg hown, hrefused]
  | putBack index => simp [step, hrefused]
  | decline w taskId =>
    dsimp only [step]
    split <;> exact hrefused
  | expire now taskId =>
    dsimp only [step]
    split
    · exact hrefused
    · split <;> exact hrefused
  | offer taskId o => exact hrefused
  | supersede taskId => exact hrefused

/-- **Answers touch no other worker's offer** exactly when every answer finds no offer or one that was made to the
worker who answers. -/
theorem answers_harmless_iff (offers : Table String Offer) (strikes : Table (String × String) Nat)
    (es : List OfferEvent) :
    Along step Harmless ⟨offers, strikes, []⟩ es ↔ Along step Asked ⟨offers, strikes, []⟩ es :=
  along_congr (P := fun s => s.refused = []) (fun _ _ h => harmless_iff_asked h) (fun _ _ => refused_step) rfl es

/-- An offer to `v` is pending. -/
def exampleDesk : OfferDesk := ⟨Table.put ∅ "t" ⟨"v", 0, 10⟩, ∅, []⟩

/-- **A foreign decline** takes the offer to `v` away and counts as a strike against `w`; **a foreign accept** puts an
old offer over a newer one. -/
theorem foreign_answers_harm : (exampleDesk.step (.decline "w" "t")).offers.get "t" = none ∧
      (exampleDesk.step (.decline "w" "t")).strikes.get ("t", "w") = some 1 ∧
      (run step exampleDesk [.accept "w" "t", .offer "t" ⟨"u", 5, 10⟩]).offers.get "t" = some ⟨"u", 5, 10⟩ ∧
      (run step exampleDesk [.accept "w" "t", .offer "t" ⟨"u", 5, 10⟩, .putBack 0]).offers.get "t" =
        some ⟨"v", 0, 10⟩ := by
  decide

end OfferDesk

/-- In `Grid` a handler is one step: a refused accept has put the offer back. -/
theorem Grid.offers_of_answer (e : SubmitEnv) (now : Nat) (s : Grid) (clusterKey : Option String) (taskId : String)
    {peer : Peer} (hpeer : s.master.verifyTrustedPeer clusterKey = .ok peer) (strikes : Table (String × String) Nat) :
    (s.declineOffer now clusterKey taskId).offers =
        (OfferDesk.step ⟨s.offers, strikes, []⟩ (.decline peer.ip taskId)).offers ∧
      ∀ id, (s.acceptOffer e now clusterKey taskId).offers.get id =
        (run OfferDesk.step ⟨s.offers, strikes, []⟩ [.accept peer.ip taskId, .putBack 0]).offers.get id := by
  cases ho : s.offers.get taskId with
  | none =>
    refine ⟨?_, fun id => ?_⟩
    · simp [Grid.declineOffer, hpeer, ho, OfferDesk.step]
    · simp [Grid.acceptOffer, hpeer, ho, OfferDesk.step]
  | some o =>
    refine ⟨?_, fun id => ?_⟩
    · simp only [Grid.declineOffer, hpeer, ho, OfferDesk.step, OfferDesk.strike]
      split <;> rfl
    by_cases hown : o.workerId = peer.ip
    · simp only [Grid.acceptOffer, hpeer, ho, OfferDesk.step, hown, ne_eq, not_true_eq_false, if_false, run_cons,
        run_nil]
      split
      · rfl
      · split <;> rfl
    simp only [Grid.acceptOffer, hpeer, ho, OfferDesk.step, hown, ne_eq, not_false_eq_true, if_true, run_cons,
      run_nil, List.nil_append, List.getElem?_cons_zero, Table.get_put, Table.get_delete]
    by_cases hid : id = taskId
    · rw [if_pos hid, hid, ho]
    · rw [if_neg hid, if_neg hid]

end NexusGrid.Tasks

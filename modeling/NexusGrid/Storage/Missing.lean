import NexusGrid.Storage.Reach

/-! # Reports of missing chunks that overlap

`_handle_missing_chunks`, cut at its awaits: the frames of a host may come while others are being handled.
-/

namespace NexusGrid.Storage

open Lib

/-- A handler between two awaits. -/
inductive MissingPhase
  /-- The status was checked. -/
  | checked (missing : List Int)
  /-- `stored` is committed. -/
  | stored
  /-- The round was one too many. -/
  | exhausted
  /-- `failed_in_transit` is committed. -/
  | failed
deriving DecidableEq

/-- What the handlers have of one deposit. -/
structure Resend where
  status : DepositStatus
  /-- `STATE.foreign_storage_missing_rounds`. -/
  rounds : Int
  /-- The key and the path of the file are known. -/
  cached : Bool
  /-- The chunks that each pump was launched with. -/
  launched : List (Option (List Int))
  flight : List MissingPhase

inductive ResendEvent
  | frame (missing : List Int)
  /-- A handler goes on. -/
  | resume (phase : MissingPhase)

namespace Resend

/-- What a handler does up to its next await, and where it waits then. -/
def proceed (maxRounds : Int) (s : Resend) : MissingPhase → Resend × Option MissingPhase
  | .checked missing =>
    if missing = [] then ({ s with status := .stored }, some .stored)
    else if maxRounds < s.rounds + 1 then ({ s with rounds := s.rounds + 1 }, some .exhausted)
    else
      let chunks := some (missing.dedup.insertionSort (· ≤ ·))
      let launched := if s.cached then s.launched ++ [chunks] else s.launched
      ({ s with rounds := s.rounds + 1, launched }, none)
  | .stored => ({ s with rounds := 0 }, none)
  | .exhausted => ({ s with status := .failedInTransit }, some .failed)
  | .failed => ({ s with rounds := 0, cached := false }, none)

def step (maxRounds : Int) (s : Resend) : ResendEvent → Resend
  | .frame missing => if s.status.settled then s else { s with flight := s.flight ++ [.checked missing] }
  | .resume phase =>
    if phase ∈ s.flight then
      { (s.proceed maxRounds phase).1 with
        flight := s.flight.erase phase ++ (s.proceed maxRounds phase).2.toList }
    else s

variable {maxRounds : Int} {s : Resend} {ev : ResendEvent}

def Open (maxRounds : Int) (s : Resend) (ev : ResendEvent) : Prop :=
  (s.step maxRounds ev).status ≠ .stored ∧ (s.step maxRounds ev).status ≠ .failedInTransit

structure Counted (maxRounds : Int) (s : Resend) : Prop where
  rounds : s.launched.length ≤ s.rounds
  cap : s.launched.length ≤ maxRounds
  early : .stored ∉ s.flight ∧ .failed ∉ s.flight

theorem Counted.step (hopen : s.Open maxRounds ev) (h : s.Counted maxRounds) :
    (s.step maxRounds ev).Counted maxRounds := by
  obtain ⟨hrounds, hcap, hstored, hfailed⟩ := h
  cases ev with
  | frame missing =>
    dsimp only [Resend.step]
    split
    · exact ⟨hrounds, hcap, hstored, hfailed⟩
    · exact ⟨hrounds, hcap, by simpa using hstored, by simpa using hfailed⟩
  | resume phase =>
    by_cases hmem : phase ∈ s.flight
    · have hearly : .stored ∉ s.flight.erase phase ∧ .failed ∉ s.flight.erase phase :=
        ⟨fun h => hstored (List.mem_of_mem_erase h), fun h => hfailed (List.mem_of_mem_erase h)⟩
      simp only [Open, Resend.step, if_pos hmem] at hopen ⊢
      cases phase with
      | checked missing =>
        simp only [proceed] at hopen ⊢
        split_ifs at hopen ⊢ with hnone hlast hcached
        · exact absurd rfl hopen.1
        · exact ⟨by dsimp only; omega, hcap, by simpa using hearly⟩
        · have hlength (x : Option (List Int)) : (s.launched ++ [x]).length = s.launched.length + 1 :=
            List.length_append
          exact ⟨by dsimp only; rw [hlength]; omega, by dsimp only; rw [hlength]; omega, by simpa using hearly⟩
        · exact ⟨by dsimp only; omega, hcap, by simpa using hearly⟩
      | stored => exact absurd hmem hstored
      | exhausted => exact absurd rfl hopen.2
      | failed => exact absurd hmem hfailed
    · rw [Resend.step, if_neg hmem]
      exact ⟨hrounds, hcap, hstored, hfailed⟩

/-- A report arrives when no other one is being handled. -/
def Alone (s : Resend) : ResendEvent → Prop
  | .frame _ => s.flight = []
  | .resume _ => True

/-- One handler at a time; of a failed deposit the one that drops the key. -/
def Single (s : Resend) : Prop :=
  s.flight = [] ∨ ∃ phase, s.flight = [phase] ∧ (s.status = .failedInTransit → phase = .failed)

theorem Single.step (halone : s.Alone ev) (h : s.Single) : (s.step maxRounds ev).Single ∧
    (s.status = .failedInTransit → (s.step maxRounds ev).status = .failedInTransit ∧
      (s.step maxRounds ev).launched = s.launched) := by
  cases ev with
  | frame missing =>
    have hnone : s.flight = [] := halone
    dsimp only [Resend.step]
    split
    · exact ⟨h, fun hfailed => ⟨hfailed, rfl⟩⟩
    next hopen =>
      have hstatus : s.status ≠ .failedInTransit := fun h => hopen (by rw [h]; rfl)
      exact ⟨.inr ⟨_, by rw [hnone]; rfl, fun h => absurd h hstatus⟩, fun h => absurd h hstatus⟩
  | resume phase =>
    by_cases hmem : phase ∈ s.flight
    · rcases h with hnone | ⟨p, hflight, hfailed⟩
      · rw [hnone] at hmem
        cases hmem
      obtain rfl : phase = p := by simpa [hflight] using hmem
      rw [Resend.step, if_pos hmem, hflight, List.erase_cons_head, List.nil_append]
      cases phase with
      | checked missing =>
        have hstatus : s.status ≠ .failedInTransit := fun h => nomatch hfailed h
        refine ⟨?_, fun h => absurd h hstatus⟩
        simp only [proceed]
        split_ifs
        · exact .inr ⟨_, rfl, nofun⟩
        · exact .inr ⟨_, rfl, fun h => absurd h hstatus⟩
        · exact .inl rfl
        · exact .inl rfl
      | stored => exact ⟨.inl rfl, fun h => nomatch hfailed h⟩
      | exhausted => exact ⟨.inr ⟨_, rfl, fun _ => rfl⟩, fun h => nomatch hfailed h⟩
      | failed => exact ⟨.inl rfl, fun h => ⟨h, rfl⟩⟩
    · rw [Resend.step, if_neg hmem]
      exact ⟨h, fun hfailed => ⟨hfailed, rfl⟩⟩

end Resend

theorem one_le_maxRounds (e : Env) (row : DepositRow) : 1 ≤ Node.maxRounds e row := by
  unfold Node.maxRounds
  split <;> exact le_max_left _ _

/-- **Resend pumps.** After a deposit has failed none is launched, if the reports come one at a time. -/
theorem resends_bounded (e : Env) (row : DepositRow) (cached : Bool) (es : List ResendEvent) :
    let maxRounds := Node.maxRounds e row
    let start : Resend := ⟨row.status, 0, cached, [], []⟩
    (Along (Resend.step maxRounds) (Resend.Open maxRounds) start es →
      ((run (Resend.step maxRounds) start es).launched.length : Int) ≤ maxRounds) ∧
    ∀ later, Along (Resend.step maxRounds) Resend.Alone start (es ++ later) →
      (run (Resend.step maxRounds) start es).status = .failedInTransit →
      (run (Resend.step maxRounds) start (es ++ later)).launched = (run (Resend.step maxRounds) start es).launched := by
  intro maxRounds start
  have hcap := one_le_maxRounds e row
  constructor
  · intro hopen
    have hstart : start.Counted maxRounds :=
      ⟨le_rfl, by dsimp only [start, maxRounds, List.length_nil]; omega, nofun, nofun⟩
    exact (run_invariant (fun s ev hC hP => Resend.Counted.step hC hP) hstart hopen).cap
  intro later halone hfailed
  rw [along_append] at halone
  have hsingle : (run (Resend.step maxRounds) start es).Single :=
    run_invariant (fun s ev hC hP => (Resend.Single.step hC hP).1) (.inl rfl) halone.1
  rw [run_append]
  have hkeep (s : Resend) (ev : ResendEvent) (hC : s.Alone ev) (hP : s.Single ∧ s.status = .failedInTransit ∧
      s.launched = (run (Resend.step maxRounds) start es).launched) : (s.step maxRounds ev).Single ∧
      (s.step maxRounds ev).status = .failedInTransit ∧
      (s.step maxRounds ev).launched = (run (Resend.step maxRounds) start es).launched := by
    obtain ⟨hnext, hstays⟩ := hP.1.step hC
    obtain ⟨hstatus, hsame⟩ := hstays hP.2.1
    exact ⟨hnext, hstatus, hsame.trans hP.2.2⟩
  exact (run_invariant hkeep ⟨hsingle, hfailed, rfl⟩ halone.2).2.2

/-- One round is allowed: the second report ends the deposit, and a third launches nothing. -/
theorem resends_bounded_exhausted :
    let row := { DepositRow.plain .depositor .transferring with transitRetries := 1 }
    let start : Resend := ⟨.transferring, 0, true, [], []⟩
    let once := [ResendEvent.frame [0], .resume (.checked [0])]
    let twice := once ++ [.frame [0], .resume (.checked [0]), .resume .exhausted]
    ((run (Resend.step (Node.maxRounds Env.plain row)) start once).launched.length : Int) ≤
        Node.maxRounds Env.plain row ∧
      (run (Resend.step (Node.maxRounds Env.plain row)) start
        (twice ++ [.resume .failed, .frame [1], .resume (.checked [1])])).launched =
          (run (Resend.step (Node.maxRounds Env.plain row)) start twice).launched := by
  intro row start once twice
  refine ⟨(resends_bounded Env.plain row true once).1 ?_,
    (resends_bounded Env.plain row true twice).2 _ ?_ (by decide)⟩
  · simp only [once, Along, Resend.Open]
    decide
  · simp only [twice, once, List.cons_append, List.nil_append, Along, Resend.Alone]
    decide

/-- **A pump after the end.** A report that nothing is missing resets the counter. -/
theorem late_report_resets_rounds :
    let maxRounds := Node.maxRounds Env.plain { DepositRow.plain .depositor .transferring with transitRetries := 1 }
    let s := run (Resend.step maxRounds) ⟨.transferring, 0, true, [], []⟩
      [.frame [0], .resume (.checked [0]), .frame [0], .frame [], .frame [1], .resume (.checked [0]),
        .resume .exhausted]
    s.status = .failedInTransit ∧ s.launched = [some [0]] ∧
      (run (Resend.step maxRounds) s [.resume (.checked []), .resume .stored, .resume (.checked [1])]).launched =
        [some [0], some [1]] := by
  decide

end NexusGrid.Storage

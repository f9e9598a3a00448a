import NexusGrid.Pairing.Requests

/-! # The limit of a pair invite

The limit of an invite is checked once, when a probe reads the invite's row.
-/

namespace NexusGrid.Pairing

open Lib

/-! ## Requests made with one invite -/

def PairTask.request? : PairTask → Option IncomingPairRequest
  | .probe req _ => some req
  | .decide _ req _ => some req
  | .revoke _ _ => none

def PairTask.loaded? : PairTask → Option (Option PairInvite)
  | .decide _ _ (.rowRead row) => some row
  | .decide _ _ (.attemptRead row _) => some row
  | .decide _ _ (.peerRead row _ _) => some row
  | _ => none

inductive Slot
  | pending (transientId : String)
  | task (k : Nat)
deriving DecidableEq

def acceptedCount (i : String) (log : List PairCommit) : Nat :=
  log.countP fun c => match c with
    | .accepted req => req.inviteId = i
    | _ => false

def NoneAfterRevoked (i : String) (log : List PairCommit) : Prop :=
  ∀ pre post req, log = pre ++ .revoked i :: post → .accepted req ∈ post → req.inviteId ≠ i

def PairCommit.About (i : String) : PairCommit → Prop
  | .accepted req => req.inviteId = i
  | .rejected req => req.inviteId = i
  | .revoked j => j = i

def Verdict.commit : Verdict → IncomingPairRequest → PairCommit
  | .accept, req => .accepted req
  | .reject, req => .rejected req

namespace PairDesk

/-- A request made with the invite `i` is there. -/
def LiveAt (s : PairDesk) (i : String) : Slot → Prop
  | .pending transientId => ∃ req, s.pending.get transientId = some req ∧ req.inviteId = i
  | .task k => ∃ t req, s.tasks.get k = some t ∧ t.request? = some req ∧ req.inviteId = i

/-- A decision on a request of `i` has loaded `row`. -/
def Loaded (s : PairDesk) (i : String) (k : Nat) (row : Option PairInvite) : Prop :=
  ∃ t req, s.tasks.get k = some t ∧ t.request? = some req ∧ req.inviteId = i ∧ t.loaded? = some row

/-- A revocation of `i` has loaded `row`. -/
def Revoking (s : PairDesk) (i : String) (k : Nat) (row : PairInvite) : Prop := s.tasks.get k = some (.revoke i row)

def Opens (env : PairEnv) (s : PairDesk) (i : String) : PairEvent → Prop
  | .probe k data => s.tasks.get k = none ∧ ∃ req row, readRequest env data = some req ∧
      refusal env req = none ∧ checkRow (s.invites.get req.inviteId) = .ok row ∧ req.inviteId = i
  | _ => False

def Revokes (s : PairDesk) (i : String) : PairEvent → Prop
  | .resume k _ => ∃ row, s.Revoking i k row
  | _ => False

/-- Probes pass, and revocations commit, only while there is no request. -/
def OneAtATime (env : PairEnv) (i : String) (s : PairDesk) (e : PairEvent) : Prop :=
  s.Opens env i e ∨ s.Revokes i e → ∀ x, ¬ s.LiveAt i x

/-! ### What an event does, as seen from one invite -/

/-- What the handlers have read of the invite was read before, or is its row as it is. -/
structure Reads (i : String) (s t : PairDesk) : Prop where
  loaded : ∀ k row, t.Loaded i k row → s.Loaded i k row ∨ row = s.invites.get i
  revoking : ∀ k row, t.Revoking i k row → s.Revoking i k row ∨ s.invites.get i = some row

structure Quiet (i : String) (s t : PairDesk) : Prop where
  row : t.invites.get i = s.invites.get i
  log : t.log = s.log ∨ ∃ c, ¬ c.About i ∧ t.log = s.log ++ [c]
  reads : Reads i s t
  moved : ∃ origin : Slot → Slot, (∀ x, t.LiveAt i x → s.LiveAt i (origin x)) ∧
    ∀ x y, t.LiveAt i x → t.LiveAt i y → origin x = origin y → x = y

structure Opened (i : String) (s t : PairDesk) (k : Nat) : Prop where
  row : t.invites.get i = s.invites.get i
  check : ∃ row, checkRow (s.invites.get i) = .ok row
  log : t.log = s.log
  reads : Reads i s t
  live : ∀ x, t.LiveAt i x → x = .task k ∨ s.LiveAt i x

structure Decided (i : String) (s t : PairDesk) (k : Nat) (verdict : Verdict) (row : Option PairInvite) : Prop where
  loaded : s.Loaded i k row
  invites : ∃ bob now, t.invites.get i = (commitRow s.invites i row fun r => r.decided verdict bob now).get i
  log : ∃ req, req.inviteId = i ∧ t.log = s.log ++ [verdict.commit req]
  others : ∀ k' row', t.Loaded i k' row' → k' ≠ k ∧ s.Loaded i k' row'
  revoking : ∀ k' row', t.Revoking i k' row' → s.Revoking i k' row'
  live : ∀ x, t.LiveAt i x → x ≠ .task k ∧ s.LiveAt i x

structure Withdrawn (i : String) (s t : PairDesk) (k : Nat) (row : PairInvite) : Prop where
  revoking : s.Revoking i k row
  invites : ∃ now, t.invites.get i = (commitRow s.invites i (some row) fun r => r.revoked now).get i
  log : t.log = s.log ++ [.revoked i]
  live : ∀ x, t.LiveAt i x → s.LiveAt i x
  others : ∀ k' row', t.Loaded i k' row' → s.Loaded i k' row'
  still : ∀ k' row', t.Revoking i k' row' → s.Revoking i k' row'

inductive Effect (env : PairEnv) (i : String) (s : PairDesk) (e : PairEvent) (t : PairDesk) : Prop
  | quiet (h : Quiet i s t)
  | opened (k : Nat) (hopens : s.Opens env i e) (h : Opened i s t k)
  | decided (k : Nat) (verdict : Verdict) (row : Option PairInvite) (h : Decided i s t k verdict row)
  | withdrawn (k : Nat) (row : PairInvite) (hrevokes : s.Revokes i e) (h : Withdrawn i s t k row)

section Effects

variable {i : String} {s t : PairDesk} {k : Nat}

/-! One handler changes or ends; everything about the others is as before. -/

variable {req : IncomingPairRequest} {k' : Nat} {new : PairTask} {x : Slot} {row : Option PairInvite}

theorem liveAt_put (htasks : t.tasks = s.tasks.put k new) (hpending : t.pending = s.pending) (h : t.LiveAt i x) :
    (x = .task k ∧ ∃ req, new.request? = some req ∧ req.inviteId = i) ∨ s.LiveAt i x := by
  cases x with
  | pending transientId =>
    rw [LiveAt, hpending] at h
    exact .inr h
  | task k' =>
    obtain ⟨t', req, hget, hreq, hi⟩ := h
    rw [htasks, Table.get_put] at hget
    split_ifs at hget with hk
    · cases hget
      exact .inl ⟨congrArg Slot.task hk, req, hreq, hi⟩
    · exact .inr ⟨t', req, hget, hreq, hi⟩

theorem liveAt_delete (htasks : t.tasks = s.tasks.delete k) (hpending : t.pending = s.pending)
    (h : t.LiveAt i x) : x ≠ .task k ∧ s.LiveAt i x := by
  cases x with
  | pending transientId =>
    rw [LiveAt, hpending] at h
    exact ⟨nofun, h⟩
  | task k' =>
    obtain ⟨t', req, hget, hreq, hi⟩ := h
    rw [htasks, Table.get_delete] at hget
    split_ifs at hget with hk
    exact ⟨fun heq => hk (Slot.task.inj heq), t', req, hget, hreq, hi⟩

theorem loaded_put (htasks : t.tasks = s.tasks.put k new) (h : t.Loaded i k' row) :
    (k' = k ∧ ∃ req, new.request? = some req ∧ req.inviteId = i ∧ new.loaded? = some row) ∨ s.Loaded i k' row := by
  obtain ⟨t', req, hget, hreq, hi, hloaded⟩ := h
  rw [htasks, Table.get_put] at hget
  split_ifs at hget with hk
  · cases hget
    exact .inl ⟨hk, req, hreq, hi, hloaded⟩
  · exact .inr ⟨t', req, hget, hreq, hi, hloaded⟩

theorem loaded_delete (htasks : t.tasks = s.tasks.delete k) (h : t.Loaded i k' row) : k' ≠ k ∧ s.Loaded i k' row := by
  obtain ⟨t', req, hget, hrest⟩ := h
  rw [htasks, Table.get_delete] at hget
  split_ifs at hget with hk
  exact ⟨hk, t', req, hget, hrest⟩

theorem revoking_put (htasks : t.tasks = s.tasks.put k new) {row : PairInvite}
    (h : t.Revoking i k' row) : new = .revoke i row ∨ s.Revoking i k' row := by
  rw [Revoking, htasks, Table.get_put] at h
  split_ifs at h with hk
  · exact .inl (Option.some.inj h)
  · exact .inr h

theorem revoking_delete (htasks : t.tasks = s.tasks.delete k) {row : PairInvite}
    (h : t.Revoking i k' row) : s.Revoking i k' row := by
  rw [Revoking, htasks, Table.get_delete] at h
  split_ifs at h
  exact h

theorem reads_delete (htasks : t.tasks = s.tasks.delete k) : Reads i s t where
  loaded _ _ h := .inl (loaded_delete htasks h).2
  revoking _ _ h := .inl (revoking_delete htasks h)

/-- A handler that holds no row yet, or the row as it is, which it will revoke. -/
theorem reads_put (htasks : t.tasks = s.tasks.put k new) (hloaded : new.loaded? = none)
    (hrevoking : ∀ row, new = .revoke i row → s.invites.get i = some row) : Reads i s t where
  loaded _ _ h := by
    rcases loaded_put htasks h with ⟨-, -, -, -, hrow⟩ | h
    · rw [hloaded] at hrow
      cases hrow
    · exact .inl h
  revoking _ row h := by
    rcases revoking_put htasks h with h | h
    · exact .inr (hrevoking row h)
    · exact .inl h

theorem moved_of_live (h : ∀ x, t.LiveAt i x → s.LiveAt i x) :
    ∃ origin : Slot → Slot, (∀ x, t.LiveAt i x → s.LiveAt i (origin x)) ∧
      ∀ x y, t.LiveAt i x → t.LiveAt i y → origin x = origin y → x = y :=
  ⟨id, h, fun _ _ _ _ heq => heq⟩

theorem quiet_put {old : PairTask} (hget : s.tasks.get k = some old)
    (htasks : t.tasks = s.tasks.put k new) (hpending : t.pending = s.pending) (hinvites : t.invites = s.invites)
    (hlog : t.log = s.log) (hold : old.request? = some req) (hnew : new.request? = some req)
    (hloaded : ∀ row, new.loaded? = some row → old.loaded? = some row ∨ row = s.invites.get req.inviteId) :
    Quiet i s t where
  row := by rw [hinvites]
  log := .inl hlog
  reads := by
    constructor
    · intro k' row h
      rcases loaded_put htasks h with ⟨rfl, req', hreq', hi, hrow⟩ | h
      · cases hnew.symm.trans hreq'
        rcases hloaded row hrow with hrow | hrow
        · exact .inl ⟨old, req, hget, hold, hi, hrow⟩
        · exact .inr (hi ▸ hrow)
      · exact .inl h
    intro k' row h
    rcases revoking_put htasks h with rfl | h
    · cases hnew
    · exact .inl h
  moved := by
    refine moved_of_live fun x h => ?_
    rcases liveAt_put htasks hpending h with ⟨rfl, req', hreq', hi⟩ | h
    · cases hnew.symm.trans hreq'
      exact ⟨old, req, hget, hold, hi⟩
    · exact h

theorem quiet_delete (htasks : t.tasks = s.tasks.delete k) (hpending : t.pending = s.pending)
    (hrow : t.invites.get i = s.invites.get i)
    (hlog : t.log = s.log ∨ ∃ c, ¬ c.About i ∧ t.log = s.log ++ [c]) : Quiet i s t where
  row := hrow
  log := hlog
  reads := reads_delete htasks
  moved := moved_of_live fun _ h => (liveAt_delete htasks hpending h).2

theorem quiet_same (htasks : t.tasks = s.tasks) (hpending : t.pending = s.pending)
    (hinvites : t.invites = s.invites) (hlog : t.log = s.log) : Quiet i s t where
  row := by rw [hinvites]
  log := .inl hlog
  reads := ⟨fun _ _ h => .inl (by simpa only [Loaded, htasks] using h),
    fun _ _ h => .inl (by simpa only [Revoking, htasks] using h)⟩
  moved := moved_of_live fun x h => by
    cases x with
    | pending => simpa only [LiveAt, hpending] using h
    | task => simpa only [LiveAt, htasks] using h

theorem get_commitRow_ne (invites : Table String PairInvite) {j : String} (h : i ≠ j) (old : Option PairInvite)
    (change : PairInvite → PairInvite) : (commitRow invites j old change).get i = invites.get i := by
  rw [commitRow.eq_def]
  split
  · exact Table.get_put_ne _ _ h
  · rfl

theorem eq_of_rename {P : Slot → Prop} {a b : Slot} (hfree : ∀ y, P y → y ≠ b) {y : Slot} (hx : P x) (hy : P y)
    (heq : (if x = a then b else x) = if y = a then b else y) : x = y := by
  split_ifs at heq with h₁ h₂ h₂
  · rw [h₁, h₂]
  · exact absurd heq.symm (hfree y hy)
  · exact absurd heq (hfree x hx)
  · exact heq

theorem quiet_park {stage : ProbeStage}
    (hget : s.tasks.get k = some (.probe req stage)) : Quiet i s ((s.endTask k).park req) where
  row := rfl
  log := .inl rfl
  reads := reads_delete rfl
  moved := by
    refine ⟨fun x => if x = .pending req.transientId then .task k else x, ?_, ?_⟩
    · intro x h
      dsimp only
      split_ifs with hx
      · subst hx
        obtain ⟨req', hreq', hi⟩ := h
        simp only [park, endTask, Table.get_put, if_true] at hreq'
        exact ⟨_, req, hget, rfl, Option.some.inj hreq' ▸ hi⟩
      cases x with
      | pending transientId =>
        obtain ⟨req', hreq', hi⟩ := h
        have hne : transientId ≠ req.transientId := fun heq => hx (congrArg Slot.pending heq)
        simp only [park, endTask, Table.get_put_ne _ _ hne] at hreq'
        exact ⟨req', hreq', hi⟩
      | task k' =>
        have h' : (s.endTask k).LiveAt i (.task k') := h
        exact (liveAt_delete (t := s.endTask k) rfl rfl h').2
    · -- the handler is gone, so nothing else comes from its slot
      have hgone : ∀ y, ((s.endTask k).park req).LiveAt i y → y ≠ .task k := by
        rintro y hy rfl
        have hy' : (s.endTask k).LiveAt i (.task k) := hy
        exact (liveAt_delete (t := s.endTask k) rfl rfl hy').1 rfl
      exact fun x y hx hy heq => eq_of_rename hgone hx hy heq

theorem quiet_pop {verdict : Verdict} {transientId : String} (hget : s.pending.get transientId = some req) :
    Quiet i s { s.setTask k (.decide verdict req .popped) with pending := s.pending.delete transientId } where
  row := rfl
  log := .inl rfl
  reads := reads_put rfl rfl fun _ h => by cases h
  moved := by
    refine ⟨fun x => if x = .task k then .pending transientId else x, ?_, ?_⟩
    · intro x h
      dsimp only
      split_ifs with hx
      · subst hx
        obtain ⟨t', req', hget', hreq', hi⟩ := h
        simp only [setTask, Table.get_put, if_true] at hget'
        cases hget'
        exact ⟨req, hget, Option.some.inj hreq' ▸ hi⟩
      cases x with
      | pending transientId' =>
        obtain ⟨req', hreq', hi⟩ := h
        simp only [Table.get_delete] at hreq'
        split_ifs at hreq'
        exact ⟨req', hreq', hi⟩
      | task k' =>
        obtain ⟨t', req', hget', hrest⟩ := h
        have hne : k' ≠ k := fun heq => hx (congrArg Slot.task heq)
        simp only [setTask, Table.get_put_ne _ _ hne] at hget'
        exact ⟨t', req', hget', hrest⟩
    · have hgone : ∀ y, PairDesk.LiveAt { s.setTask k (.decide verdict req .popped) with
          pending := s.pending.delete transientId } i y → y ≠ .pending transientId := by
        rintro y hy rfl
        obtain ⟨req', hreq', -⟩ := hy
        simp only [Table.get_delete, if_true] at hreq'
        cases hreq'
      exact fun x y hx hy heq => eq_of_rename hgone hx hy heq

theorem decided_of_commit {verdict : Verdict} {stage : DecideStage}
     {bob now : String} (hget : s.tasks.get k = some (.decide verdict req stage))
    (hrow : (PairTask.decide verdict req stage).loaded? = some row) (hi : req.inviteId = i)
    {change : Verdict} (htasks : t.tasks = s.tasks.delete k) (hpending : t.pending = s.pending)
    (hinvites : t.invites = commitRow s.invites req.inviteId row fun r => r.decided change bob now)
    (hlog : t.log = s.log ++ [change.commit req]) : Decided i s t k change row where
  loaded := ⟨_, req, hget, rfl, hi, hrow⟩
  invites := ⟨bob, now, by rw [hinvites, hi]⟩
  log := ⟨req, hi, hlog⟩
  others _ _ h := loaded_delete htasks h
  revoking _ _ h := revoking_delete htasks h
  live _ h := liveAt_delete htasks hpending h

theorem resume_effect (env : PairEnv) {task : PairTask} (hget : s.tasks.get k = some task) (now : String) :
    Effect env i s (.resume k now) (s.resume env k now task) := by
  rw [resume.eq_def]
  split
  · -- the attempt is read
    split
    · exact .quiet (quiet_put hget rfl rfl rfl rfl rfl rfl nofun)
    · exact .quiet (quiet_delete rfl rfl rfl (.inl rfl))
    · exact .quiet (quiet_delete rfl rfl rfl (.inl rfl))
  · -- the attempt is recorded
    split
    · exact .quiet (quiet_delete rfl rfl rfl (.inl rfl))
    · exact .quiet (quiet_put hget rfl rfl rfl rfl rfl rfl nofun)
  · -- the request is parked
    rw [finishProbe]
    split
    · exact .quiet (quiet_park hget)
    · exact .quiet (quiet_delete rfl rfl rfl (.inl rfl))
  · -- the row is read
    exact .quiet (quiet_put hget rfl rfl rfl rfl rfl rfl fun row hrow => .inr (Option.some.inj hrow).symm)
  · exact .quiet (quiet_put hget rfl rfl rfl rfl rfl rfl fun row hrow => .inl hrow)
  · exact .quiet (quiet_put hget rfl rfl rfl rfl rfl rfl fun row hrow => .inl hrow)
  · -- a reject commits
    next req row attempt =>
      by_cases hi : req.inviteId = i
      · exact .decided k .reject row (decided_of_commit hget rfl hi rfl rfl rfl rfl)
      refine .quiet (quiet_delete rfl rfl (get_commitRow_ne _ (Ne.symm hi) _ _) (.inr ⟨_, ?_, rfl⟩))
      exact hi
  · -- an accept commits
    next v req row attempt peer =>
      rw [commitAccept]
      split
      · exact .quiet (quiet_delete rfl rfl rfl (.inl rfl))
      by_cases hi : req.inviteId = i
      · exact .decided k .accept row (decided_of_commit hget rfl hi rfl rfl rfl rfl)
      refine .quiet (quiet_delete rfl rfl (get_commitRow_ne _ (Ne.symm hi) _ _) (.inr ⟨_, ?_, rfl⟩))
      exact hi
  · -- a revocation commits
    next j row =>
      by_cases hi : j = i
      · subst hi
        have htasks : ((s.endTask k).commitRevoke j row now).tasks = s.tasks.delete k := rfl
        exact .withdrawn k row ⟨row, hget⟩ {
          revoking := hget
          invites := ⟨now, rfl⟩
          log := rfl
          live := fun _ h => (liveAt_delete htasks rfl h).2
          others := fun _ _ h => (loaded_delete htasks h).2
          still := fun _ _ h => revoking_delete htasks h }
      · refine .quiet (quiet_delete rfl rfl (get_commitRow_ne _ (Ne.symm hi) _ _) (.inr ⟨_, ?_, rfl⟩))
        exact hi

theorem step_effect (env : PairEnv) (i : String) (s : PairDesk) (e : PairEvent) : Effect env i s e (s.step env e) := by
  have hsame : Effect env i s e s := .quiet (quiet_same rfl rfl rfl rfl)
  cases e with
  | probe k data =>
    simp only [step]
    split
    next req hnone hreq =>
      split
      · exact .quiet (quiet_same rfl rfl rfl rfl)
      · exact .quiet (quiet_same rfl rfl rfl rfl)
      next row hrefusal hcheck =>
        have htasks : (s.setTask k (.probe req (.rowRead row))).tasks = s.tasks.put k (.probe req (.rowRead row)) := rfl
        have hreads : Reads i s (s.setTask k (.probe req (.rowRead row))) := reads_put htasks rfl fun _ h => by cases h
        by_cases hi : req.inviteId = i
        · refine .opened k ⟨hnone, req, row, hreq, hrefusal, hcheck, hi⟩ ⟨rfl, ⟨row, hi ▸ hcheck⟩, rfl, hreads, ?_⟩
          intro x h
          rcases liveAt_put htasks rfl h with ⟨hx, -⟩ | h
          · exact .inl hx
          · exact .inr h
        refine .quiet ⟨rfl, .inl rfl, hreads, moved_of_live fun x h => ?_⟩
        rcases liveAt_put htasks rfl h with ⟨-, req', hreq', hi'⟩ | h
        · exact absurd (Option.some.inj hreq' ▸ hi') hi
        · exact h
    · exact hsame
  | decide k verdict transientId =>
    simp only [step]
    split
    next req _ hget => exact .quiet (quiet_pop hget)
    · exact hsame
  | revoke k inviteId =>
    simp only [step]
    split
    next row _ hget =>
      split
      · exact hsame
      have htasks : (s.setTask k (.revoke inviteId row)).tasks = s.tasks.put k (.revoke inviteId row) := rfl
      refine .quiet ⟨rfl, .inl rfl, reads_put htasks rfl ?_, moved_of_live fun x h => ?_⟩
      · intro row' h
        cases h
        exact hget
      rcases liveAt_put htasks rfl h with ⟨-, req', hreq', -⟩ | h
      · cases hreq'
      · exact h
    · exact hsame
  | resume k now =>
    simp only [step]
    split
    next task hget => exact resume_effect env hget now
    · exact hsame
  | prune stale =>
    refine .quiet ⟨rfl, .inl rfl, ⟨fun _ _ h => .inl h, fun _ _ h => .inl h⟩, moved_of_live fun x h => ?_⟩
    cases x with
    | pending transientId =>
      obtain ⟨req, hget, hi⟩ := h
      simp only [step, Table.get_deleteWhere, Option.filter_eq_some_iff] at hget
      exact ⟨req, hget.1, hi⟩
    | task k => exact h
  | fail k => exact .quiet (quiet_delete rfl rfl rfl (.inl rfl))

end Effects

/-! ### Runs -/

section Log

variable {i : String} {log : List PairCommit} {c : PairCommit}

theorem acceptedCount_of_not_about (hc : ¬ c.About i) : acceptedCount i (log ++ [c]) = acceptedCount i log := by
  cases c with
  | accepted req =>
    have hne : req.inviteId ≠ i := hc
    simp [acceptedCount, hne]
  | rejected req => simp [acceptedCount]
  | revoked j => simp [acceptedCount]

theorem acceptedCount_decided {req : IncomingPairRequest} (hi : req.inviteId = i) (verdict : Verdict) :
    acceptedCount i (log ++ [verdict.commit req]) = acceptedCount i log + if verdict = .accept then 1 else 0 := by
  cases verdict with
  | accept => simp [acceptedCount, Verdict.commit, hi]
  | reject => simp [acceptedCount, Verdict.commit]

theorem noneAfterRevoked_concat (h : NoneAfterRevoked i log)
    (hc : ∀ req, c = .accepted req → req.inviteId = i → .revoked i ∉ log) : NoneAfterRevoked i (log ++ [c]) := by
  intro pre post req heq hmem
  induction post using List.reverseRecOn with
  | nil => cases hmem
  | append_singleton post c' _ =>
    rw [← List.cons_append, ← List.append_assoc] at heq
    obtain ⟨hlog, hlast⟩ := List.append_inj' heq rfl
    rcases List.mem_append.mp hmem with hmem | hmem
    · exact h pre post req hlog hmem
    intro hi
    have hreq : c = .accepted req := by
      rw [List.mem_singleton.mp hmem]
      exact (List.cons.inj hlast).1
    exact hc req hreq hi (by simp [hlog])

end Log

theorem commit_self (old new : PairInvite) : old.commit new old = new := by
  have hcol : ∀ {α : Type} [DecidableEq α] (a b : α), column a b a = b := by
    intro α _ a b
    rw [column]
    split_ifs with h
    · exact h.symm
    · rfl
  cases old
  cases new
  simp [PairInvite.commit, hcol]

theorem checkRow_eq_ok {row row' : PairInvite} (h : checkRow (some row) = .ok row') :
    row.status ≠ .revoked ∧ (row.isPermanent = false → row.status = .active ∨ row.usedCount < row.limit) := by
  rw [checkRow] at h
  split_ifs at h with hstatus huses
  rw [not_or, not_or] at hstatus
  refine ⟨hstatus.2.1, fun hperm => ?_⟩
  cases hs : row.status with
  | active => exact .inl rfl
  | redeemed => refine .inr (Nat.lt_of_not_le fun hle => huses ⟨by simp [hperm], hs, hle⟩)
  | rejected => exact absurd hs hstatus.1
  | revoked => exact absurd hs hstatus.2.1
  | expired => exact absurd hs hstatus.2.2

/-- The invite has not been used. -/
structure Fresh (i : String) (m : Nat) (s : PairDesk) : Prop where
  row : ∃ row, s.invites.get i = some row ∧ row.isPermanent = false ∧ row.maxUses = m ∧ row.usedCount = 0 ∧
    row.status = .active
  idle : ∀ x, ¬ s.LiveAt i x
  kept : ∀ k row, ¬ s.Revoking i k row
  log : ∀ c ∈ s.log, ¬ c.About i

structure Sound (i : String) (m : Nat) (s : PairDesk) : Prop where
  row : ∃ row, s.invites.get i = some row ∧ row.isPermanent = false ∧ row.maxUses = m ∧
    acceptedCount i s.log ≤ row.usedCount ∧ (row.status = .active → acceptedCount i s.log = 0) ∧
    (row.status = .revoked ↔ .revoked i ∈ s.log)
  unique : ∀ x y, s.LiveAt i x → s.LiveAt i y → x = y
  room : ∀ x, s.LiveAt i x → acceptedCount i s.log < m ∧ .revoked i ∉ s.log
  bound : acceptedCount i s.log ≤ m
  final : NoneAfterRevoked i s.log
  loaded : ∀ k row, s.Loaded i k row → row = s.invites.get i
  revoking : ∀ k row, s.Revoking i k row → row.status = .revoked → .revoked i ∈ s.log

section Sound

variable {i : String} {m : Nat} {s t : PairDesk}

theorem Fresh.sound (hm : 1 ≤ m) (h : Fresh i m s) : Sound i m s := by
  obtain ⟨row, hrow, hperm, hmax, hused, hstatus⟩ := h.row
  have hrev : .revoked i ∉ s.log := fun hmem => h.log _ hmem rfl
  have hacc : acceptedCount i s.log = 0 := by
    rw [acceptedCount, List.countP_eq_zero]
    intro c hc
    cases c with
    | accepted req =>
      have hne : req.inviteId ≠ i := h.log _ hc
      simp [hne]
    | rejected req => simp
    | revoked j => simp
  constructor
  · exact ⟨row, hrow, hperm, hmax, by omega, fun _ => hacc, iff_of_false (by simp [hstatus]) hrev⟩
  · exact fun x _ hx => absurd hx (h.idle x)
  · exact fun x hx => absurd hx (h.idle x)
  · omega
  · intro pre post req heq
    exact absurd (heq ▸ by simp) hrev
  · rintro k row' ⟨t, req, hget, hreq, hi, -⟩
    exact absurd ⟨t, req, hget, hreq, hi⟩ (h.idle (.task k))
  · exact fun k row' hk => absurd hk (h.kept k row')

theorem Sound.quiet (hs : Sound i m s) (h : Quiet i s t) : Sound i m t := by
  obtain ⟨row, hrow, hperm, hmax, hused, hactive, hrevoked⟩ := hs.row
  -- the log grows at most by a commit about another invite
  have hacc : acceptedCount i t.log = acceptedCount i s.log := by
    rcases h.log with hlog | ⟨c, hc, hlog⟩
    · rw [hlog]
    · rw [hlog, acceptedCount_of_not_about hc]
  have hmem : .revoked i ∈ t.log ↔ .revoked i ∈ s.log := by
    rcases h.log with hlog | ⟨c, hc, hlog⟩
    · rw [hlog]
    rw [hlog, List.mem_append, List.mem_singleton, or_iff_left]
    rintro rfl
    exact hc rfl
  have hfinal : NoneAfterRevoked i t.log := by
    rcases h.log with hlog | ⟨c, hc, hlog⟩
    · rw [hlog]
      exact hs.final
    rw [hlog]
    refine noneAfterRevoked_concat hs.final ?_
    rintro req rfl hi
    exact absurd hi hc
  obtain ⟨origin, hlive, hinj⟩ := h.moved
  constructor
  · rw [hacc, hmem]
    exact ⟨row, h.row.trans hrow, hperm, hmax, hused, hactive, hrevoked⟩
  · intro x y hx hy
    exact hinj x y hx hy (hs.unique _ _ (hlive x hx) (hlive y hy))
  · intro x hx
    rw [hacc, hmem]
    exact hs.room _ (hlive x hx)
  · rw [hacc]
    exact hs.bound
  · exact hfinal
  · intro k row' hk
    rw [h.row]
    rcases h.reads.loaded k row' hk with hk | hk
    · exact hs.loaded k row' hk
    · exact hk
  intro k row' hk hstatus
  rw [hmem]
  rcases h.reads.revoking k row' hk with hk | hk
  · exact hs.revoking k row' hk hstatus
  rw [hrow] at hk
  exact hrevoked.mp (Option.some.inj hk ▸ hstatus)

theorem Sound.opened {k : Nat} (hm : 1 ≤ m) (hs : Sound i m s) (hidle : ∀ x, ¬ s.LiveAt i x)
    (h : Opened i s t k) : Sound i m t := by
  obtain ⟨row, hrow, hperm, hmax, hused, hactive, hrevoked⟩ := hs.row
  obtain ⟨row', hcheck⟩ := h.check
  rw [hrow] at hcheck
  obtain ⟨hstatus, huses⟩ := checkRow_eq_ok hcheck
  have hroom : acceptedCount i s.log < m := by
    rcases huses hperm with hact | hlt
    · have := hactive hact
      omega
    rw [PairInvite.limit, hmax, if_neg (by omega)] at hlt
    omega
  have hnew : ∀ x, t.LiveAt i x → x = .task k := by
    intro x hx
    rcases h.live x hx with hx | hx
    · exact hx
    · exact absurd hx (hidle x)
  constructor
  · rw [h.log]
    exact ⟨row, h.row.trans hrow, hperm, hmax, hused, hactive, hrevoked⟩
  · intro x y hx hy
    rw [hnew x hx, hnew y hy]
  · intro x _
    rw [h.log]
    exact ⟨hroom, fun hmem => hstatus (hrevoked.mpr hmem)⟩
  · rw [h.log]
    exact hs.bound
  · rw [h.log]
    exact hs.final
  · intro k' row'' hk
    rw [h.row]
    rcases h.reads.loaded k' row'' hk with hk | hk
    · exact hs.loaded k' row'' hk
    · exact hk
  intro k' row'' hk hst
  rw [h.log]
  rcases h.reads.revoking k' row'' hk with hk | hk
  · exact hs.revoking k' row'' hk hst
  rw [hrow] at hk
  exact hrevoked.mp (Option.some.inj hk ▸ hst)

theorem Sound.decided {k : Nat} {verdict : Verdict} {loaded : Option PairInvite} (hs : Sound i m s)
    (h : Decided i s t k verdict loaded) : Sound i m t := by
  obtain ⟨row, hrow, hperm, hmax, hused, -, hrevoked⟩ := hs.row
  obtain ⟨bob, now, hinvites⟩ := h.invites
  obtain ⟨req, hi, hlog⟩ := h.log
  have hlive : s.LiveAt i (.task k) := by
    obtain ⟨t', req', hget, hreq, hi', -⟩ := h.loaded
    exact ⟨t', req', hget, hreq, hi'⟩
  obtain ⟨hlt, hnot⟩ := hs.room _ hlive
  have hrow' : t.invites.get i = some (row.decided verdict bob now) := by
    have hl : loaded = some row := (hs.loaded k loaded h.loaded).trans hrow
    rw [hinvites, hl, commitRow.eq_def]
    simp only [hrow, Table.get_put, if_true, commit_self]
  have hidle : ∀ x, ¬ t.LiveAt i x := by
    intro x hx
    obtain ⟨hne, hx'⟩ := h.live x hx
    exact hne (hs.unique _ _ hx' hlive)
  have hnot' : .revoked i ∉ t.log := by
    rw [hlog, List.mem_append, List.mem_singleton, not_or]
    refine ⟨hnot, ?_⟩
    cases verdict <;> simp [Verdict.commit]
  have hacc : acceptedCount i (s.log ++ [verdict.commit _]) = _ := acceptedCount_decided hi verdict
  rw [← hlog] at hacc
  have hcount : acceptedCount i t.log ≤ acceptedCount i s.log + 1 := by
    rw [hacc]
    split <;> omega
  have hstatus : (row.decided verdict bob now).status ≠ .active ∧ (row.decided verdict bob now).status ≠ .revoked := by
    cases verdict <;> simp [PairInvite.decided, hperm]
  constructor
  · refine ⟨_, hrow', hperm, hmax, ?_, fun hact => absurd hact hstatus.1, iff_of_false hstatus.2 hnot'⟩
    show _ ≤ row.usedCount + 1
    omega
  · exact fun x _ hx => absurd hx (hidle x)
  · exact fun x hx => absurd hx (hidle x)
  · omega
  · rw [hlog]
    exact noneAfterRevoked_concat hs.final fun _ _ _ => hnot
  · intro k' row' hk
    obtain ⟨hne, t', req', hget, hreq, hi', -⟩ := h.others k' row' hk
    exact absurd (Slot.task.inj (hs.unique _ _ ⟨t', req', hget, hreq, hi'⟩ hlive)) hne
  intro k' row' hk hst
  rw [hlog]
  exact List.mem_append_left _ (hs.revoking k' row' (h.revoking k' row' hk) hst)

theorem Sound.withdrawn {k : Nat} {loaded : PairInvite} (hs : Sound i m s) (hidle : ∀ x, ¬ s.LiveAt i x)
    (h : Withdrawn i s t k loaded) : Sound i m t := by
  obtain ⟨row, hrow, hperm, hmax, hused, -, hrevoked⟩ := hs.row
  obtain ⟨now, hinvites⟩ := h.invites
  have hrow' : t.invites.get i = some (loaded.commit (loaded.revoked now) row) := by
    rw [hinvites, commitRow.eq_def]
    simp only [hrow, Table.get_put, if_true]
  -- a revocation that has read a revoked row writes no status, and then the row is still revoked
  have hstatus : (loaded.commit (loaded.revoked now) row).status = .revoked := by
    show column loaded.status .revoked row.status = .revoked
    rw [column]
    split_ifs with heq
    · exact hrevoked.mpr (hs.revoking k loaded h.revoking heq.symm)
    · rfl
  have hacc : acceptedCount i t.log = acceptedCount i s.log := by
    rw [h.log]
    simp [acceptedCount]
  have hmem : .revoked i ∈ t.log := by
    rw [h.log]
    simp
  constructor
  · refine ⟨_, hrow', ?_, ?_, ?_, fun hact => ?_, iff_of_true hstatus hmem⟩
    · show column loaded.isPermanent loaded.isPermanent row.isPermanent = false
      simp [column, hperm]
    · show column loaded.maxUses loaded.maxUses row.maxUses = m
      simp [column, hmax]
    · show _ ≤ column loaded.usedCount loaded.usedCount row.usedCount
      simpa [column, hacc] using hused
    rw [hstatus] at hact
    cases hact
  · exact fun x _ hx => absurd (h.live x hx) (hidle x)
  · exact fun x hx => absurd (h.live x hx) (hidle x)
  · rw [hacc]
    exact hs.bound
  · rw [h.log]
    refine noneAfterRevoked_concat hs.final ?_
    rintro req heq
    cases heq
  · intro k' row' hk
    obtain ⟨t', req', hget, hreq, hi', -⟩ := h.others k' row' hk
    exact absurd ⟨t', req', hget, hreq, hi'⟩ (hidle (.task k'))
  · exact fun _ _ _ _ => hmem

theorem Sound.step {env : PairEnv} {e : PairEvent} (hm : 1 ≤ m) (hs : Sound i m s)
    (hC : OneAtATime env i s e) : Sound i m (s.step env e) := by
  cases step_effect env i s e with
  | quiet h => exact hs.quiet h
  | opened k hopens h => exact hs.opened hm (hC (.inl hopens)) h
  | decided k verdict row h => exact hs.decided h
  | withdrawn k row hrevokes h => exact hs.withdrawn (hC (.inr hrevokes)) h

end Sound

end PairDesk

open PairDesk

/-- **The limit of an invite.** -/
theorem accepted_le_maxUses (env : PairEnv) {i : String} {m : Nat} (hm : 1 ≤ m) {s : PairDesk}
    (hfresh : Fresh i m s) {es : List PairEvent} (hes : Along (PairDesk.step env) (OneAtATime env i) s es) :
    acceptedCount i (run (PairDesk.step env) s es).log ≤ m ∧ NoneAfterRevoked i (run (PairDesk.step env) s es).log := by
  have hsound : Sound i m (run (PairDesk.step env) s es) :=
    run_invariant (fun _ _ hC hs => hs.step hm hC) (hfresh.sound hm) hes
  exact ⟨hsound.bound, hsound.final⟩

/-- A node on which every stored blob verifies as that of the invite `i`. -/
def exampleEnv : PairEnv := ⟨"me", fun _ => "", fun _ _ _ => some "i"⟩

def exampleDesk : PairDesk := { invites := Table.put ∅ "i" ⟨"me", "", "", 1, 0, .active, "", "", "", false⟩ }

theorem exampleDesk_fresh : Fresh "i" 1 exampleDesk where
  row := ⟨_, rfl, rfl, rfl, rfl, rfl⟩
  idle := by
    rintro (transientId | k) h
    · obtain ⟨req, hget, -⟩ := h
      cases hget
    obtain ⟨t, req, hget, -⟩ := h
    cases hget
  kept := by
    intro k row h
    cases h
  log := by
    intro c hc
    cases hc

def exampleFrame (bob : String) : List (String × Json) :=
  [("transient_id", .str ("probe-" ++ bob)), ("inv_payload", .obj [("invite_id", .str "i")]), ("bob_pubkey", .str bob)]

/-- No request is there. -/
def PairDesk.idle (s : PairDesk) : Bool :=
  s.pending.rows.isEmpty && s.tasks.rows.all fun e => e.2.request?.isNone

/-- Probes, and revocations that commit, come when no request is there. -/
def PairDesk.aloneAt (s : PairDesk) (e : PairEvent) : Bool :=
  s.idle || match e with
    | .probe .. => false
    | .resume k _ => match s.tasks.get k with
      | some (.revoke ..) => false
      | _ => true
    | _ => true

theorem PairDesk.oneAtATime_of_aloneAt {env : PairEnv} {i : String} {s : PairDesk} {e : PairEvent}
    (h : s.aloneAt e = true) : OneAtATime env i s e := by
  rcases Bool.or_eq_true_iff.mp h with hidle | hother
  · simp only [idle, Bool.and_eq_true, List.isEmpty_iff, List.all_eq_true, Option.isNone_iff_eq_none] at hidle
    rintro - (transientId | k) hlive
    · obtain ⟨req, hget, -⟩ := hlive
      have hmem := (Table.mem_rows _ _ _).mpr hget
      rw [hidle.1] at hmem
      cases hmem
    · obtain ⟨t, req, hget, hreq, -⟩ := hlive
      have hnone := hidle.2 _ ((Table.mem_rows _ _ _).mpr hget)
      rw [hnone] at hreq
      cases hreq
  · rintro (hopens | hrevokes)
    · cases e with
      | probe => cases hother
      | _ => exact hopens.elim
    · cases e with
      | resume k answer =>
        obtain ⟨row, hrow⟩ := hrevokes
        simp only [show s.tasks.get k = some (.revoke i row) from hrow] at hother
        cases hother
      | _ => exact hrevokes.elim

/-- A probe that is accepted while a revocation has read the row; it commits after that, and another probe
comes. -/
def exampleAccepted : List PairEvent :=
  [.probe 1 (exampleFrame "b"), .resume 1 "", .resume 1 "", .resume 1 "", .revoke 3 "i",
    .decide 4 .accept "probe-b", .resume 4 "", .resume 4 "", .resume 4 "", .resume 4 "", .resume 3 "",
    .probe 2 (exampleFrame "c"), .resume 2 ""]

theorem accepted_le_maxUses_revoked :
    (run (PairDesk.step exampleEnv) exampleDesk exampleAccepted).log =
      [.accepted ⟨"probe-b", "i", "b", [], ""⟩, .revoked "i"] ∧
    acceptedCount "i" (run (PairDesk.step exampleEnv) exampleDesk exampleAccepted).log ≤ 1 ∧
      NoneAfterRevoked "i" (run (PairDesk.step exampleEnv) exampleDesk exampleAccepted).log := by
  have halone : Along (PairDesk.step exampleEnv) (fun s e => s.aloneAt e = true) exampleDesk exampleAccepted := by
    decide +kernel
  exact ⟨by decide +kernel, accepted_le_maxUses exampleEnv (Nat.le_refl 1) exampleDesk_fresh
    (Along.mono (fun _ _ => PairDesk.oneAtATime_of_aloneAt) halone)⟩

/-- Two probes, a revocation, and two accepts. -/
def exampleOverlap : List PairEvent := [.probe 1 (exampleFrame "b"), .resume 1 "", .resume 1 "", .resume 1 "",
    .probe 2 (exampleFrame "c"), .resume 2 "", .resume 2 "", .resume 2 "",
    .revoke 3 "i", .resume 3 "",
    .decide 4 .accept "probe-b", .resume 4 "", .resume 4 "", .resume 4 "", .resume 4 "",
    .decide 5 .accept "probe-c", .resume 5 "", .resume 5 "", .resume 5 "", .resume 5 ""]

theorem overlapping_requests_accepted :
    ¬ ∀ (env : PairEnv) (i : String) (m : Nat) (s : PairDesk), 1 ≤ m → Fresh i m s → ∀ es : List PairEvent,
      acceptedCount i (run (PairDesk.step env) s es).log ≤ m ∧
        NoneAfterRevoked i (run (PairDesk.step env) s es).log := by
  intro h
  have hlog : (run (PairDesk.step exampleEnv) exampleDesk exampleOverlap).log =
      [.revoked "i", .accepted ⟨"probe-b", "i", "b", [], ""⟩, .accepted ⟨"probe-c", "i", "c", [], ""⟩] := by
    decide +kernel
  obtain ⟨hcount, -⟩ := h exampleEnv "i" 1 exampleDesk (Nat.le_refl 1) exampleDesk_fresh exampleOverlap
  exact absurd hcount (by decide)

end NexusGrid.Pairing

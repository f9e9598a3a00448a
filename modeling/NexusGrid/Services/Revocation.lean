import NexusGrid.Services.Tunnel

/-! # Revoking a grant while its streams are open

`_handle_open` checks the grant, dials the service and registers the stream once the dial is over.
-/

namespace NexusGrid.Services

open Lib

/-- A `_handle_open` that has passed the gate and waits for its connection. -/
structure Dial where
  peerId : String
  tunnelId : String
  grantId : String
  target : Target
deriving DecidableEq

/-- Where a `revoke_grant` stands that has committed. -/
inductive RevokePhase
  /-- In `deprovision_for_grant`. -/
  | deprovisioning
  | closing (todo : List String)
  | disconnecting (todo : List String)
deriving DecidableEq

def RevokePhase.Covers (tunnelId : String) : RevokePhase → Prop
  | .deprovisioning => True
  | .closing todo => tunnelId ∈ todo
  | .disconnecting _ => False

structure Revoking where
  grantId : String
  phase : RevokePhase
deriving DecidableEq

structure Provider where
  holdings : Holdings
  tunnels : Tunnels
  dialing : List Dial
  revoking : List Revoking
  returned : List String

namespace Provider

inductive Event
  | svcOpen (peerId tunnelId grantId component : String)
  /-- Dial number `i` ends. -/
  | dialed (i : Nat) (connected : Bool)
  | svcData (tunnelId b64 : String) (drains : Bool)
  | svcClose (tunnelId : String)
  | pumpEnd (tunnelId : String)
  | revoke (grantId now : String)
  | deprovisioned (i : Nat)
  | closeNext (i : Nat)
deriving DecidableEq

def init (h : Holdings) (consumers : Table String ConsumerRecord) : Provider where
  holdings := h
  tunnels := ⟨∅, consumers, [], [], []⟩
  dialing := []
  revoking := []
  returned := []

/-- What the loop of `close_grant_streams` goes through. -/
def streamsOf (s : Provider) (grantId : String) : List String :=
  (s.tunnels.streams.rows.filter fun r => r.2.grantId = grantId).map Prod.fst

/-- Revocation number `i` of the grant returns. -/
def finish (s : Provider) (i : Nat) (grantId : String) : Provider :=
  { s with revoking := s.revoking.eraseIdx i, returned := s.returned ++ [grantId] }

/-- One step of revocation number `i` once the streams are listed. -/
def closeStep (s : Provider) (i : Nat) (grantId : String) : RevokePhase → Provider
  | .deprovisioning => s
  | .closing (tunnelId :: todo) =>
    { s with
      tunnels := s.tunnels.shutdownStream tunnelId "revoked" true
      revoking := s.revoking.set i ⟨grantId, .closing todo⟩ }
  | .closing [] =>
    match s.tunnels.consumers.get grantId with
    | none => s.finish i grantId
    | some rec =>
      if rec.listening then
        { s with
          tunnels := { s.tunnels with consumers := s.tunnels.consumers.delete grantId }
          revoking := s.revoking.set i ⟨grantId, .disconnecting rec.tunnelIds⟩ }
      else s.finish i grantId
  | .disconnecting (tunnelId :: todo) =>
    { s with
      tunnels := s.tunnels.shutdownStream tunnelId "disconnect" true
      revoking := s.revoking.set i ⟨grantId, .disconnecting todo⟩ }
  | .disconnecting [] => s.finish i grantId

def step (node : TunnelNode) (s : Provider) : Event → Provider
  | .svcOpen peerId tunnelId grantId component =>
    if tunnelId = "" ∨ grantId = "" then s
    else match openTarget node s.holdings peerId grantId component with
      | .error reason => { s with tunnels := s.tunnels.refuse peerId tunnelId reason }
      | .ok target => { s with dialing := s.dialing ++ [⟨peerId, tunnelId, grantId, target⟩] }
  | .dialed i connected =>
    match s.dialing[i]? with
    | none => s
    | some d =>
      { s with
        dialing := s.dialing.eraseIdx i
        tunnels := openDialed s.tunnels d.peerId d.tunnelId d.grantId d.target connected }
  | .svcData tunnelId b64 drains => { s with tunnels := handleData node s.tunnels tunnelId b64 drains }
  | .svcClose tunnelId => { s with tunnels := s.tunnels.shutdownStream tunnelId "remote_close" false }
  | .pumpEnd tunnelId => { s with tunnels := s.tunnels.shutdownStream tunnelId "eof" true }
  | .revoke grantId now =>
    match revokeGrant node.host now s.holdings grantId with
    | .error _ => { s with returned := s.returned ++ [grantId] }
    | .ok (h, _) => { s with holdings := h, revoking := s.revoking ++ [⟨grantId, .deprovisioning⟩] }
  | .deprovisioned i =>
    match s.revoking[i]? with
    | some ⟨grantId, .deprovisioning⟩ =>
      { s with revoking := s.revoking.set i ⟨grantId, .closing (s.streamsOf grantId)⟩ }
    | _ => s
  | .closeNext i =>
    match s.revoking[i]? with
    | none => s
    | some r => s.closeStep i r.grantId r.phase

def Issued (node : TunnelNode) (h : Holdings) (grantId : String) : Prop :=
  ∃ grant, h.grants.get grantId = some grant ∧ grant.providerPubkey = node.host.pubkey

/-- Revocations have the streams of their grants ahead, or none is left. -/
structure Covered (node : TunnelNode) (s : Provider) : Prop where
  issued : ∀ tid st, s.tunnels.streams.get tid = some st → Issued node s.holdings st.grantId
  dialing : ∀ d ∈ s.dialing, Issued node s.holdings d.grantId
  orphans : s.tunnels.orphans = []
  ahead : ∀ r ∈ s.revoking, ∀ tid st, s.tunnels.streams.get tid = some st → st.grantId = r.grantId → r.phase.Covers tid
  cut : ∀ g ∈ s.returned, ∀ tid st, s.tunnels.streams.get tid = some st → st.grantId ≠ g

/-- A dial ends with its id free, before a revocation has listed the streams. -/
def InTime (s : Provider) : Event → Prop
  | .dialed i true =>
    match s.dialing[i]? with
    | none => True
    | some d => s.tunnels.streams.get d.tunnelId = none ∧ d.grantId ∉ s.returned ∧
        ∀ r ∈ s.revoking, r.grantId = d.grantId → r.phase = .deprovisioning
  | _ => True

instance InTime.instDecidable (s : Provider) : (e : Event) → Decidable (s.InTime e)
  | .dialed i true =>
    match h : s.dialing[i]? with
    | none => .isTrue (by simp only [InTime, h])
    | some d =>
      decidable_of_iff (s.tunnels.streams.get d.tunnelId = none ∧ d.grantId ∉ s.returned ∧
        ∀ r ∈ s.revoking, r.grantId = d.grantId → r.phase = .deprovisioning) (by simp only [InTime, h])
  | .dialed _ false => .isTrue trivial
  | .svcOpen .. => .isTrue trivial
  | .svcData .. => .isTrue trivial
  | .svcClose _ => .isTrue trivial
  | .pumpEnd _ => .isTrue trivial
  | .revoke .. => .isTrue trivial
  | .deprovisioned _ => .isTrue trivial
  | .closeNext _ => .isTrue trivial

/-- No stream is added on the way from `t` to `t'`. -/
structure Shrinks (t t' : Tunnels) : Prop where
  orphans : t'.orphans = t.orphans
  streams : ∀ tid st, t'.streams.get tid = some st → t.streams.get tid = some st

section Steps

variable {node : TunnelNode} {s : Provider}

theorem shrinks_shutdownStream (t : Tunnels) (tunnelId reason : String) (notify : Bool) :
    Shrinks t (t.shutdownStream tunnelId reason notify) := by
  refine ⟨shutdownStream_orphans .., fun tid st hst => ?_⟩
  rw [get_shutdownStream] at hst
  split at hst
  · cases hst
  · exact hst

theorem shrinks_handleData (t : Tunnels) (tunnelId b64 : String) (drains : Bool) :
    Shrinks t (handleData node t tunnelId b64 drains) :=
  have hspec := handleData_spec node t tunnelId b64 drains
  ⟨hspec.1, hspec.2.1⟩

theorem Covered.shrink (h : s.Covered node) {t : Tunnels} (ht : Shrinks s.tunnels t) :
    ({ s with tunnels := t } : Provider).Covered node where
  issued tid st hst := h.issued tid st (ht.streams tid st hst)
  dialing := h.dialing
  orphans := ht.orphans.trans h.orphans
  ahead r hr tid st hst := h.ahead r hr tid st (ht.streams tid st hst)
  cut g hg tid st hst := h.cut g hg tid st (ht.streams tid st hst)

theorem issued_of_openTarget {hd : Holdings} {peerId grantId component : String} {target : Target}
    (hok : openTarget node hd peerId grantId component = .ok target) : Issued node hd grantId := by
  unfold openTarget at hok
  split at hok
  case h_1 => cases hok
  case h_2 grant hgrant =>
    split at hok
    case isTrue => cases hok
    case isFalse hgate =>
      rw [not_or, not_ne_iff] at hgate
      exact ⟨grant, hgrant, hgate.1⟩

theorem not_issued_of_revokeGrant_error {hd : Holdings} {now grantId error : String}
    (herr : revokeGrant node.host now hd grantId = .error error) : ¬Issued node hd grantId := by
  rintro ⟨grant, hgrant, hmine⟩
  unfold revokeGrant at herr
  simp only [hgrant, hmine, ne_eq, not_true_eq_false, if_false, reduceCtorEq] at herr

theorem issued_revokeGrant {hd hd' : Holdings} {now grantId g : String} {fields : List (String × Json)}
    (hok : revokeGrant node.host now hd grantId = .ok (hd', fields)) (hg : Issued node hd g) : Issued node hd' g := by
  unfold revokeGrant at hok
  split at hok
  case h_1 => cases hok
  case h_2 grant hgrant =>
    split at hok
    case isTrue => cases hok
    case isFalse hmine =>
      cases hok
      obtain ⟨grant', hgrant', hmine'⟩ := hg
      by_cases heq : g = grantId
      · subst heq
        exact ⟨_, Table.get_put_self _ _ _, not_ne_iff.mp hmine⟩
      · exact ⟨grant', (Table.get_put_ne _ _ heq).trans hgrant', hmine'⟩

theorem Covered.set_phase (h : s.Covered node) (i : Nat) {grantId : String} {phase : RevokePhase}
    (hphase : ∀ tid st, s.tunnels.streams.get tid = some st → st.grantId = grantId → phase.Covers tid) :
    ({ s with revoking := s.revoking.set i ⟨grantId, phase⟩ } : Provider).Covered node where
  issued := h.issued
  dialing := h.dialing
  orphans := h.orphans
  ahead r hr := by
    rcases List.mem_or_eq_of_mem_set hr with hold | rfl
    · exact h.ahead r hold
    · exact hphase
  cut := h.cut

theorem Covered.finish (h : s.Covered node) (i : Nat) {grantId : String}
    (hnone : ∀ tid st, s.tunnels.streams.get tid = some st → st.grantId ≠ grantId) :
    (s.finish i grantId).Covered node where
  issued := h.issued
  dialing := h.dialing
  orphans := h.orphans
  ahead r hr := h.ahead r (List.mem_of_mem_eraseIdx hr)
  cut g hg := by
    rcases List.mem_append.mp hg with hold | hnew
    · exact h.cut g hold
    rw [List.mem_singleton.mp hnew]
    exact hnone

theorem covers_todo {todo : List String} {grantId tunnelId reason : String}
    (hahead : ∀ tid st, s.tunnels.streams.get tid = some st → st.grantId = grantId →
      tid ∈ tunnelId :: todo) (tid : String) (st : TunnelStream)
    (hst : (s.tunnels.shutdownStream tunnelId reason true).streams.get tid = some st)
    (hgrant : st.grantId = grantId) : tid ∈ todo := by
  rw [get_shutdownStream] at hst
  split at hst
  case isTrue => cases hst
  case isFalse hne => exact (List.mem_cons.mp (hahead tid st hst hgrant)).resolve_left hne

theorem Covered.closeStep (h : s.Covered node) {i : Nat} {r : Revoking} (hr : r ∈ s.revoking) :
    (s.closeStep i r.grantId r.phase).Covered node := by
  have hahead := h.ahead r hr
  -- in a phase that covers nothing the grant has no stream
  have hnone (hphase : ∀ tid, ¬r.phase.Covers tid) :
      ∀ tid st, s.tunnels.streams.get tid = some st → st.grantId ≠ r.grantId :=
    fun tid st hst hgrant => hphase tid (hahead tid st hst hgrant)
  unfold Provider.closeStep
  split
  case h_1 => exact h
  case h_2 tunnelId todo hphase =>
    rw [hphase] at hahead
    exact (h.shrink (shrinks_shutdownStream ..)).set_phase i (covers_todo hahead)
  case h_3 hphase =>
    have hleft := hnone fun tid => by simp [hphase, RevokePhase.Covers]
    split
    · exact h.finish i hleft
    split
    · have hdropped : Shrinks s.tunnels
          { s.tunnels with consumers := s.tunnels.consumers.delete r.grantId } :=
        ⟨rfl, fun _ _ hst => hst⟩
      exact (h.shrink hdropped).set_phase i
        fun tid st hst hgrant => absurd hgrant (hleft tid st hst)
    · exact h.finish i hleft
  case h_4 tunnelId todo hphase =>
    refine (h.shrink (shrinks_shutdownStream ..)).set_phase i fun tid st hst hgrant => ?_
    rw [hphase] at hahead
    exact hahead tid st ((shrinks_shutdownStream ..).streams tid st hst) hgrant
  case h_5 hphase => exact h.finish i (hnone fun tid => by simp [hphase, RevokePhase.Covers])

theorem Covered.register (h : s.Covered node) {d : Dial} (i : Nat) (hissued : Issued node s.holdings d.grantId)
    (hfree : s.tunnels.streams.get d.tunnelId = none) (hopen : d.grantId ∉ s.returned)
    (hphase : ∀ r ∈ s.revoking, r.grantId = d.grantId → r.phase = .deprovisioning) : ({ s with
        dialing := s.dialing.eraseIdx i
        tunnels := s.tunnels.register d.tunnelId ⟨.provider, d.grantId, d.peerId, d.target.pump⟩ } :
      Provider).Covered node := by
  have hcases {tid : String} {st : TunnelStream}
      (hst : (s.tunnels.streams.put d.tunnelId
        ⟨.provider, d.grantId, d.peerId, d.target.pump⟩).get tid = some st) :
      st.grantId = d.grantId ∨ s.tunnels.streams.get tid = some st := by
    rw [Table.get_put] at hst
    split at hst
    · exact .inl (Option.some.inj hst ▸ rfl)
    · exact .inr hst
  refine ⟨fun tid st hst => ?_, fun e he => ?_, ?_, fun r hr tid st hst hgrant => ?_, fun g hg tid st hst => ?_⟩
  · rcases hcases hst with hnew | hold
    · rw [hnew]
      exact hissued
    · exact h.issued tid st hold
  · exact h.dialing e (List.mem_of_mem_eraseIdx he)
  · simp only [Tunnels.register, h.orphans, hfree, Option.toList_none, List.append_nil]
  · rcases hcases hst with hnew | hold
    · rw [hphase r hr (hgrant.symm.trans hnew)]
      trivial
    · exact h.ahead r hr tid st hold hgrant
  rcases hcases hst with hnew | hold
  · rw [hnew]
    rintro rfl
    exact hopen hg
  · exact h.cut g hg tid st hold

/-- **One step** keeps the invariant, unless a dial ends too late. -/
theorem Covered.step (h : s.Covered node) {e : Event} (hin : s.InTime e) : (s.step node e).Covered node := by
  cases e with
  | svcOpen peerId tunnelId grantId component =>
    simp only [Provider.step]
    split
    · exact h
    split
    · exact h.shrink ⟨rfl, fun _ _ hst => hst⟩
    rename_i target hok
    refine ⟨h.issued, fun d hd => ?_, h.orphans, h.ahead, h.cut⟩
    rcases List.mem_append.mp hd with hold | hnew
    · exact h.dialing d hold
    rw [List.mem_singleton.mp hnew]
    exact issued_of_openTarget hok
  | dialed i connected =>
    cases hd : s.dialing[i]? with
    | none => simpa only [Provider.step, hd] using h
    | some d =>
      have hmem : d ∈ s.dialing := List.mem_of_getElem? hd
      simp only [Provider.step, hd, openDialed]
      cases connected with
      | false =>
        refine ⟨h.issued, fun e he => ?_, h.orphans, h.ahead, h.cut⟩
        exact h.dialing e (List.mem_of_mem_eraseIdx he)
      | true =>
        simp only [InTime, hd] at hin
        exact h.register i (h.dialing d hmem) hin.1 hin.2.1 hin.2.2
  | svcData tunnelId b64 drains => exact h.shrink (shrinks_handleData ..)
  | svcClose tunnelId => exact h.shrink (shrinks_shutdownStream ..)
  | pumpEnd tunnelId => exact h.shrink (shrinks_shutdownStream ..)
  | revoke grantId now =>
    simp only [Provider.step]
    split
    case h_1 error herr =>
      refine ⟨h.issued, h.dialing, h.orphans, h.ahead, fun g hg tid st hst => ?_⟩
      rcases List.mem_append.mp hg with hold | hnew
      · exact h.cut g hold tid st hst
      rw [List.mem_singleton.mp hnew]
      rintro rfl
      exact not_issued_of_revokeGrant_error herr (h.issued tid st hst)
    case h_2 hd fields hok =>
      refine ⟨fun tid st hst => issued_revokeGrant hok (h.issued tid st hst),
        fun d hd => issued_revokeGrant hok (h.dialing d hd), h.orphans, fun r hr => ?_, h.cut⟩
      rcases List.mem_append.mp hr with hold | hnew
      · exact h.ahead r hold
      rw [List.mem_singleton.mp hnew]
      exact fun _ _ _ _ => trivial
  | deprovisioned i =>
    simp only [Provider.step]
    split
    case h_1 grantId _ =>
      refine h.set_phase i fun tid st hst hgrant => ?_
      have hrow : (tid, st) ∈ s.tunnels.streams.rows := (Table.mem_rows ..).mpr hst
      exact List.mem_map.mpr ⟨(tid, st), List.mem_filter.mpr ⟨hrow, decide_eq_true hgrant⟩, rfl⟩
    case h_2 => exact h
  | closeNext i =>
    simp only [Provider.step]
    split
    case h_1 => exact h
    case h_2 r hr => exact h.closeStep (List.mem_of_getElem? hr)

theorem covered_init (node : TunnelNode) (h : Holdings) (consumers : Table String ConsumerRecord) :
    (init h consumers).Covered node where
  issued tid st hst := by simp [init] at hst
  dialing := by simp [init]
  orphans := rfl
  ahead := by simp [init]
  cut := by simp [init]

end Steps

def writtenUnder (s : Provider) (grantId : String) : List SocketWrite :=
  s.tunnels.writes.filter (·.stream.grantId = grantId)

/-- A grant whose `revoke_grant` has returned stays one, without writes. -/
def Silent (s s' : Provider) : Prop := ∀ g ∈ s.returned, g ∈ s'.returned ∧ s'.writtenUnder g = s.writtenUnder g

section Bytes

variable {node : TunnelNode} {s : Provider}

theorem silent_refl (s : Provider) : s.Silent s := fun _ hg => ⟨hg, rfl⟩

theorem silent_trans (s t u : Provider) (hst : s.Silent t) (htu : t.Silent u) : s.Silent u := by
  intro g hg
  obtain ⟨hgt, hwt⟩ := hst g hg
  obtain ⟨hgu, hwu⟩ := htu g hgt
  exact ⟨hgu, hwu.trans hwt⟩

theorem silent_of_writes {s' : Provider} (hreturned : s.returned ⊆ s'.returned)
    (hwrites : s'.tunnels.writes = s.tunnels.writes) : s.Silent s' := by
  intro g hg
  refine ⟨hreturned hg, ?_⟩
  unfold writtenUnder
  rw [hwrites]

theorem silent_closeStep (i : Nat) (grantId : String) (phase : RevokePhase) :
    s.Silent (s.closeStep i grantId phase) := by
  have hfinish : s.Silent (s.finish i grantId) := silent_of_writes (List.subset_append_left _ _) rfl
  unfold closeStep
  split
  · exact silent_of_writes (.refl _) rfl
  · exact silent_of_writes (.refl _) (shutdownStream_writes ..)
  · split
    · exact hfinish
    split
    · exact silent_of_writes (.refl _) rfl
    · exact hfinish
  · exact silent_of_writes (.refl _) (shutdownStream_writes ..)
  · exact hfinish

theorem silent_handleData (h : s.Covered node) (tunnelId b64 : String) (drains : Bool) :
    s.Silent { s with tunnels := handleData node s.tunnels tunnelId b64 drains } := by
  intro g hg
  refine ⟨hg, ?_⟩
  unfold writtenUnder
  obtain ⟨-, -, -, hsame | ⟨st, chunk, hst, hnew⟩⟩ := handleData_spec node s.tunnels tunnelId b64 drains
  · rw [hsame]
  -- the frame was for a stream of some other grant
  have hother : st.grantId ≠ g := h.cut g hg tunnelId st hst
  rw [hnew, List.filter_append]
  simp [hother]

theorem silent_step (h : s.Covered node) (e : Event) : s.Silent (s.step node e) := by
  have hrefl := silent_refl s
  cases e with
  | svcOpen peerId tunnelId grantId component =>
    simp only [step]
    split
    · exact hrefl
    · split <;> exact silent_of_writes (.refl _) rfl
  | dialed i connected =>
    simp only [step]
    split
    · exact hrefl
    refine silent_of_writes (.refl _) ?_
    unfold openDialed
    split <;> rfl
  | svcData tunnelId b64 drains => exact silent_handleData h tunnelId b64 drains
  | svcClose tunnelId => exact silent_of_writes (.refl _) (shutdownStream_writes ..)
  | pumpEnd tunnelId => exact silent_of_writes (.refl _) (shutdownStream_writes ..)
  | revoke grantId now =>
    simp only [step]
    split
    · exact silent_of_writes (List.subset_append_left _ _) rfl
    · exact silent_of_writes (.refl _) rfl
  | deprovisioned i =>
    simp only [step]
    split
    · exact silent_of_writes (.refl _) rfl
    · exact hrefl
  | closeNext i =>
    simp only [step]
    split
    · exact hrefl
    · exact silent_closeStep i _ _

end Bytes

/-- Once `revoke_grant` has returned there is no stream and no write. -/
def StaysCut (node : TunnelNode) (s : Provider) (es : List Event) : Prop :=
  ∀ pre, pre <+: es → ∀ g ∈ (run (step node) s pre).returned,
    (∀ tid st, (run (step node) s pre).tunnels.streams.get tid = some st → st.grantId ≠ g) ∧
      (∀ st ∈ (run (step node) s pre).tunnels.orphans, st.grantId ≠ g) ∧
      ∀ pre', pre <+: pre' → pre' <+: es →
        (run (step node) s pre').writtenUnder g = (run (step node) s pre).writtenUnder g

/-- **A revoked grant stays cut.** -/
theorem revoked_grant_stays_cut (node : TunnelNode) (h : Holdings)
    (consumers : Table String ConsumerRecord) (es : List Event)
    (hes : Along (step node) InTime (init h consumers) es) : StaysCut node (init h consumers) es := by
  have hcov {pre : List Event} (hpre : pre <+: es) : (run (step node) (init h consumers) pre).Covered node :=
    run_invariant (fun s e hin hs => hs.step hin) (covered_init node h consumers)
      (hes.of_prefix hpre)
  have halong := hes.and_invariant (P := Covered node) (fun s e hin hs => hs.step hin)
    (covered_init node h consumers)
  intro pre hpre g hg
  refine ⟨(hcov hpre).cut g hg, fun st hst => ?_, fun pre' hle hpre' => ?_⟩
  · rw [(hcov hpre).orphans] at hst
    cases hst
  have hsilent : (run (step node) (init h consumers) pre).Silent
      (run (step node) (init h consumers) pre') := by
    refine run_rel (R := Silent) silent_refl silent_trans ?_ halong hle hpre'
    intro s e hC
    exact silent_step hC.2 e
  exact (hsilent g hg).2

/-- A stream, a byte, the revocation, and another byte. -/
def revokedInTime : List Event :=
  [.svcOpen "b" "t" "g" "", .dialed 0 true, .svcData "t" "x" true, .revoke "g" "2026-01-02",
    .deprovisioned 0, .closeNext 0, .closeNext 0, .svcData "t" "y" true]

theorem revoked_grant_stays_cut_open_stream :
    (run (step exampleNode) (init exampleHoldings ∅) revokedInTime).returned = ["g"] ∧
      StaysCut exampleNode (init exampleHoldings ∅) revokedInTime :=
  ⟨by decide +kernel, revoked_grant_stays_cut exampleNode exampleHoldings ∅ revokedInTime (by decide +kernel)⟩

def revokedWhileDialing : List Event :=
  [.svcOpen "b" "t" "g" "", .revoke "g" "2026-01-02", .deprovisioned 0, .closeNext 0,
    .dialed 0 true, .svcData "t" "x" true]

/-- **An open in flight survives the revocation.** -/
theorem open_in_flight_survives_revoke :
    let s := run (step exampleNode) (init exampleHoldings ∅) revokedWhileDialing
    s.returned = ["g"] ∧ s.tunnels.streams.get "t" = some ⟨.provider, "g", "b", ""⟩ ∧
      s.writtenUnder "g" = [⟨"t", ⟨.provider, "g", "b", ""⟩, [120]⟩] ∧
      ¬StaysCut exampleNode (init exampleHoldings ∅) revokedWhileDialing := by
  intro s
  obtain ⟨hreturned, hstream, hwritten⟩ : s.returned = ["g"] ∧
      s.tunnels.streams.get "t" = some ⟨.provider, "g", "b", ""⟩ ∧
      s.writtenUnder "g" = [⟨"t", ⟨.provider, "g", "b", ""⟩, [120]⟩] := by
    decide +kernel
  refine ⟨hreturned, hstream, hwritten, fun hcut => ?_⟩
  have hg : "g" ∈ s.returned := by
    exact List.mem_singleton_self "g"
  exact (hcut revokedWhileDialing (List.prefix_refl _) "g" hg).1 "t" _ hstream rfl

end Provider

end NexusGrid.Services

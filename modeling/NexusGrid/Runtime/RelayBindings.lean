import NexusGrid.Lib.PyStr
import NexusGrid.Lib.Run

/-! # The relays that a group is bound to

`_probe_once` (`runtime/relay_latency.py`) moves a binding between its states, and `runtime/relay_selfheal.py` moves the
bindings of this node's own relay to the new URL of its tunnel.
-/

namespace NexusGrid.Runtime

open Lib

inductive RelayState
  | starting
  | validating
  | syncing
  | online
  | offline
  | reconnecting
  | retired
deriving DecidableEq

/-- `VALID_TRANSITIONS`. -/
def RelayState.validTransitions : RelayState → List RelayState
  | starting => [validating, offline, retired]
  | validating => [syncing, offline, retired]
  | syncing => [online, offline, retired]
  | online => [offline, retired]
  | offline => [reconnecting, retired]
  | reconnecting => [syncing, offline, retired]
  | retired => []

structure Binding where
  state : RelayState
  consecutiveProbeFailures : Nat

namespace Binding

/-- `none` when it raises `IllegalRelayStateTransition`. -/
def transition (b : Binding) (target : RelayState) : Option Binding :=
  if target = b.state then some b
  else if target ∉ b.state.validTransitions then none
  else some ⟨target, if target = .online then 0 else b.consecutiveProbeFailures⟩

def moveOn (state target : RelayState) (b : Binding) : Option Binding :=
  if b.state = state then b.transition target else some b

/-- `_probe_once` on one binding of the URL. -/
def probeOnce (b : Binding) (reachable : Bool) : Option Binding :=
  if reachable then moveOn .offline .reconnecting b >>= moveOn .reconnecting .syncing >>= moveOn .syncing .online
  else
    let b := { b with consecutiveProbeFailures := b.consecutiveProbeFailures + 1 }
    -- `OFFLINE_FAILURE_THRESHOLD`
    if b.state = .online ∧ 3 ≤ b.consecutiveProbeFailures then b.transition .offline else some b

/-- The binding after the probe; an exception would leave it as it was. -/
def probed (b : Binding) (reachable : Bool) : Binding := (b.probeOnce reachable).getD b

/-- A relay that answers has no failures counted while it is online. -/
def Unblemished (b : Binding) (reachable : Bool) : Prop :=
  reachable → b.state = .online → b.consecutiveProbeFailures = 0

/-- What is counted of an online binding are the last probes. -/
def Counted (es : List Bool) (b : Binding) : Prop :=
  b.state = .online → List.replicate b.consecutiveProbeFailures false <:+ es

variable {b : Binding}

theorem probed_false (b : Binding) : b.probed false =
    ⟨if b.state = .online ∧ 3 ≤ b.consecutiveProbeFailures + 1 then .offline else b.state,
      b.consecutiveProbeFailures + 1⟩ := by
  rw [probed, probeOnce]
  simp only [Bool.false_eq_true, if_false]
  split_ifs with h
  · simp [transition, h.1, RelayState.validTransitions]
  · rfl

/-- A success brings a binding that was not online there with no failures counted. -/
theorem probed_true (h : (b.probed true).state = .online) :
    (b.probed true).consecutiveProbeFailures = if b.state = .online then b.consecutiveProbeFailures else 0 := by
  obtain ⟨_ | _, _⟩ := b <;> first | rfl | cases h

theorem Counted.step {es : List Bool} {e : Bool} (he : b.Unblemished e) (h : Counted es b) :
    Counted (es ++ [e]) (b.probed e) := by
  intro honline
  cases e with
  | true =>
    have hzero : (b.probed true).consecutiveProbeFailures = 0 := by
      rw [probed_true honline]
      split_ifs with hb
      · exact he rfl hb
      · rfl
    rw [hzero]
    exact List.nil_suffix
  | false =>
    rw [probed_false] at honline ⊢
    dsimp only at honline ⊢
    split_ifs at honline
    obtain ⟨pre, rfl⟩ := h honline
    exact ⟨pre, by simp [List.replicate_succ']⟩

end Binding

/-- **A binding goes offline.** -/
theorem offline_after_three_failures {b : Binding} (hb : b.consecutiveProbeFailures = 0) {es : List Bool}
    (hes : Along Binding.probed Binding.Unblemished b es) {e : Bool}
      (honline : (run Binding.probed b es).state = .online)
    (hoffline : ((run Binding.probed b es).probed e).state = .offline) : [false, false, false] <:+ es ++ [e] := by
  have hcounted : Binding.Counted es (run Binding.probed b es) :=
    run_invariant_hist (P := Binding.Counted) (fun _ => by rw [hb]; exact List.nil_suffix)
      (fun _ _ he h => h.step he) hes
  generalize run Binding.probed b es = b' at honline hoffline hcounted
  obtain ⟨pre, rfl⟩ := hcounted honline
  cases e with
  | true =>
    obtain ⟨state, failures⟩ := b'
    cases honline
    cases hoffline
  | false =>
    rw [Binding.probed_false] at hoffline
    dsimp only at hoffline
    split_ifs at hoffline with hoff
    · obtain ⟨n, hn⟩ := Nat.exists_eq_add_of_le' (Nat.le_of_succ_le_succ hoff.2)
      exact ⟨pre ++ List.replicate n false, by rw [hn, List.replicate_add]; simp⟩
    rw [honline] at hoffline
    cases hoffline

theorem offline_after_three_failures_run : [false, false, false] <:+ [true, false, false] ++ [false] :=
  @offline_after_three_failures ⟨.online, 0⟩ rfl [true, false, false] ⟨fun _ _ => rfl, nofun, nofun, trivial⟩ false
    rfl rfl

/-- Three failures with successes between them. -/
theorem offline_after_spread_failures :
    ¬ ∀ (b : Binding) (es : List Bool) (e : Bool), b.consecutiveProbeFailures = 0 →
      (run Binding.probed b es).state = .online → ((run Binding.probed b es).probed e).state = .offline →
      [false, false, false] <:+ es ++ [e] := by
  intro h
  have hlast := h ⟨.online, 0⟩ [false, true, false, true] false rfl rfl rfl
  exact absurd (List.suffix_iff_eq_drop.mp hlast) (by decide)

/-! ## The tunnel of this node -/

/-- `relay_self_heal_url`, and whether a binding is active. -/
structure SelfHeal where
  trackedUrl : String
  active : String × String → Option Bool

/-- A start of the tunnel, and the groups whose reconciliation raises. -/
structure TunnelStart where
  url : String
  fails : String → Bool

namespace SelfHeal

/-- `reconcile_relay_url`: the bindings afterwards, group by group. -/
def reconcileRelayUrl (s : SelfHeal) (oldUrl : String) (e : TunnelStart) : String × String → Option Bool :=
  let oldUrl := PyStr.strip oldUrl
  let newUrl := PyStr.strip e.url
  if oldUrl = "" ∨ newUrl = "" ∨ oldUrl = newUrl then s.active
  else fun (g, url) =>
    if s.active (g, oldUrl) ≠ some true ∨ e.fails g then s.active (g, url)
    else if url = newUrl then some true
    else if url = oldUrl then some false
    else s.active (g, url)

def startTunnelAndReconcile (s : SelfHeal) (e : TunnelStart) : SelfHeal where
  trackedUrl := e.url
  active := if e.url ≠ "" ∧ e.url ≠ s.trackedUrl then s.reconcileRelayUrl s.trackedUrl e else s.active

/-- The active bindings with an earlier URL of the tunnel have the one that the next start begins with. -/
def Followed (urls : List String) (s : SelfHeal) : Prop :=
  ∀ g url, s.active (g, url) = some true → url ∈ urls.map PyStr.strip → url ≠ "" → url = PyStr.strip s.trackedUrl

theorem Followed.step {urls : List String} {s : SelfHeal} {e : TunnelStart} (hurl : PyStr.strip e.url ≠ "")
    (hfails : ∀ g, e.fails g = false) (h : Followed urls s) :
    Followed (urls ++ [e.url]) (s.startTunnelAndReconcile e) := by
  intro g url hactive hmem hne
  by_contra hnew
  have hnew : url ≠ PyStr.strip e.url := hnew
  have hmem : url ∈ urls.map PyStr.strip := by simpa [hnew] using hmem
  -- a binding that is left where it was has the tracked URL
  have hkept : s.active (g, url) = some true → url = PyStr.strip s.trackedUrl := fun ha => h g url ha hmem hne
  rw [startTunnelAndReconcile] at hactive
  dsimp only at hactive
  split_ifs at hactive with hstart
  · rw [reconcileRelayUrl] at hactive
    split_ifs at hactive with hearly
    · have hold := hkept hactive
      rcases hearly with hempty | hempty | hsame
      · exact hne (hold.trans hempty)
      · exact hurl hempty
      · exact hnew (hold.trans hsame)
    dsimp only at hactive
    simp only [hfails, Bool.false_eq_true, or_false, if_neg hnew] at hactive
    split at hactive
    case isTrue hinactive => exact hinactive (hkept hactive ▸ hactive)
    case isFalse =>
      split at hactive
      case isTrue => cases hactive
      case isFalse hold => exact hold (hkept hactive)
  · have hold := hkept hactive
    rw [not_and_or, not_ne_iff, not_ne_iff] at hstart
    rcases hstart with hempty | hsame
    · exact hurl (by rw [hempty]; rfl)
    · exact hnew (hsame ▸ hold)

end SelfHeal

/-- **No binding is left behind.** -/
theorem bindings_follow_tunnel (s : SelfHeal) {es : List TunnelStart}
    (hes : ∀ e ∈ es, PyStr.strip e.url ≠ "" ∧ ∀ g, e.fails g = false) :
    (run SelfHeal.startTunnelAndReconcile s es).Followed (s.trackedUrl :: es.map TunnelStart.url) := by
  induction es using List.reverseRecOn with
  | nil =>
    intro g url _ hmem _
    simpa using hmem
  | append_singleton es e ih =>
    rw [run_concat, List.map_append, ← List.cons_append]
    have he := hes e (by simp)
    exact (ih fun e' he' => hes e' (List.mem_append_left _ he')).step he.1 he.2

def exampleSelfHeal : SelfHeal := ⟨"a", fun b => if b = ("g", "a") then some true else none⟩

/-- The tunnel moves twice, and then back to where it was. -/
theorem bindings_follow_tunnel_back :
    (run SelfHeal.startTunnelAndReconcile exampleSelfHeal
      [⟨"b", fun _ => false⟩, ⟨"c", fun _ => false⟩, ⟨"a", fun _ => false⟩]).Followed ["a", "b", "c", "a"] :=
  bindings_follow_tunnel exampleSelfHeal fun e he => by
    simp only [List.mem_cons, List.not_mem_nil, or_false] at he
    rcases he with rfl | rfl | rfl <;> exact ⟨by decide, fun _ => rfl⟩

/-- The tunnel starts without a URL, or the reconciliation of a group fails. -/
theorem binding_left_behind :
    ¬ (run SelfHeal.startTunnelAndReconcile exampleSelfHeal [⟨"", fun _ => false⟩]).Followed ["a", ""] ∧
      ¬ (run SelfHeal.startTunnelAndReconcile exampleSelfHeal [⟨"b", fun _ => true⟩]).Followed ["a", "b"] := by
  constructor
  · intro h
    exact absurd (h "g" "a" rfl (by decide) (by decide)) (by decide)
  intro h
  exact absurd (h "g" "a" rfl (by decide) (by decide)) (by decide)

end NexusGrid.Runtime

import NexusGrid.Lib.Json
import NexusGrid.Lib.PyStr
import NexusGrid.Lib.Table

/-! # Requests to a peer

`peer_http_post` (`networking/peer_http.py`) posts a body to a peer: over TLS, then over plain HTTP, then through
relays.
-/

namespace NexusGrid.Networking

open Lib

structure KnownPeer where
  ip : String
  resolvedIp : Option String
  certFingerprint : Option String
  paused : Bool
deriving DecidableEq

/-- The peers, `_UUID_TO_IP` and `_fingerprint_cache`, with times in milliseconds. -/
structure HttpClient where
  peers : List KnownPeer
  uuidToIp : Table String String
  fingerprintCache : Table (String × Int) (String × Nat)

structure Answer where
  status : Nat
  body : Json
  /-- The field `paused` of the answer that the node gives itself. -/
  paused : Bool := false

structure Network where
  /-- `time.time()`. -/
  now : Nat
  /-- The database answers the lookups of `paused` and of the fingerprint. -/
  pausedLookup : Bool
  pinLookup : Bool
  /-- The certificate that the probe sees; `none` when it fails. -/
  probe : Option String
  /-- The certificate of the server, and its answer. -/
  https : Option (String × Option Answer)
  /-- The same over plain HTTP. -/
  http : Option (Option Answer)
  relay : Option Answer
  transient : List (Option Answer)

inductive Delivery
  | tls (certificate : String)
  | plain
deriving DecidableEq

structure HttpOutcome where
  client : HttpClient
  deliveries : List Delivery
  answer : Answer

namespace HttpClient

variable (c : HttpClient) (net : Network)

/-- The one row of the target; `none` too when there are several. -/
def rowOf (target : String) : Option KnownPeer :=
  match c.peers.filter fun r => r.ip = target || r.resolvedIp = some target with
  | [r] => some r
  | _ => none

def isPeerPaused (target : String) : Bool := target ≠ "" && net.pausedLookup && (c.rowOf target).any KnownPeer.paused

def lookupExpectedFingerprint (target : String) : Option String :=
  if net.pinLookup then
    match (c.rowOf target).bind KnownPeer.certFingerprint with
    | none => none
    | some fp => if PyStr.lower (PyStr.strip fp) = "" then none else some (PyStr.lower (PyStr.strip fp))
  else none

def resolveUuidToIp (peerUuid : String) : String := (c.uuidToIp.get peerUuid).getD peerUuid

/-- `_split_host_port`; `toInt` is Python's `int` of a text. -/
def splitHostPort (toInt : String → Option Int) (target : String) (defaultPort : Int) : String × Int :=
  if ':' ∈ target.toList ∧ PyStr.startsWith target "[" = false then
    let parts := PyStr.split ':' target
    match toInt (parts.getLastD "") with
    | some port => (":".intercalate parts.dropLast, port)
    | none => (target, defaultPort)
  else (target, defaultPort)

def fpCacheTtl : Nat := 60000

def fetchCachedFingerprint (hostPort : String × Int) : HttpClient × Option String :=
  let fresh := match c.fingerprintCache.get hostPort with
    | some (fp, expiry) => if net.now < expiry then some fp else none
    | none => none
  match fresh with
  | some fp => (c, some fp)
  | none =>
    match net.probe with
    | none => (c, none)
    | some fp => ({ c with fingerprintCache := c.fingerprintCache.put hostPort (fp, net.now + fpCacheTtl) }, some fp)

end HttpClient

/-- The pool, then the peer's own relays; 503 and 504 mean not reached. -/
def Network.relayed (net : Network) : Answer :=
  let reached (a : Answer) : Bool := a.status ≠ 503 && a.status ≠ 504
  match net.relay.filter reached with
  | some a => a
  | none =>
    match net.transient.findSome? fun a => a.filter reached with
    | some a => a
    | none => net.relay.getD
        ⟨503, .obj [("error", .str "Peer unreachable (direct + pool + transient all failed)")], false⟩

/-- Over TLS and over plain HTTP, with the copies that were delivered. -/
def Network.direct (net : Network) : List Delivery × Option Answer :=
  let sent := match net.https with
    | some (certificate, _) => [.tls certificate]
    | none => []
  match net.https.bind Prod.snd with
  | some a => (sent, some a)
  | none =>
    -- an answer that does not come or is no JSON is an exception like any other
    match net.http with
    | some answer => (sent ++ [.plain], answer)
    | none => (sent, none)

def peerHttpPost (toInt : String → Option Int) (c : HttpClient) (net : Network) (targetIp : String) (skipPin : Bool) :
    HttpOutcome :=
  if c.isPeerPaused net targetIp then
    ⟨c, [], ⟨503, .obj [("error", .str "Peer paused locally")], true⟩⟩
  else
    let expected := if skipPin then none else c.lookupExpectedFingerprint net targetIp
    let hostPort := HttpClient.splitHostPort toInt (c.resolveUuidToIp targetIp) 8000
    let (c, served) := match expected with
      | some _ => c.fetchCachedFingerprint net hostPort
      | none => (c, none)
    match expected, served with
    | some expectedFp, some servedFp =>
      if servedFp ≠ "" ∧ servedFp ≠ expectedFp then
        ⟨c, [], ⟨495, .obj [("error", .str "Peer certificate fingerprint mismatch")], false⟩⟩
      else ⟨c, net.direct.1, net.direct.2.getD net.relayed⟩
    | _, _ => ⟨c, net.direct.1, net.direct.2.getD net.relayed⟩

def OnlyTo (certificate : String) (deliveries : List Delivery) : Prop := ∀ d ∈ deliveries, d = .tls certificate

def Mismatch (toInt : String → Option Int) (c : HttpClient) (net : Network) (targetIp : String) : Prop :=
  ∃ expected served, c.lookupExpectedFingerprint net targetIp = some expected ∧
    (c.fetchCachedFingerprint net (HttpClient.splitHostPort toInt (c.resolveUuidToIp targetIp) 8000)).2 = some served ∧
    served ≠ "" ∧ served ≠ expected

theorem onlyTo_direct_iff (net : Network) (certificate : String) : OnlyTo certificate net.direct.1 ↔
      (∀ other answer, net.https = some (other, answer) → other = certificate) ∧
        ((net.https.bind Prod.snd).isSome = true ∨ net.http = none) := by
  unfold OnlyTo Network.direct
  rcases net.https with - | ⟨other, - | answer⟩
  · rcases net.http with - | answer <;> simp
  · rcases net.http with - | answer <;> simp
  · simp

theorem peerHttpPost_cases (toInt : String → Option Int) (c : HttpClient) (net : Network) (targetIp : String) :
    ((c.isPeerPaused net targetIp = true ∨ Mismatch toInt c net targetIp) ∧
      (peerHttpPost toInt c net targetIp false).deliveries = []) ∨
    ((c.isPeerPaused net targetIp = false ∧ ¬ Mismatch toInt c net targetIp) ∧
      (peerHttpPost toInt c net targetIp false).deliveries = net.direct.1) := by
  unfold peerHttpPost Mismatch
  by_cases hpaused : c.isPeerPaused net targetIp = true
  · exact .inl ⟨.inl hpaused, by rw [if_pos hpaused]⟩
  have hrunning : c.isPeerPaused net targetIp = false := by simpa using hpaused
  cases hexpected : c.lookupExpectedFingerprint net targetIp with
  | none => simp [hrunning]
  | some expected =>
    cases hserved : (c.fetchCachedFingerprint net
        (HttpClient.splitHostPort toInt (c.resolveUuidToIp targetIp) 8000)).2 with
    | none => simp [hrunning, hserved]
    | some served =>
      by_cases hother : served ≠ "" ∧ served ≠ expected
      · simp [hrunning, hserved, hother]
      · simp [hrunning, hserved, hother]

/-- **When the pin holds.** -/
theorem pinned_iff (toInt : String → Option Int) (c : HttpClient) (net : Network) (targetIp certificate : String) :
    OnlyTo certificate (peerHttpPost toInt c net targetIp false).deliveries ↔
      (c.isPeerPaused net targetIp = true ∨ Mismatch toInt c net targetIp) ∨
      ((∀ other answer, net.https = some (other, answer) → other = certificate) ∧
        ((net.https.bind Prod.snd).isSome = true ∨ net.http = none)) := by
  rcases peerHttpPost_cases toInt c net targetIp with ⟨hrefused, hnone⟩ | ⟨⟨hrunning, hmatch⟩, hdirect⟩
  · rw [hnone]
    exact iff_of_true (fun d hd => nomatch hd) (.inl hrefused)
  rw [hdirect, onlyTo_direct_iff]
  have hmade : ¬ (c.isPeerPaused net targetIp = true ∨ Mismatch toInt c net targetIp) := by
    rintro (hpaused | hmismatch)
    · rw [hrunning] at hpaused
      cases hpaused
    · exact hmatch hmismatch
  exact (or_iff_right hmade).symm

/-- The peer at `10.0.0.2` has the stored fingerprint `aa`. -/
def examplePinned : HttpClient where
  peers := [⟨"10.0.0.2", none, some "AA", false⟩]
  uuidToIp := ∅
  fingerprintCache := ∅

def exampleNetwork (probe : Option String) (https : Option (String × Option Answer)) (http : Option (Option Answer)) :
    Network where
  now := 0
  pausedLookup := true
  pinLookup := true
  probe := probe
  https := https
  http := http
  relay := none
  transient := []

/-- **Delivered elsewhere.** -/
theorem delivered_elsewhere :
    let ok : Answer := ⟨200, .obj [], false⟩
    let post := fun net => (peerHttpPost String.toInt? examplePinned net "10.0.0.2" false).deliveries
    examplePinned.lookupExpectedFingerprint (exampleNetwork none none none) "10.0.0.2" = some "aa" ∧
      post (exampleNetwork none none (some (some ok))) = [.plain] ∧
      post (exampleNetwork (some "aa") (some ("bb", some ok)) none) = [.tls "bb"] ∧
      post (exampleNetwork (some "aa") (some ("aa", none)) (some (some ok))) = [.tls "aa", .plain] := by
  decide +kernel

end NexusGrid.Networking

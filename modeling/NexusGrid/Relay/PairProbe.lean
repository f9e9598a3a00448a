import NexusGrid.Lib.ClaimTable
import NexusGrid.Lib.Run
import NexusGrid.Security.PairInvite

/-! # Pair-invite probes at the relay

Whoever holds a pair invite connects to `/relay/pair_invite/{issuer_node_id}` and sends a `pair_invite_probe`.
-/

namespace NexusGrid.Relay

open Lib Lib.ClaimTable

/-! ## Checking a probe -/

/-- What the handler calls. -/
structure Primitives (ι τ : Type) extends Security.InviteReader where
  /-- `datetime.fromisoformat(text).timestamp()`; `none` when it raises. -/
  timestamp : String → Option τ
  /-- Equal values are one key, arrays and objects are none. -/
  dictKey : Json → Option ι

structure Settings where
  maxNodeIdLen : Nat := 128
  allowedOrigins : List String := []
  pairRedemptionCacheMax : Nat := 10000

def validateNodeId (cfg : Settings) (nodeId : String) : Bool :=
  if nodeId = "" ∨ cfg.maxNodeIdLen < nodeId.length then false
  else nodeId.length ≤ 128 && nodeId.toList.all fun c => c.isAlphanum || c = '_' || c = '.' || c = ':' || c = '-'

def originAllowed (cfg : Settings) (origin : Option String) : Bool :=
  cfg.allowedOrigins.isEmpty || (origin.getD "").isEmpty || cfg.allowedOrigins.contains (origin.getD "")

section Handler

variable {ι τ : Type} [DecidableEq ι] [LinearOrder τ] (p : Primitives ι τ) {cap : Nat}

/-- What `_verify_pair_invite` reads of an invite. -/
structure Envelope where
  payload : Json
  sigHex : Json
  issuerPubkey : String
  expiresAt : String
  inviteId : String

/-- The reading; `none` when a field is missing or the text is no JSON object. -/
def readEnvelope (inv : String) : Option Envelope := do
  let envelope ← p.loads inv
  let payload ← envelope.item "payload"
  let sigHex ← envelope.item "signature"
  let issuerPubkey ← payload.item "issuer_pubkey"
  let expiresAt ← payload.item "expires_at"
  let inviteId ← payload.item "invite_id"
  return ⟨payload, sigHex, issuerPubkey.text p.repr, expiresAt.text p.repr, inviteId.text p.repr⟩

/-- `text.replace("Z", "+00:00")`. -/
def zuluOffset (text : String) : String :=
  String.ofList (text.toList.flatMap fun c => if c = 'Z' then "+00:00".toList else [c])

def signatureOk (e : Envelope) : Except Unit Bool :=
  Security.signatureOk p.toInviteReader e.issuerPubkey e.sigHex e.payload

/-- `_verify_pair_invite`: the payload; an error when an exception leaves the function. -/
def verifyPairInvite (inv : String) (now : τ) : Except Unit (Option Json) :=
  match readEnvelope p inv with
  | none => .ok none
  | some e =>
    if e.issuerPubkey.length ≠ 64 then .ok none
    else
      match e.sigHex.len with
      | none => .error ()
      | some n =>
        if n ≠ 128 ∨ e.inviteId = "" then .ok none
        else
          match signatureOk p e with
          | .error () => .error ()
          | .ok false => .ok none
          | .ok true =>
            match p.timestamp (zuluOffset e.expiresAt) with
            | none => .ok none
            | some expires => if expires ≤ now then .ok none else .ok (some e.payload)

/-- How a probe ends. -/
inductive ProbeEnd
  | rejected (reason : String) (code : Nat)
  | closed (code : Nat) (reason : String)
  | raised
  | forwarded (frame : List (String × Json))

/-- `_pair_redemptions`: the invite ids, with the issuer's key. -/
abbrev Redemptions (ι τ : Type) (cap : Nat) : Type := ClaimTable ι Json τ cap

/-- The frame of a probe, if it is read, and the time of the check. -/
structure Probe (τ : Type) where
  raw : Option Json
  now : τ

/-- The frame, the payload of its invite and the claim it makes. -/
structure Checked (ι τ : Type) where
  frame : List (String × Json)
  payload : Json
  claim : Claim ι Json τ

/-- The checks of `pair_invite_probe_ws` up to the claim. -/
def checkProbe (e : Probe τ) : Except ProbeEnd (Checked ι τ) :=
  match e.raw with
  | none => .error (.rejected "expected pair_invite_probe" 4001)
  | some (.obj probe) =>
    if (Json.get probe "type").isText "pair_invite_probe" then
      let inv := Json.textDefault p.repr probe "inv"
      if inv = "" then .error (.rejected "missing inv" 4003)
      else
        match verifyPairInvite p inv e.now with
        | .error () => .error .raised
        | .ok none => .error (.rejected "invalid or expired invite" 4003)
        | .ok (some payload) =>
          match (payload.item "invite_id").bind p.dictKey, payload.item "issuer_pubkey" with
          | some id, some issuer => .ok ⟨probe, payload, ⟨id, issuer, e.now⟩⟩
          | _, _ => .error .raised
    else .error (.rejected "unexpected message type" 4003)
  | some _ => .error .raised

/-- A probe up to and including `_claim_invite`. -/
def admitProbe (t : Redemptions ι τ cap) (e : Probe τ) : Redemptions ι τ cap × Except ProbeEnd (Checked ι τ) :=
  match checkProbe p e with
  | .error r => (t, .error r)
  | .ok c =>
    match t.claim c.claim with
    | none => (t, .error (.rejected "invite already redeemed" 4003))
    | some t' => (t', .ok c)

def forwardedFrame (transientId : String) (c : Checked ι τ) : List (String × Json) :=
  let urls := Json.get c.frame "bob_relay_urls"
  [("type", .str "pair_invite_probe"), ("transient_id", .str transientId), ("inv_payload", c.payload),
    ("bob_pubkey", .str (Json.textDefault p.repr c.frame "bob_pubkey")),
    ("bob_relay_urls", if urls.truthy then urls else .arr []),
    ("bob_display_name", .str (Json.textDefault p.repr c.frame "bob_display_name")),
    ("request_id", .str (Json.textDefault p.repr c.frame "request_id"))]

/-- What the relay finds when it forwards. -/
structure Forwarding where
  registered : Bool
  transientId : String
  delivered : Bool

/-- `pair_invite_probe_ws` until the frame is forwarded. -/
def pairInviteProbe (cfg : Settings) (t : Redemptions ι τ cfg.pairRedemptionCacheMax)
    (issuerNodeId : String) (origin : Option String) (e : Probe τ) (d : Forwarding) :
    Redemptions ι τ cfg.pairRedemptionCacheMax × ProbeEnd :=
  if ¬ validateNodeId cfg issuerNodeId then (t, .closed 1008 "invalid node id")
  else if ¬ originAllowed cfg origin then (t, .closed 1008 "origin not allowed")
  else
    match admitProbe p t e with
    | (t', .error r) => (t', r)
    | (t', .ok c) =>
      if ¬ d.registered then (t', .rejected "issuer offline" 4004)
      else if ¬ d.delivered then (t', .rejected "could not deliver to issuer" 4005)
      else (t', .forwarded (forwardedFrame p d.transientId c))

/-! ## Redeeming an invite -/

structure Redeeming (ι τ : Type) (cap : Nat) where
  redemptions : Redemptions ι τ cap
  claimed : List (Claim ι Json τ)

def Redeeming.step (s : Redeeming ι τ cap) (e : Probe τ) : Redeeming ι τ cap :=
  match admitProbe p s.redemptions e with
  | (t, .ok c) => ⟨t, s.claimed ++ [c.claim]⟩
  | (t, .error _) => ⟨t, s.claimed⟩

/-- The probes `es` on a relay that has just started. -/
def redeem (cap : Nat) (es : List (Probe τ)) : Redeeming ι τ cap := run (Redeeming.step p) ⟨.empty, []⟩ es

variable (cap) in
/-- The claims granted to the probes `es`. -/
def claimed (es : List (Probe τ)) : List (Claim ι Json τ) := (redeem p cap es).claimed

def Probe.request (e : Probe τ) : Option (Claim ι Json τ) := (checkProbe p e).toOption.map Checked.claim

/-- The invite that is claimed: the issuer's key and the `invite_id`. -/
def inviteOf (c : Claim ι Json τ) : Option (List UInt8) × ι := (p.publicKey (c.owner.text p.repr), c.key)

theorem step_eq (s : Redeeming ι τ cap) (e : Probe τ) : s.step p e = match e.request p with
      | none => s
      | some c => match s.redemptions.claim c with
        | some t => ⟨t, s.claimed ++ [c]⟩
        | none => s := by
  rw [Redeeming.step, admitProbe, Probe.request]
  cases checkProbe p e with
  | error r => rfl
  | ok c =>
    cases hclaim : s.redemptions.claim c.claim with
    | none => simp [Except.toOption, hclaim]
    | some t => simp [Except.toOption, hclaim]

theorem redeem_eq (es : List (Probe τ)) : redeem p cap es = ⟨(claimAll (es.filterMap (Probe.request p))).1,
      (claimAll (es.filterMap (Probe.request p)) : Redemptions ι τ cap × _).2⟩ := by
  induction es using List.reverseRecOn with
  | nil => rfl
  | append_singleton es e ih =>
    have hstep : redeem p cap (es ++ [e]) = (redeem p cap es).step p e := run_concat _ _ es e
    rw [hstep, step_eq, ih, List.filterMap_append]
    cases hreq : e.request p with
    | none => simp [hreq]
    | some c =>
      have hlast : [e].filterMap (Probe.request p) = [c] := by simp [hreq]
      rw [hlast, claimAll_concat]
      dsimp only
      split
      next t ht => simp [ht, granted]
      next hnone => simp [hnone]

omit [DecidableEq ι] in
theorem verifyPairInvite_eq_some {inv : String} {now : τ} {payload : Json} :
    verifyPairInvite p inv now = .ok (some payload) ↔
      ∃ e t, readEnvelope p inv = some e ∧ e.payload = payload ∧ e.issuerPubkey.length = 64 ∧
        e.sigHex.len = some 128 ∧ e.inviteId ≠ "" ∧ signatureOk p e = .ok true ∧
        p.timestamp (zuluOffset e.expiresAt) = some t ∧ now < t := by
  rw [verifyPairInvite]
  constructor
  · intro h
    split at h
    · simp at h
    next e he =>
      split_ifs at h with hkey
      · simp at h
      split at h
      · cases h
      next n hn =>
        split_ifs at h with hlen
        · simp at h
        rw [not_or, not_ne_iff] at hlen
        split at h
        · cases h
        · simp at h
        next hsig =>
          split at h
          · simp at h
          next t ht =>
            split_ifs at h with hexp
            · simp at h
            exact ⟨e, t, he, Option.some.inj (Except.ok.inj h), not_ne_iff.mp hkey, by rw [hn, hlen.1],
              hlen.2, hsig, ht, not_le.mp hexp⟩
  · rintro ⟨e, t, he, rfl, hkey, hlen, hid, hsig, ht, hexp⟩
    simp [he, hkey, hlen, hid, hsig, ht, hexp]

variable {e : Probe τ} {c : Claim ι Json τ} {es : List (Probe τ)}

omit [DecidableEq ι] in
theorem checkProbe_eq_ok {k : Checked ι τ} : checkProbe p e = .ok k ↔
      e.raw = some (.obj k.frame) ∧ (Json.get k.frame "type").isText "pair_invite_probe" ∧
      Json.textDefault p.repr k.frame "inv" ≠ "" ∧
      verifyPairInvite p (Json.textDefault p.repr k.frame "inv") e.now = .ok (some k.payload) ∧
      (k.payload.item "invite_id").bind p.dictKey = some k.claim.key ∧
      k.payload.item "issuer_pubkey" = some k.claim.owner ∧ k.claim.time = e.now := by
  rw [checkProbe]
  constructor
  · intro h
    split at h
    · cases h
    next probe hraw =>
      dsimp only at h
      split_ifs at h with htype hinv
      split at h
      · cases h
      · cases h
      next payload hverify =>
        split at h
        next id issuer hid hissuer =>
          cases h
          exact ⟨hraw, htype, hinv, hverify, hid, hissuer, rfl⟩
        · cases h
    · cases h
  · obtain ⟨frame, payload, id, issuer, time⟩ := k
    rintro ⟨hraw, htype, hinv, hverify, hid, hissuer, htime⟩
    subst htime
    simp [hraw, htype, hinv, hverify, hid, hissuer]

omit [DecidableEq ι] in
theorem request_eq_some (h : e.request p = some c) : ∃ k, checkProbe p e = .ok k ∧ k.claim = c := by
  rw [Probe.request] at h
  cases hk : checkProbe p e with
  | error r => rw [hk] at h; cases h
  | ok k => rw [hk] at h; exact ⟨k, rfl, Option.some.inj h⟩

omit [DecidableEq ι] in
theorem time_of_request (h : e.request p = some c) : c.time = e.now := by
  obtain ⟨k, hk, rfl⟩ := request_eq_some p h
  exact ((checkProbe_eq_ok p).mp hk).2.2.2.2.2.2

omit [DecidableEq ι] in
theorem clock_requests (h : (es.map Probe.now).Pairwise (· ≤ ·)) :
    (es.filterMap (Probe.request p)).Pairwise fun a b => a.time ≤ b.time := by
  rw [List.pairwise_filterMap]
  refine (List.pairwise_map.mp h).imp ?_
  intro e e' hle c hc c' hc'
  rw [time_of_request p hc, time_of_request p hc']
  exact hle

@[simp] theorem claimed_nil : claimed p cap [] = [] := rfl

section

variable (h : (es.map Probe.now).Pairwise (· ≤ ·))
include h

/-- **When a probe is claimed**: its invite is valid and none of the last `cap` claims granted has its id. -/
theorem claimed_concat (e : Probe τ) : claimed p cap (es ++ [e]) = claimed p cap es ++
      (e.request p).toList.filter fun c => c.key ∉ recentKeys cap (claimed p cap es) := by
  have hlog : ∀ fs, claimed p cap fs = granted cap (fs.filterMap (Probe.request p)) :=
    fun fs => congrArg Redeeming.claimed (redeem_eq p fs)
  rw [hlog, hlog, List.filterMap_append]
  cases hreq : e.request p with
  | none => simp [hreq]
  | some c =>
    have hlast : [e].filterMap (Probe.request p) = [c] := by simp [hreq]
    rw [hlast, granted_concat (clock_requests p h)]
    by_cases hkey : c.key ∈ recentKeys cap (granted cap (es.filterMap (Probe.request p)))
    · rw [if_pos hkey]
      simp [hkey]
    rw [if_neg hkey]
    simp [hkey]

/-- The relay has forgotten the claim: `cap` others were granted since. -/
def Forgotten (cap : Nat) (log : List (Claim ι Json τ)) (c : Claim ι Json τ) : Prop :=
  inviteOf p c ∈ log.map (inviteOf p) ∧ c.key ∉ recentKeys cap log

/-- The invite was never claimed, and its id is taken by the claim of another issuer. -/
def Blocked (cap : Nat) (log : List (Claim ι Json τ)) (c : Claim ι Json τ) : Prop :=
  inviteOf p c ∉ log.map (inviteOf p) ∧ c.key ∈ recentKeys cap log

/-- When the claim of a valid probe is granted. -/
theorem claimed_concat_once (hreq : e.request p = some c) (hf : ¬ Forgotten p cap (claimed p cap es) c)
    (hb : ¬ Blocked p cap (claimed p cap es) c) :
    claimed p cap (es ++ [e]) = if inviteOf p c ∈ (claimed p cap es).map (inviteOf p)
      then claimed p cap es else claimed p cap es ++ [c] := by
  rw [claimed_concat p h, hreq]
  split
  next hmem =>
    have hkey : c.key ∈ recentKeys cap (claimed p cap es) := by
      by_contra hkey
      exact hf ⟨hmem, hkey⟩
    simp [hkey]
  next hmem =>
    have hkey : c.key ∉ recentKeys cap (claimed p cap es) := fun hkey => hb ⟨hmem, hkey⟩
    simp [hkey]

omit h in
theorem clock_of_append {fs : List (Probe τ)} (h : ((es ++ fs).map Probe.now).Pairwise (· ≤ ·)) :
    (es.map Probe.now).Pairwise (· ≤ ·) := by
  rw [List.map_append] at h
  exact (List.pairwise_append.mp h).1

theorem claimed_prefix {pre : List (Probe τ)} (hpre : pre <+: es) : claimed p cap pre <+: claimed p cap es := by
  induction es using List.reverseRecOn with
  | nil => rw [List.prefix_nil.mp hpre]
  | append_singleton es e ih =>
    rcases List.prefix_concat_iff.mp hpre with rfl | hpre'
    · exact List.prefix_refl _
    rw [claimed_concat p (clock_of_append h)]
    exact (ih (clock_of_append h) hpre').trans (List.prefix_append _ _)

theorem claimed_nodup (hcond : ∀ pre e post c, es = pre ++ e :: post → e.request p = some c →
      ¬ Forgotten p cap (claimed p cap pre) c ∧ ¬ Blocked p cap (claimed p cap pre) c) :
    ((claimed p cap es).map (inviteOf p)).Nodup := by
  -- by induction over the probes handled so far
  induction es using List.reverseRecOn with
  | nil => exact List.nodup_nil
  | append_singleton es e ih =>
    have hclock := clock_of_append h
    have hnodup : ((claimed p cap es).map (inviteOf p)).Nodup := by
      refine ih hclock fun pre e' post c hes hreq => hcond pre e' (post ++ [e]) c ?_ hreq
      simp [hes]
    cases hreq : e.request p with
    | none =>
      rw [claimed_concat p hclock, hreq]
      simpa using hnodup
    | some c =>
      have hc := hcond es e [] c rfl hreq
      rw [claimed_concat_once p hclock hreq hc.1 hc.2]
      split
      · exact hnodup
      next hmem =>
        rw [List.map_append, List.nodup_append']
        exact ⟨hnodup, by simp, by simpa using hmem⟩

end

/-- **Single use at the relay.** -/
theorem claimed_once_iff (hclock : (es.map Probe.now).Pairwise (· ≤ ·)) :
    (((claimed p cap es).map (inviteOf p)).Nodup ∧ ∀ pre e post c, es = pre ++ e :: post → e.request p = some c →
        inviteOf p c ∉ (claimed p cap pre).map (inviteOf p) → claimed p cap (pre ++ [e]) = claimed p cap pre ++ [c]) ↔
    ∀ pre e post c, es = pre ++ e :: post → e.request p = some c →
      ¬ Forgotten p cap (claimed p cap pre) c ∧ ¬ Blocked p cap (claimed p cap pre) c := by
  have hpre : ∀ {pre e post}, es = pre ++ e :: post → (pre.map Probe.now).Pairwise (· ≤ ·) := by
    rintro pre e post rfl
    exact clock_of_append hclock
  constructor
  · rintro ⟨honce, hfirst⟩ pre e post c hes hreq
    have hnext : claimed p cap (pre ++ [e]) = _ := claimed_concat p (hpre hes) e
    rw [hreq] at hnext
    refine ⟨?_, ?_⟩
    · -- a forgotten invite is claimed again
      rintro ⟨hmem, hkey⟩
      have hagain : claimed p cap (pre ++ [e]) = claimed p cap pre ++ [c] := by simpa [hkey] using hnext
      have hsub : claimed p cap (pre ++ [e]) <+: claimed p cap es := claimed_prefix p hclock ⟨post, by simp [hes]⟩
      rw [hagain] at hsub
      have hnodup := honce.sublist (hsub.sublist.map (inviteOf p))
      rw [List.map_append, List.nodup_append'] at hnodup
      exact hnodup.2.2 hmem (by simp)
    -- a blocked invite is refused
    rintro ⟨hmem, hkey⟩
    have hrefused : claimed p cap (pre ++ [e]) = claimed p cap pre := by simpa [hkey] using hnext
    have hgranted := hfirst pre e post c hes hreq hmem
    rw [hrefused] at hgranted
    simpa using congrArg List.length hgranted
  · intro hcond
    refine ⟨claimed_nodup p hclock hcond, fun pre e post c hes hreq hmem => ?_⟩
    have hc := hcond pre e post c hes hreq
    rw [claimed_concat_once p (hpre hes) hreq hc.1 hc.2, if_neg hmem]

end Handler

/-! ## A probe that is forwarded -/

/-- A text of `n` characters. -/
def exampleHex (n : Nat) (c : Char) : String := String.ofList (List.replicate n c)

theorem length_exampleHex (n : Nat) (c : Char) : (exampleHex n c).length = n := by
  simp [exampleHex]

def exampleInvite (c : Char) : Json :=
  .obj [("payload", .obj [("invite_id", .str "i"), ("issuer_pubkey", .str (exampleHex 64 c)),
      ("expires_at", .str "2100-01-01T00:00:00Z")]),
    ("signature", .str (exampleHex 128 '0'))]

def examplePrimitives : Primitives String Nat where
  loads text := if text = "a" then some (exampleInvite 'a')
    else if text = "b" then some (exampleInvite 'b') else none
  repr _ := ""
  fromHex _ := some []
  publicKey text := some (text.toList.map fun c => UInt8.ofNat c.toNat)
  verify _ _ _ := true
  timestamp _ := some 4102444800
  dictKey
    | .str s => some s
    | _ => none

def exampleProbe (inv : String) (now : Nat) : Probe Nat :=
  ⟨some (.obj [("type", .str "pair_invite_probe"), ("inv", .str inv)]), now⟩

def exampleClaim (c : Char) (now : Nat) : Claim String Json Nat := ⟨"i", .str (exampleHex 64 c), now⟩

theorem exampleProbe_request {inv : String} {c : Char}
    (hread : examplePrimitives.loads inv = some (exampleInvite c)) (hinv : inv ≠ "") {now : Nat}
    (hnow : now < 4102444800) : (exampleProbe inv now).request examplePrimitives = some (exampleClaim c now) := by
  obtain ⟨payload, hpayload⟩ : ∃ payload, (exampleInvite c).item "payload" = some payload := ⟨_, rfl⟩
  have henv : readEnvelope examplePrimitives inv =
      some ⟨payload, .str (exampleHex 128 '0'), exampleHex 64 c, "2100-01-01T00:00:00Z", "i"⟩ := by
    cases hpayload
    simp only [readEnvelope, hread]
    rfl
  have hverify : verifyPairInvite examplePrimitives inv now = .ok (some payload) :=
    (verifyPairInvite_eq_some examplePrimitives).mpr ⟨_, 4102444800, henv, rfl, length_exampleHex 64 c,
      congrArg some (length_exampleHex 128 '0'), by simp, rfl, rfl, hnow⟩
  have hcheck : checkProbe examplePrimitives (exampleProbe inv now) =
      .ok ⟨[("type", .str "pair_invite_probe"), ("inv", .str inv)], payload, exampleClaim c now⟩ := by
    refine (checkProbe_eq_ok examplePrimitives).mpr ⟨rfl, rfl, hinv, hverify, ?_, ?_, rfl⟩
    · cases hpayload
      rfl
    cases hpayload
    rfl
  rw [Probe.request, hcheck]
  rfl

theorem claimed_first {inv : String} {c : Char} {now : Nat}
    (hreq : (exampleProbe inv now).request examplePrimitives = some (exampleClaim c now)) :
    claimed examplePrimitives 10000 [exampleProbe inv now] = [exampleClaim c now] := by
  have hnext : claimed examplePrimitives 10000 ([] ++ [exampleProbe inv now]) = _ :=
    claimed_concat examplePrimitives (by simp) (exampleProbe inv now)
  rw [List.nil_append, claimed_nil, hreq] at hnext
  simpa [recentKeys] using hnext

/-- An invite that is presented twice is claimed once. -/
theorem claimed_once_iff_repeated :
    ((claimed examplePrimitives 10000 [exampleProbe "a" 5, exampleProbe "a" 6]).map
      (inviteOf examplePrimitives)).Nodup := by
  have hfirst : (exampleProbe "a" 5).request examplePrimitives = some (exampleClaim 'a' 5) :=
    exampleProbe_request (by simp [examplePrimitives]) (by simp) (by omega)
  have hsecond : (exampleProbe "a" 6).request examplePrimitives = some (exampleClaim 'a' 6) :=
    exampleProbe_request (by simp [examplePrimitives]) (by simp) (by omega)
  refine ((claimed_once_iff examplePrimitives (by decide)).mpr fun pre e post c hes hreq => ?_).1
  rcases pre with _ | ⟨x, _ | ⟨y, pre⟩⟩
  · exact ⟨by simp [Forgotten], by simp [Blocked, recentKeys]⟩
  · cases hes
    rw [hsecond] at hreq
    cases hreq
    rw [claimed_first hfirst]
    exact ⟨fun h => h.2 (by simp [recentKeys, exampleClaim, List.rtake]),
      fun h => h.1 (by simp [inviteOf, exampleClaim])⟩
  · simp at hes

/-- An invite of `b` with the id of the one of `a` comes first. -/
theorem first_claim_refused : ¬ ∀ es : List (Probe Nat), (es.map Probe.now).Pairwise (· ≤ ·) →
      ((claimed examplePrimitives 10000 es).map (inviteOf examplePrimitives)).Nodup ∧
      ∀ pre e post c, es = pre ++ e :: post → e.request examplePrimitives = some c →
        inviteOf examplePrimitives c ∉ (claimed examplePrimitives 10000 pre).map (inviteOf examplePrimitives) →
        claimed examplePrimitives 10000 (pre ++ [e]) = claimed examplePrimitives 10000 pre ++ [c] := by
  intro h
  have hb : (exampleProbe "b" 5).request examplePrimitives = some (exampleClaim 'b' 5) :=
    exampleProbe_request (by simp [examplePrimitives]) (by simp) (by omega)
  have ha : (exampleProbe "a" 6).request examplePrimitives = some (exampleClaim 'a' 6) :=
    exampleProbe_request (by simp [examplePrimitives]) (by simp) (by omega)
  have hone := claimed_first hb
  have htwo : claimed examplePrimitives 10000 ([exampleProbe "b" 5] ++ [exampleProbe "a" 6]) =
      [exampleClaim 'b' 5] := by
    rw [claimed_concat examplePrimitives (by simp), hone, ha]
    simp [recentKeys, exampleClaim, List.rtake]
  have hnew : inviteOf examplePrimitives (exampleClaim 'a' 6) ≠ inviteOf examplePrimitives (exampleClaim 'b' 5) := by
    have hkey : ∀ c now, (inviteOf examplePrimitives (exampleClaim c now)).1 =
        some (List.replicate 64 (UInt8.ofNat c.toNat)) := by
      intro c now
      simp only [inviteOf, exampleClaim, examplePrimitives, Json.text, exampleHex, String.toList_ofList,
        List.map_replicate]
    intro heq
    have hkeys := congrArg Prod.fst heq
    rw [hkey, hkey, Option.some_inj, List.replicate_right_inj (by decide)] at hkeys
    cases hkeys
  obtain ⟨-, hfirst⟩ := h [exampleProbe "b" 5, exampleProbe "a" 6] (by decide)
  have hgranted := hfirst [exampleProbe "b" 5] (exampleProbe "a" 6) [] _ rfl ha (by simpa [hone] using hnew)
  rw [htwo, hone] at hgranted
  simpa using congrArg List.length hgranted

end NexusGrid.Relay

import NexusGrid.Pairing.PermanentLink

/-! # The two verifiers of a pair invite

The relay checks an invite before it forwards a probe, and the issuer's node checks it again. Both read
the same envelope and check the key and the signature; `Signed` is that common part, and the rest of each
verdict is what `Aligned` compares.
-/

namespace NexusGrid.Pairing

open Lib Security

variable {ι τ : Type} (p : LinkPrimitives ι τ)

/-- Without an expected issuer; `clock` is `now` as `iso_now` writes it. -/
def NodeAccepts (blob clock : String) (inv : Security.PairInvite) : Prop :=
  verifyPairInvite p.toInvitePrimitives blob "" clock = .ok (some inv)

variable {p} {blob clock : String}

theorem readPairInvite_eq_some {payload sigHex : Json} {inv : Security.PairInvite} :
    readPairInvite p.toInvitePrimitives blob = some (payload, sigHex, inv) ↔
      ∃ e issuedAt n, Relay.readEnvelope p.toRelay blob = some e ∧ e.payload = payload ∧ e.sigHex = sigHex ∧
        payload.item "issued_at" = some issuedAt ∧ (payload.item "max_uses").bind (intOf p.toInvitePrimitives) =
          some n ∧
        inv = ⟨e.inviteId, e.issuerPubkey, issuedAt.text p.repr, e.expiresAt, n⟩ := by
  simp only [readPairInvite, Relay.readEnvelope, Option.bind_eq_bind, Option.bind_eq_some_iff, Option.pure_def,
    Option.some.injEq, Prod.mk.injEq]
  constructor
  · rintro ⟨_, henv, _, hpayload, _, hsig, _, hid, _, hkey, _, hissued, _, hexp, _, hn, rfl, rfl, rfl⟩
    exact ⟨_, _, _, ⟨_, henv, _, hpayload, _, hsig, _, hkey, _, hexp, _, hid, rfl⟩, rfl, rfl, hissued, hn, rfl⟩
  rintro ⟨_, _, _, ⟨_, henv, _, hpayload, _, hsig, _, hkey, _, hexp, _, hid, rfl⟩, rfl, rfl, hissued, hn, rfl⟩
  exact ⟨_, henv, _, hpayload, _, hsig, _, hid, _, hkey, _, hissued, _, hexp, _, hn, rfl, rfl, rfl⟩

theorem nodeAccepts_iff {inv : Security.PairInvite} : NodeAccepts p blob clock inv ↔ ∃ payload sigHex,
    readPairInvite p.toInvitePrimitives blob = some (payload, sigHex, inv) ∧ inv.issuerPubkey.length = 64 ∧
      sigHex.len = some 128 ∧ 1 ≤ inv.maxUses ∧
      signatureOk p.toInviteReader inv.issuerPubkey sigHex payload = .ok true ∧ clock < inv.expiresAt := by
  rw [NodeAccepts, verifyPairInvite]
  grind

/-- What both check: the lengths of key and signature, and the signature. -/
def Signed (p : LinkPrimitives ι τ) (e : Relay.Envelope) : Prop :=
  e.issuerPubkey.length = 64 ∧ e.sigHex.len = some 128 ∧
    signatureOk p.toInviteReader e.issuerPubkey e.sigHex e.payload = .ok true

theorem exists_nodeAccepts_iff : (∃ inv, NodeAccepts p blob clock inv) ↔
    ∃ e, Relay.readEnvelope p.toRelay blob = some e ∧ Signed p e ∧
      (∃ issuedAt, e.payload.item "issued_at" = some issuedAt) ∧
      (∃ n, (e.payload.item "max_uses").bind (intOf p.toInvitePrimitives) = some n ∧ 1 ≤ n) ∧
      clock < e.expiresAt := by
  constructor
  · rintro ⟨inv, hnode⟩
    obtain ⟨_, _, hread, hkey, hlen, hpos, hsig, hclock⟩ := nodeAccepts_iff.mp hnode
    obtain ⟨e, issuedAt, n, he, rfl, rfl, hissued, hn, rfl⟩ := readPairInvite_eq_some.mp hread
    exact ⟨e, he, ⟨hkey, hlen, hsig⟩, ⟨issuedAt, hissued⟩, ⟨n, hn, hpos⟩, hclock⟩
  · rintro ⟨e, he, ⟨hkey, hlen, hsig⟩, ⟨issuedAt, hissued⟩, ⟨n, hn, hpos⟩, hclock⟩
    exact ⟨_, nodeAccepts_iff.mpr ⟨_, _, readPairInvite_eq_some.mpr
      ⟨e, issuedAt, n, he, rfl, rfl, hissued, hn, rfl⟩, hkey, hlen, hpos, hsig, hclock⟩⟩

variable (p) [LinearOrder τ]

def RelayAccepts (blob : String) (now : τ) (payload : Json) : Prop :=
  Relay.verifyPairInvite p.toRelay blob now = .ok (some payload)

/-- A signed invite passes the relay's other checks (an id, and an expiry that is a later date) exactly if
it passes the node's (an issue date, a number of uses, and an expiry that is a later text). -/
def Aligned (blob : String) (now : τ) (clock : String) : Prop :=
  ∀ e, Relay.readEnvelope p.toRelay blob = some e → Signed p e →
    ((e.inviteId ≠ "" ∧ ∃ t, p.timestamp (Relay.zuluOffset e.expiresAt) = some t ∧ now < t) ↔
      (∃ issuedAt, e.payload.item "issued_at" = some issuedAt) ∧
        (∃ n, (e.payload.item "max_uses").bind (intOf p.toInvitePrimitives) = some n ∧ 1 ≤ n) ∧
        clock < e.expiresAt)

variable {p} {now : τ}

theorem relayAccepts_iff : (∃ payload, RelayAccepts p blob now payload) ↔
    ∃ e, Relay.readEnvelope p.toRelay blob = some e ∧ Signed p e ∧ e.inviteId ≠ "" ∧
      ∃ t, p.timestamp (Relay.zuluOffset e.expiresAt) = some t ∧ now < t := by
  constructor
  · rintro ⟨_, hrelay⟩
    obtain ⟨e, t, he, rfl, hkey, hlen, hid, hsig, ht, hnow⟩ :=
      (Relay.verifyPairInvite_eq_some p.toRelay).mp hrelay
    exact ⟨e, he, ⟨hkey, hlen, hsig⟩, hid, t, ht, hnow⟩
  · rintro ⟨e, he, ⟨hkey, hlen, hsig⟩, hid, t, ht, hnow⟩
    exact ⟨_, (Relay.verifyPairInvite_eq_some p.toRelay).mpr
      ⟨e, t, he, rfl, hkey, hlen, hid, hsig, ht, hnow⟩⟩

/-- An invite without `issued_at` and `max_uses`. -/
def exampleBareInvite : LinkPrimitives String Nat :=
  { exampleLinkPrimitives with loads := fun _ => some (Relay.exampleInvite 'a') }

end NexusGrid.Pairing

import NexusGrid.Lib.JsonText

/-! # Signed releases

A manifest describes a release (`security/app_update.py`).
-/

namespace NexusGrid.Security

open Lib

abbrev Manifest := List (String × Json)

structure ReleaseVerifier where
  /-- Python's `repr` of arrays and objects. -/
  repr : Json → String
  /-- `base64.b64decode`; `none` when it raises. -/
  b64decode : String → Option (List UInt8)
  /-- `Ed25519PublicKey.from_public_bytes(key).verify(signature, message)` raises nothing. -/
  ed25519 : List UInt8 → List UInt8 → List UInt8 → Bool
  /-- The instant of `datetime.fromisoformat(text)`; `none` when it raises or names no time zone. -/
  fromIso : String → Option Int

/-- `ROOT_PUBKEY_B64`. -/
def rootPubkey : String := "OPGgu/WrNrX59Uv3bPofYil7DtwF90UMrMVj7bdfaXQ="

def revokedKeyIds : List String := []

def signedFields : List String := ["version", "url", "sha256", "min_version", "notes_url"]

def certFields : List String := ["signing_pubkey", "key_id", "not_after", "created"]

def platformKeys : List String := ["windows", "macos", "linux"]

theorem lookup_filterMap {β : Type} (f : String → Option β) {k : String} {keys : List String} (hk : k ∈ keys) :
    (keys.filterMap fun k => (f k).map fun b => (k, b)).lookup k = f k := by
  induction keys with
  | nil => cases hk
  | cons k' keys ih =>
    by_cases hkk : k = k'
    · subst hkk
      cases hf : f k with
      | some b => simp [hf]
      | none =>
        rw [List.lookup_eq_none_iff]
        intro e he
        obtain ⟨k', -, hmap⟩ := List.mem_filterMap.mp he
        obtain ⟨b, hb, rfl⟩ := Option.map_eq_some_iff.mp hmap
        have hne : k ≠ k' := by
          rintro rfl
          cases hf.symm.trans hb
        simpa using hne
    · have htail := ih ((List.mem_cons.mp hk).resolve_left hkk)
      cases hf : f k' with
      | none => simpa [hf] using htail
      | some b =>
        have hne : (k == k') = false := beq_eq_false_iff_ne.mpr hkk
        simp only [List.filterMap_cons, hf, Option.map_some, List.lookup_cons, hne]
        exact htail

namespace ReleaseVerifier

variable (p : ReleaseVerifier)

def canon (d : Manifest) (fields : List String) : List UInt8 :=
  Json.dumps (fields.map fun k => (k, Json.textDefault p.repr d k))

def canonicalBytes (m : Manifest) : List UInt8 := p.canon m signedFields

def certBytes (cert : Manifest) : List UInt8 := p.canon cert certFields

/-- The texts of a platform's binary; `none` when the map has no object for it. -/
def platformEntry (platforms : Manifest) (k : String) : Option (String × String) :=
  match Json.get platforms k with
  | .obj entry => some (Json.textDefault p.repr entry "url", Json.textDefault p.repr entry "sha256")
  | _ => none

/-- `norm` of `platforms_bytes`. -/
def normPlatforms (platforms : Manifest) : List (String × String × String) :=
  platformKeys.filterMap fun k => (p.platformEntry platforms k).map fun entry => (k, entry)

def platformsBytes (platforms : Manifest) : List UInt8 := Json.canonical (.obj ((p.normPlatforms platforms).map fun e =>
    (e.1, .obj [("url", .str e.2.1), ("sha256", .str e.2.2)])))

def verify (pubkey : String) (msg : List UInt8) (sig : String) : Bool :=
  if pubkey = "" ∨ sig = "" then false
  else match p.b64decode pubkey, p.b64decode sig with
    | some key, some signature => p.ed25519 key signature msg
    | _, _ => false

def expired (now : Int) (notAfter : String) : Bool :=
  match p.fromIso (String.ofList (notAfter.toList.flatMap fun c => if c = 'Z' then "+00:00".toList else [c])) with
  | none => true
  | some deadline => deadline < now

/-- `verify_release`; `none` when it raises, for a cert that is no object. -/
def verifyRelease (now : Int) (m : Manifest) : Option (Bool × String) :=
  match Json.objAt m "cert" with
  | none => none
  | some cert =>
    let signingPubkey := Json.textDefault p.repr cert "signing_pubkey"
    if p.verify rootPubkey (p.certBytes cert) (Json.textDefault p.repr m "cert_sig") = false then
      some (false, "delegation cert not signed by the root key")
    else if Json.textDefault p.repr cert "key_id" ∈ revokedKeyIds then some (false, "release key has been revoked")
    else if p.expired now (Json.textDefault p.repr cert "not_after") then
      some (false, "delegation cert has expired")
    else if p.verify signingPubkey (p.canonicalBytes m) (Json.textDefault p.repr m "sig") = false then
      some (false, "manifest not signed by the certified release key")
    else match Json.get m "platforms" with
      | .null => some (true, "")
      | .obj plats =>
        if p.verify signingPubkey (p.platformsBytes plats) (Json.textDefault p.repr m "platforms_sig") = false then
          some (false, "platform map not signed by the certified release key")
        else some (true, "")
      | _ => some (false, "platforms is not a map")

def platformsOf (m : Manifest) : List (String × String × String) :=
  match Json.get m "platforms" with
  | .obj plats => p.normPlatforms plats
  | _ => []

structure SameFacts (m m' : Manifest) : Prop where
  fields : ∀ k ∈ signedFields, Json.textDefault p.repr m k = Json.textDefault p.repr m' k
  cert : Json.get m "cert" = Json.get m' "cert"
  platforms : p.platformsOf m = p.platformsOf m'

variable {p}

theorem platforms_of_accepted {now : Int} {m : Manifest} (h : p.verifyRelease now m = some (true, "")) :
    Json.get m "platforms" = .null ∨ ∃ plats, Json.get m "platforms" = .obj plats := by
  unfold verifyRelease at h
  split at h
  · cases h
  dsimp only at h
  split_ifs at h
  iterate 4
    · simp at h
  split at h
  next hnull => exact .inl hnull
  next plats hobj => exact .inr ⟨plats, hobj⟩
  · simp at h

theorem lookup_normPlatforms (platforms : Manifest) {k : String} (hk : k ∈ platformKeys) :
    (p.normPlatforms platforms).lookup k = p.platformEntry platforms k :=
  lookup_filterMap (p.platformEntry platforms) hk

end ReleaseVerifier

end NexusGrid.Security

import NexusGrid.Runtime.Versions
import NexusGrid.Security.AppUpdate
import NexusGrid.Security.Hmac

/-! # Updates of the program

`check` and `apply` of `runtime/updater.py`. Both take a manifest that `verify_release` has accepted,
compare its version with the running one and pick the binary of this platform. The module says which
content of a manifest, besides the signed texts, they depend on, and when what is installed is newer.
-/

namespace NexusGrid.Runtime

open Lib Security

/-- The running program: `__version__` and `sys.platform`. -/
structure Program where
  version : String
  platform : String

structure Platform extends ReleaseVerifier where
  digits : DigitTable
  sha256 : List UInt8 → List UInt8

def Program.platformKey (prog : Program) : String :=
  if PyStr.startsWith prog.platform "win" then "windows" else if prog.platform = "darwin" then "macos" else "linux"

/-- The answer of `check`; `notes_url` is passed on as it is. -/
structure CheckResult where
  current : String
  latest : String
  available : Bool
  notesUrl : Json
  /-- `breaking` and `breaking_note`; absent without a manifest. -/
  flags : Option (Bool × String)

inductive ApplyError
  /-- An exception of a callee. -/
  | raised
  | noManifest
  | upToDate
  | noBuild (platform : String)
  | hashMismatch (expected got : String)
deriving DecidableEq

def ApplyError.text : ApplyError → String
  | .raised => ""
  | .noManifest => "no verified update manifest"
  | .upToDate => "already up to date"
  | .noBuild platform => "no build published for this platform (" ++ platform ++ ")"
  | .hashMismatch expected got =>
    "hash mismatch: expected " ++ PyStr.take 12 expected ++ "…, got " ++ PyStr.take 12 got ++ "…"

/-- What `apply` downloads. -/
structure Download where
  version : String
  url : String
  sha256 : String
deriving DecidableEq

structure Installed extends Download where
  binary : List UInt8
deriving DecidableEq

namespace Platform

variable (p : Platform) (prog : Program)

def pickEntry (plats : Manifest) (key : String) : Option (String × String) :=
  match Json.get plats key with
  | .obj entry =>
    if (Json.get entry "url").truthy ∧ (Json.get entry "sha256").truthy then
      some (Json.textDefault p.repr entry "url", Json.textDefault p.repr entry "sha256")
    else none
  | _ => none

/-- `_pick_download`; `none` when it raises. -/
def pickDownload (m : Manifest) : Option (Option (String × String)) := (Json.objAt m "platforms").map fun plats =>
    (p.pickEntry plats prog.platformKey).or
      (if prog.platformKey = "windows" ∧ (Json.get m "url").truthy ∧ (Json.get m "sha256").truthy then
        some (Json.textDefault p.repr m "url", Json.textDefault p.repr m "sha256")
      else none)

/-- `_fetch_manifest`; an error when `verify_release` raises. -/
def fetchManifest (now : Int) : Option Json → Except Unit (Option Manifest)
  | none => .ok none
  | some (.obj m) =>
    match p.verifyRelease now m with
    | none => .error ()
    | some (ok, _) => .ok (if ok then some m else none)
  | some _ => .error ()

/-- `_ver_tuple(v) > _ver_tuple(w)`; `none` when it raises. -/
def newerTuple (v w : String) : Option Bool := do
  let v ← p.digits.verTuple v
  let w ← p.digits.verTuple w
  return decide (w < v)

/-- The part of `check` after the manifest has been accepted; `none` when it raises. -/
def checkManifest (m : Manifest) : Option CheckResult := do
  let latest := ((m.lookup "version").getD (.str prog.version)).text p.repr
  let newer ← p.newerTuple latest prog.version
  let available ← if newer then (p.pickDownload prog m).map Option.isSome else some false
  return {
    current := prog.version
    latest := latest
    available := available
    notesUrl := (m.lookup "notes_url").getD (.str "")
    flags := some (((m.lookup "breaking").getD (.bool false)).truthy, Json.textDefault p.repr m "breaking_note") }

def check (now : Int) (source : Option Json) : Except Unit CheckResult :=
  match p.fetchManifest now source with
  | .error () => .error ()
  | .ok none => .ok {
      current := prog.version
      latest := prog.version
      available := false
      notesUrl := .str ""
      flags := none }
  | .ok (some m) => (p.checkManifest prog m).elim (.error ()) .ok

/-- The part of `apply` between the manifest and the download. -/
def plan (m : Manifest) : Except ApplyError Download :=
  let latest := Json.textDefault p.repr m "version"
  match p.newerTuple latest prog.version with
  | none => .error .raised
  | some false => .error .upToDate
  | some true =>
    match p.pickDownload prog m with
    | none => .error .raised
    | some none => .error (.noBuild prog.platformKey)
    | some (some (url, sha256)) => .ok ⟨latest, url, sha256⟩

/-- The download itself; `readSource` gives `none` when it raises. -/
def install (readSource : String → Option (List UInt8)) (d : Download) : Except ApplyError Installed :=
  match readSource d.url with
  | none => .error .raised
  | some data =>
    if hexdigest (p.sha256 data) ≠ d.sha256 then .error (.hashMismatch d.sha256 (hexdigest (p.sha256 data)))
    else .ok ⟨d, data⟩

def apply (now : Int) (source : Option Json) (readSource : String → Option (List UInt8)) :
    Except ApplyError Installed :=
  match p.fetchManifest now source with
  | .error () => .error .raised
  | .ok none => .error .noManifest
  | .ok (some m) => (p.plan prog m).bind (p.install readSource)

end Platform

/-- `latest` of `check`. -/
def Platform.latest (p : Platform) (prog : Program) (m : Manifest) : String :=
  ((m.lookup "version").getD (.str prog.version)).text p.repr

/-- What `check` shows besides the signed texts agrees. -/
structure SameShown (p : Platform) (prog : Program) (m m' : Manifest) : Prop where
  version : p.latest prog m = p.latest prog m'
  notesUrl : (m.lookup "notes_url").getD (.str "") = (m'.lookup "notes_url").getD (.str "")
  breaking : ((m.lookup "breaking").getD (.bool false)).truthy =
    ((m'.lookup "breaking").getD (.bool false)).truthy
  breakingNote : Json.textDefault p.repr m "breaking_note" = Json.textDefault p.repr m' "breaking_note"

/-- The values that this platform reads a binary from count as given in both. -/
structure SameGiven (prog : Program) (m m' : Manifest) : Prop where
  given : prog.platformKey = "windows" → ∀ k ∈ ["url", "sha256"],
    (Json.get m k).truthy = (Json.get m' k).truthy
  entries : ∀ plats plats', Json.get m "platforms" = .obj plats → Json.get m' "platforms" = .obj plats' →
    ∀ entry entry', Json.get plats prog.platformKey = .obj entry →
      Json.get plats' prog.platformKey = .obj entry' →
        ∀ k ∈ ["url", "sha256"], (Json.get entry k).truthy = (Json.get entry' k).truthy

theorem platformKey_mem (prog : Program) : prog.platformKey ∈ platformKeys := by
  unfold Program.platformKey
  split_ifs <;> decide

section Reading

variable {p : Platform} {prog : Program} {m m' : Manifest} {now now' : Int}

theorem exists_plats (hm : p.verifyRelease now m = some (true, "")) {key : String} (hkey : key ∈ platformKeys) :
    ∃ plats, Json.objAt m "platforms" = some plats ∧ (p.platformsOf m).lookup key = p.platformEntry plats key ∧
      ∀ entry, Json.get plats key = .obj entry → Json.get m "platforms" = .obj plats := by
  rcases ReleaseVerifier.platforms_of_accepted hm with hnull | ⟨plats, hobj⟩
  · refine ⟨[], ?_, ?_, ?_⟩
    · rw [Json.objAt, hnull]
      rfl
    · rw [ReleaseVerifier.platformsOf, hnull]
      rfl
    intro entry hentry
    cases hentry
  refine ⟨plats, ?_, ?_, fun _ _ => hobj⟩
  · rw [Json.objAt, hobj]
  rw [ReleaseVerifier.platformsOf, hobj]
  exact ReleaseVerifier.lookup_normPlatforms plats hkey

theorem platformEntry_eq_some {plats : Manifest} {key : String} {texts : String × String}
    (h : p.platformEntry plats key = some texts) : ∃ entry, Json.get plats key = .obj entry ∧
      texts = (Json.textDefault p.repr entry "url", Json.textDefault p.repr entry "sha256") := by
  unfold ReleaseVerifier.platformEntry at h
  split at h
  next entry hentry => exact ⟨entry, hentry, (Option.some.inj h).symm⟩
  · cases h

theorem pickEntry_eq_none {plats : Manifest} {key : String} (h : p.platformEntry plats key = none) :
    p.pickEntry plats key = none := by
  unfold Platform.pickEntry
  split
  next entry hentry =>
    rw [ReleaseVerifier.platformEntry, hentry] at h
    cases h
  · rfl

theorem pickEntry_eq {plats plats' : Manifest} {key : String}
    (hsame : p.platformEntry plats key = p.platformEntry plats' key)
    (hgiven : ∀ entry entry', Json.get plats key = .obj entry → Json.get plats' key = .obj entry' →
      ∀ k ∈ ["url", "sha256"], (Json.get entry k).truthy = (Json.get entry' k).truthy) :
    p.pickEntry plats key = p.pickEntry plats' key := by
  cases hentry : p.platformEntry plats key with
  | none => rw [pickEntry_eq_none hentry, pickEntry_eq_none (hsame ▸ hentry)]
  | some texts =>
    obtain ⟨entry, hget, htexts⟩ := platformEntry_eq_some hentry
    obtain ⟨entry', hget', htexts'⟩ := platformEntry_eq_some (hsame ▸ hentry)
    have hurl := hgiven entry entry' hget hget' "url" (by decide)
    have hsha := hgiven entry entry' hget hget' "sha256" (by decide)
    simp only [Platform.pickEntry, hget, hget', ← htexts, ← htexts', hurl, hsha]

section

variable (hm : p.verifyRelease now m = some (true, ""))
  (hm' : p.verifyRelease now' m' = some (true, "")) (hfacts : p.SameFacts m m')
include hm hm' hfacts

theorem pickDownload_eq (hgiven : SameGiven prog m m') :
    p.pickDownload prog m = p.pickDownload prog m' := by
  have hkey := platformKey_mem prog
  obtain ⟨plats, hplats, hentry, hobj⟩ := exists_plats hm hkey
  obtain ⟨plats', hplats', hentry', hobj'⟩ := exists_plats hm' hkey
  have hsame : p.platformEntry plats prog.platformKey = p.platformEntry plats' prog.platformKey := by
    rw [← hentry, ← hentry', hfacts.platforms]
  have hpick : p.pickEntry plats prog.platformKey = p.pickEntry plats' prog.platformKey :=
    pickEntry_eq hsame fun entry entry' hget hget' =>
      hgiven.entries plats plats' (hobj entry hget) (hobj' entry' hget') entry entry' hget hget'
  have hurlText := hfacts.fields "url" (by decide)
  have hshaText := hfacts.fields "sha256" (by decide)
  simp only [Platform.pickDownload, hplats, hplats', Option.map_some, hpick, hurlText, hshaText]
  by_cases hwindows : prog.platformKey = "windows"
  · rw [hgiven.given hwindows "url" (by decide), hgiven.given hwindows "sha256" (by decide)]
  · simp only [hwindows, false_and, if_false]

theorem checkManifest_eq (hshown : SameShown p prog m m') (hgiven : SameGiven prog m m') :
    p.checkManifest prog m = p.checkManifest prog m' := by
  have hlatest := hshown.version
  simp only [Platform.latest] at hlatest
  simp only [Platform.checkManifest, hlatest, pickDownload_eq hm hm' hfacts hgiven, hshown.notesUrl,
    hshown.breaking, hshown.breakingNote]

theorem plan_eq (hgiven : SameGiven prog m m') : p.plan prog m = p.plan prog m' := by
  have hversion := hfacts.fields "version" (by decide)
  simp only [Platform.plan, hversion, pickDownload_eq hm hm' hfacts hgiven]

end

/-- What `check` returns shows all of it. -/
theorem checkManifest_eq_some {r : CheckResult} (h : p.checkManifest prog m = some r) :
    r.latest = p.latest prog m ∧ r.notesUrl = (m.lookup "notes_url").getD (.str "") ∧
      r.flags = some (((m.lookup "breaking").getD (.bool false)).truthy,
        Json.textDefault p.repr m "breaking_note") := by
  obtain ⟨newer, -, h⟩ := Option.bind_eq_some_iff.mp h
  have hresult : ∃ available, r = ⟨prog.version, p.latest prog m, available,
      (m.lookup "notes_url").getD (.str ""), some (((m.lookup "breaking").getD (.bool false)).truthy,
        Json.textDefault p.repr m "breaking_note")⟩ := by
    cases newer with
    | false => exact ⟨false, (Option.some.inj h).symm⟩
    | true =>
      obtain ⟨available, -, h⟩ := Option.bind_eq_some_iff.mp h
      exact ⟨available, (Option.some.inj h).symm⟩
  obtain ⟨available, rfl⟩ := hresult
  exact ⟨rfl, rfl, rfl⟩

theorem SameShown.of_checkManifest {r : CheckResult} (h : p.checkManifest prog m = some r)
    (h' : p.checkManifest prog m' = some r) : SameShown p prog m m' := by
  obtain ⟨hlatest, hnotes, hflags⟩ := checkManifest_eq_some h
  obtain ⟨hlatest', hnotes', hflags'⟩ := checkManifest_eq_some h'
  have hsame := Prod.mk.inj (Option.some.inj (hflags.symm.trans hflags'))
  exact ⟨hlatest.symm.trans hlatest', hnotes.symm.trans hnotes', hsame.1, hsame.2⟩

theorem fetchManifest_accepted (hm : p.verifyRelease now m = some (true, "")) :
    p.fetchManifest now (some (.obj m)) = .ok (some m) := by
  rw [Platform.fetchManifest, hm]
  rfl

theorem check_accepted (hm : p.verifyRelease now m = some (true, "")) :
    p.check prog now (some (.obj m)) = (p.checkManifest prog m).elim (.error ()) .ok := by
  rw [Platform.check, fetchManifest_accepted hm]

end Reading

/-- Every signature verifies, and every file has the hash `00`. -/
def trusting : Platform where
  repr _ := ""
  b64decode _ := some []
  ed25519 _ _ _ := true
  fromIso _ := some 0
  digits := asciiDigits
  sha256 _ := [0]

def release (version : String) (more : Manifest) : Manifest :=
  [("version", .str version), ("url", .str "https://host/app.exe"), ("sha256", .str "00"),
    ("cert", .obj [("signing_pubkey", .str "key"), ("not_after", .str "2030-01-01T00:00:00Z")]),
    ("cert_sig", .str "root"), ("sig", .str "release")] ++ more

section Install

variable {p : Platform} {prog : Program} {now : Int} {source : Option Json}
  {readSource : String → Option (List UInt8)} {out : Installed}

theorem newerTuple_eq_true {v w : String} (h : p.newerTuple v w = some true) :
    ∃ l l', p.digits.verTuple w = some l ∧ p.digits.verTuple v = some l' ∧ l < l' := by
  simp only [Platform.newerTuple, Option.bind_eq_bind, Option.bind_eq_some_iff, Option.pure_def,
    Option.some.injEq, decide_eq_true_eq] at h
  obtain ⟨l', hv, l, hw, hlt⟩ := h
  exact ⟨l, l', hw, hv, hlt⟩

theorem newerTuple_of_plan {m : Manifest} {d : Download} (h : p.plan prog m = .ok d) :
    p.newerTuple d.version prog.version = some true := by
  unfold Platform.plan at h
  dsimp only at h
  split at h
  · cases h
  · cases h
  next hnewer =>
    split at h
    · cases h
    · cases h
    rw [← Except.ok.inj h]
    exact hnewer

theorem toDownload_of_install {d : Download} (h : p.install readSource d = .ok out) : out.toDownload = d := by
  unfold Platform.install at h
  split at h
  · cases h
  split at h
  · cases h
  · rw [← Except.ok.inj h]

theorem newerTuple_of_apply (h : p.apply prog now source readSource = .ok out) :
    p.newerTuple out.version prog.version = some true := by
  unfold Platform.apply at h
  split at h
  · cases h
  · cases h
  next m _ =>
    cases hplan : p.plan prog m with
    | error e =>
      rw [hplan] at h
      cases h
    | ok d =>
      rw [hplan] at h
      rw [toDownload_of_install h]
      exact newerTuple_of_plan hplan

end Install

def digit (n : Fin 10) : Numeral where
  digits := [Nat.digitChar n]
  nonempty := by simp
  decimal := by
    intro c hc
    rw [List.mem_singleton] at hc
    subst hc
    revert n
    decide

def version (first : Fin 10) (rest : List (Fin 10)) (pre : Option String) : Version where
  first := digit first
  rest := rest.map digit
  suffix := pre.elim [] fun s => '-' :: s.toList
  suffix_head := by cases pre <;> simp

end NexusGrid.Runtime

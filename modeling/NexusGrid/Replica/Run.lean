import NexusGrid.Replica.Build

/-! # The files that a replica writes

`run_replica` (`runtime/replica_runner.py`) writes what a provider's profile tells into two temporary
directories. `runReplica` gives the files that a call opens, for every outcome of its writes, its build and
its downloads (`Outcomes`). What can be opened at all is what the run opens in which nothing fails
(`smooth`), so that containment is a condition on these paths.
-/

namespace NexusGrid.Replica

open Lib

structure Reply where
  status : Nat
  body : Json

def findService (items : List Json) (name : String) : Option (List (String × Json)) := items.findSome? fun
    | .obj s => if (Json.get s "name").isText name then some s else none
    | _ => none

/-- `_fetch_public_service`; an error when it raises. -/
def fetchPublicService (reply : Reply) (name : String) : Except Unit (Option (List (String × Json))) :=
  if reply.status ≠ 200 then .ok none
  else
    match reply.body with
    | .obj body =>
      match Json.get body "hosted_services" with
      | .arr items => .ok (findService items name)
      -- the characters of a text and the keys of a dict are no dicts
      | .str _ => .ok none
      | .obj _ => .ok none
      | v => if v.truthy then .error () else .ok none
    | v => if v.truthy then .error () else .ok none

inductive RunnerKind
  | container
  | process
deriving DecidableEq

structure Runner where
  kind : RunnerKind
  available : Bool

structure Consumer where
  settings : Settings
  /-- The replicas that run. -/
  replicas : Nat
  runners : String → Option Runner
  /-- Python's `repr` of arrays and objects. -/
  repr : Json → String
  /-- `build_fingerprint`. -/
  fingerprint : List (String × Json) → String

/-- The arguments of `run_replica`. -/
structure ReplicaCall where
  service : String
  runner : String
  agreed : Bool

inductive WriteEnd
  | written
  /-- The name of the exception, and whether the file was opened before it. -/
  | failed (opened : Bool) (exception : String)

inductive FetchEnd
  | done
  | failed (opened : Bool) (reason : String)
  /-- As when `rclone` takes too long. -/
  | raised (opened : Bool)

structure Outcomes where
  /-- The `i`-th file of the build context. -/
  write : Nat → WriteEnd
  /-- The image is there already. -/
  cached : Bool
  built : Bool
  /-- The `i`-th input. -/
  fetch : Nat → FetchEnd

inductive TempDir
  | build
  | inputs
deriving DecidableEq

/-- The text that was joined to a temporary directory. -/
structure Opened where
  dir : TempDir
  rel : String
deriving DecidableEq

inductive RunEnd
  | error (text : String)
  | raised
  /-- The runner is to be started with this image. -/
  | launch (image : String)
deriving DecidableEq

/-- `_write_build_dir`: the files from the `i`-th on, and the exception. -/
def writeFiles (o : Outcomes) : Nat → List String → List Opened × Option String
  | _, [] => ([], none)
  | i, rel :: rels =>
    match o.write i with
    | .written => (⟨.build, rel⟩ :: (writeFiles o (i + 1) rels).1, (writeFiles o (i + 1) rels).2)
    | .failed opened exception => (if opened then [⟨.build, rel⟩] else [], some exception)

inductive BuildEnd
  | raised
  | refused (reason : String)
  | ready (tag : String)
deriving DecidableEq

def ensureBuiltImage (c : Consumer) (o : Outcomes) (build : Json) : List Opened × BuildEnd :=
  match build with
  | .obj fields =>
    match validateBuild c.settings c.repr fields with
    | .error () => ([], .raised)
    | .ok (some reason) => ([], .refused reason)
    | .ok none =>
      let tag := "nexus_built_" ++ c.fingerprint fields
      if o.cached then ([], .ready tag)
      else
        match writeFiles o 0 ("Dockerfile" :: ((Json.objAt fields "files").getD []).map Prod.fst) with
        | (opened, some exception) => (opened, .refused ("build_error:" ++ exception))
        | (opened, none) => (opened, if o.built then .ready tag else .refused "build_failed")
  | _ => ([], .raised)

/-- An rclone remote: `^[A-Za-z0-9_-]{2,}:`, and no `://`. -/
def isRemote (u : List Char) : Bool :=
  let name := u.takeWhile fun c => c.isAlphanum || c = '_' || c = '-'
  ¬ "://".toList <:+: u ∧ 2 ≤ name.length ∧ (u.drop name.length).head? = some ':'

/-- `classify(uri) == ""`; `none` when it raises. -/
def badUri : Json → Option Bool
  | .str uri =>
    let low := PyStr.lower (PyStr.strip uri)
    some (!(PyStr.startsWith low "http://" || PyStr.startsWith low "https://" || isRemote (PyStr.strip uri).toList))
  | v => if v.truthy then none else some true

/-- `it["dest"]` and `it["uri"]`; `none` when it raises. -/
def readInput : Json → Option (String × Json)
  | .obj fields =>
    match fields.lookup "dest", fields.lookup "uri" with
    | some (.str dest), some uri => some (dest, uri)
    | _, _ => none
  | _ => none

/-- The downloads from the `i`-th on: the reason of a failure, or an exception. -/
def fetchInputs (o : Outcomes) : Nat → List Json → List Opened × Except Unit (Option String)
  | _, [] => ([], .ok none)
  | i, item :: items =>
    match readInput item with
    | none => ([], .error ())
    | some (dest, uri) =>
      match badUri uri, o.fetch i with
      | none, _ => ([], .error ())
      | some true, _ => ([], .ok (some "bad_uri"))
      | some false, .raised opened => (if opened then [⟨.inputs, dest⟩] else [], .error ())
      | some false, .failed opened reason => (if opened then [⟨.inputs, dest⟩] else [], .ok (some reason))
      | some false, .done => (⟨.inputs, dest⟩ :: (fetchInputs o (i + 1) items).1, (fetchInputs o (i + 1) items).2)

def runInputs (o : Outcomes) (spec : List (String × Json)) (image : String) : List Opened × RunEnd :=
  match Json.get spec "inputs" with
  | .arr items =>
    match fetchInputs o 0 items with
    | (opened, .ok none) => (opened, .launch image)
    | (opened, .ok (some reason)) => (opened, .error ("input_download_failed:" ++ reason))
    | (opened, .error ()) => (opened, .raised)
  | v => ([], if v.truthy then .raised else .launch image)

/-- `run_replica` from the specification on. -/
def runSpec (c : Consumer) (o : Outcomes) (kind : RunnerKind) (spec : List (String × Json)) : List Opened × RunEnd :=
  let build := Json.get spec "build"
  if ¬ (Json.get spec "image").truthy ∧ ¬ (Json.get spec "cmd").truthy ∧ ¬ build.truthy then
    ([], .error "no_run_spec")
  else if kind = .container then
    if build.truthy then
      match ensureBuiltImage c o build with
      | (opened, .raised) => (opened, .raised)
      | (opened, .refused reason) => (opened, .error ("build_failed:" ++ reason))
      | (opened, .ready tag) => (opened ++ (runInputs o spec tag).1, (runInputs o spec tag).2)
    else
      match (spec.lookup "image").getD (.str "") with
      | .str image =>
        if imageAllowed c.settings image then runInputs o spec image else ([], .error "image_not_allowed")
      | _ => ([], .raised)
  else runInputs o spec (Json.textDefault c.repr spec "image")

/-- `run_replica`: the files it opens, and how it ends. -/
def runReplica (c : Consumer) (call : ReplicaCall) (reply : Reply) (o : Outcomes) : List Opened × RunEnd :=
  if ¬ call.agreed then ([], .error "consent_required")
  else if 24 ≤ c.replicas then ([], .error "too_many_replicas")
  else
    match c.runners (PyStr.lower (PyStr.strip call.runner)) with
    | none => ([], .error "unknown_runner")
    | some runner =>
      if ¬ runner.available then ([], .error "runner_unavailable")
      else
        match fetchPublicService reply call.service with
        | .error () => ([], .raised)
        | .ok none => ([], .error "no_such_service")
        | .ok (some svc) =>
          if ¬ (Json.get svc "replicable").truthy then ([], .error "not_replicable")
          else
            match Json.objAt svc "run" with
            | none => ([], .raised)
            | some spec => runSpec c o runner.kind spec

/-- The file: `d / rel`, and `os.path.join(dir, *dest.split("/"))`. -/
def Opened.path (dirs : TempDir → List String) (w : Opened) : List String :=
  match w.dir with
  | .build => Paths.join (dirs .build) w.rel
  | .inputs => Paths.walk (dirs .inputs) (PyStr.split '/' w.rel)

def Opened.stays (w : Opened) : Bool :=
  match w.dir with
  | .build => !Paths.isAbsolute w.rel && Paths.stays (PyStr.split '/' w.rel)
  | .inputs => Paths.stays (PyStr.split '/' w.rel)

def Opened.Inside (dirs : TempDir → List String) (w : Opened) : Prop := ∃ d, dirs d <+: w.path dirs

theorem stays_iff_inside (w : Opened) : w.stays = true ↔ ∀ dirs, w.Inside dirs := by
  obtain ⟨dir, rel⟩ := w
  cases dir with
  | build =>
    have hjoin := Paths.join_below_iff rel
    constructor
    · intro h dirs
      refine ⟨.build, hjoin.mpr ?_ (dirs .build)⟩
      simpa [Opened.stays] using h
    intro h
    -- both directories may be the same one
    have hbelow : ∀ dir, dir <+: Paths.join dir rel := by
      intro dir
      obtain ⟨_, hdir⟩ := h fun _ => dir
      exact hdir
    simpa [Opened.stays] using hjoin.mp hbelow
  | inputs =>
    have hwalk := Paths.stays_iff (PyStr.split '/' rel)
    constructor
    · intro h dirs
      exact ⟨.inputs, hwalk.mp h (dirs .inputs)⟩
    intro h
    refine hwalk.mpr fun dir => ?_
    obtain ⟨_, hdir⟩ := h fun _ => dir
    exact hdir

/-! ## What can be opened -/

/-- Nothing fails, and the image is not there yet. -/
def smooth : Outcomes where
  write _ := .written
  cached := false
  built := true
  fetch _ := .done

variable {c : Consumer} {o : Outcomes}

theorem writeFiles_smooth (i : Nat) (rels : List String) :
    writeFiles smooth i rels = (rels.map (⟨.build, ·⟩), none) := by
  induction rels generalizing i with
  | nil => rfl
  | cons rel rels ih =>
    rw [writeFiles, ih]
    rfl

theorem writeFiles_subset (i : Nat) (rels : List String) :
    (writeFiles o i rels).1 ⊆ rels.map (⟨.build, ·⟩) := by
  induction rels generalizing i with
  | nil => exact List.Subset.refl _
  | cons rel rels ih =>
    rw [writeFiles, List.map_cons]
    cases o.write i with
    | written => exact List.cons_subset_cons _ (ih _)
    | failed opened exception => cases opened <;> simp

theorem fetchInputs_subset (i j : Nat) (items : List Json) :
    (fetchInputs o i items).1 ⊆ (fetchInputs smooth j items).1 := by
  induction items generalizing i j with
  | nil => exact List.Subset.refl _
  | cons item items ih =>
    rw [fetchInputs, fetchInputs]
    cases readInput item with
    | none => exact List.Subset.refl _
    | some input =>
      obtain ⟨dest, uri⟩ := input
      cases hbad : badUri uri with
      | none => simp [hbad]
      | some bad =>
        cases bad with
        | true => simp [hbad]
        | false =>
          have hsmooth : smooth.fetch j = .done := rfl
          cases hfetch : o.fetch i with
          | done => simpa [hbad, hsmooth] using List.subset_cons_of_subset _ (ih (i + 1) (j + 1))
          | failed opened reason => cases opened <;> simp [hbad, hsmooth]
          | raised opened => cases opened <;> simp [hbad, hsmooth]

theorem fst_runInputs (o : Outcomes) (spec : List (String × Json)) (image : String) :
    (runInputs o spec image).1 =
      match Json.get spec "inputs" with
      | .arr items => (fetchInputs o 0 items).1
      | _ => [] := by
  unfold runInputs
  split
  · split <;> simp_all
  · rfl

theorem runInputs_subset (spec : List (String × Json)) (image image' : String) :
    (runInputs o spec image).1 ⊆ (runInputs smooth spec image').1 := by
  rw [fst_runInputs, fst_runInputs]
  split
  · exact fetchInputs_subset 0 0 _
  · exact List.Subset.refl _

/-- A build that is not refused writes all files when nothing fails. -/
theorem ensureBuiltImage_smooth (c : Consumer) (o : Outcomes) (build : Json) :
    (ensureBuiltImage c o build).1 = [] ∧ (∀ tag, (ensureBuiltImage c o build).2 ≠ .ready tag) ∨
      ∃ files tag, ensureBuiltImage c smooth build = (files, .ready tag) ∧
        (ensureBuiltImage c o build).1 ⊆ files := by
  unfold ensureBuiltImage
  split
  next fields =>
    split
    · exact .inl ⟨rfl, fun tag => by simp⟩
    · exact .inl ⟨rfl, fun tag => by simp⟩
    refine .inr ⟨_, _, by rw [if_neg (by decide), writeFiles_smooth]; rfl, ?_⟩
    by_cases hcached : o.cached = true
    · simp [hcached]
    rw [if_neg hcached]
    have hsub := writeFiles_subset (o := o) 0
      ("Dockerfile" :: ((Json.objAt fields "files").getD []).map Prod.fst)
    split
    next heq => rwa [heq] at hsub
    next heq => rwa [heq] at hsub
  · exact .inl ⟨rfl, fun tag => by simp⟩

theorem runSpec_subset (kind : RunnerKind) (spec : List (String × Json)) :
    (runSpec c o kind spec).1 ⊆ (runSpec c smooth kind spec).1 := by
  unfold runSpec
  dsimp only
  split_ifs with hnone hkind hbuild
  · exact List.Subset.refl _
  · -- a build, then the inputs
    rcases ensureBuiltImage_smooth c o (Json.get spec "build") with ⟨hnil, hready⟩ | ⟨files, tag, hsmooth, hsub⟩
    · cases hbuilt : ensureBuiltImage c o (Json.get spec "build") with
      | mk opened result =>
        rw [hbuilt] at hnil hready
        subst hnil
        cases result with
        | ready tag => exact absurd rfl (hready tag)
        | _ => exact List.nil_subset _
    · rw [hsmooth]
      cases hbuilt : ensureBuiltImage c o (Json.get spec "build") with
      | mk opened result =>
        rw [hbuilt] at hsub
        cases result with
        | ready tag' =>
          exact List.append_subset.mpr ⟨List.subset_append_of_subset_left _ hsub,
            List.subset_append_of_subset_right _ (runInputs_subset spec tag' tag)⟩
        | _ => exact List.subset_append_of_subset_left _ hsub
  · -- an image
    split
    · split_ifs
      · exact runInputs_subset spec _ _
      · exact List.Subset.refl _
    · exact List.Subset.refl _
  · exact runInputs_subset spec _ _

theorem runReplica_subset (call : ReplicaCall) (reply : Reply) :
    (runReplica c call reply o).1 ⊆ (runReplica c call reply smooth).1 := by
  unfold runReplica
  by_cases hagreed : ¬ call.agreed = true
  · simp [hagreed]
  by_cases hfull : 24 ≤ c.replicas
  · simp [hfull]
  simp only [if_neg hagreed, if_neg hfull]
  cases c.runners (PyStr.lower (PyStr.strip call.runner)) with
  | none => exact List.Subset.refl _
  | some runner =>
    by_cases havailable : ¬ runner.available = true
    · simp [havailable]
    simp only [if_neg havailable]
    rcases fetchPublicService reply call.service with _ | _ | svc
    · exact List.Subset.refl _
    · exact List.Subset.refl _
    by_cases hreplicable : ¬ (Json.get svc "replicable").truthy = true
    · simp [hreplicable]
    simp only [if_neg hreplicable]
    cases Json.objAt svc "run" with
    | none => exact List.Subset.refl _
    | some spec => exact runSpec_subset _ _

/-- A consumer that allows `python`. -/
def exampleConsumer : Consumer where
  settings := { allowedImages := ["python"] }
  replicas := 0
  runners name := if name = "docker" then some ⟨.container, true⟩ else none
  repr _ := ""
  fingerprint _ := "0"

def exampleReply (rel : String) : Reply where
  status := 200
  body := .obj [("hosted_services", .arr [.obj [("name", .str "web"), ("replicable", .bool true),
    ("run", .obj [("build", .obj [("dockerfile", .str "FROM python"), ("files", .obj [(rel, .str "x")])])])]])]

def exampleDirs : TempDir → List String
  | .build => ["tmp", "nexus_build_1"]
  | .inputs => ["tmp", "nexus_inputs_1"]

end NexusGrid.Replica

import NexusGrid.Lib.Json
import NexusGrid.Lib.PyStr

/-! # What a task asks for and what a worker offers

The metadata of a task is JSON in `env_vars`, its manifest is JSON from its payload, and the state of a worker is JSON
from its heartbeats.
-/

namespace NexusGrid.Scheduler

open Lib

abbrev Fields := List (String × Json)

/-- Why `float` raises. -/
inductive FloatError
  | overflow
  | other
deriving DecidableEq

inductive Num (F : Type)
  | int (n : Int)
  | float (x : F)
deriving DecidableEq

structure Floats (F : Type) where
  /-- `float(v)`. -/
  ofJson : Json → Except FloatError F
  sub : F → F → F
  /-- `a == b` and `a < b` of numbers, which may be of different types. -/
  eq : Num F → Num F → Bool
  lt : Num F → Num F → Bool
  le : Num F → Num F → Bool
  /-- `0.0`. -/
  zero : F
  /-- `int(max(0.0, x) // 5)`; `none` when it raises. -/
  fifths : F → Option Int
  /-- `int(v)` of what is neither an integer nor a boolean; `none` when it raises. -/
  parseInt : Json → Option Int

namespace Floats

variable {F : Type} (fl : Floats F)

/-- `int(v)`. -/
def int : Json → Option Int
  | .int n => some n
  | .bool b => some (if b then 1 else 0)
  | v => fl.parseInt v

/-- `int(d.get(k, default) or default)`. -/
def intOr (d : Fields) (k : String) (default : Int) : Option Int :=
  if (Json.get d k).truthy then fl.int (Json.get d k) else some default

/-- `float(d.get(k, default) or default)`. -/
def floatOr (d : Fields) (k : String) (default : Int) : Option F :=
  (fl.ofJson (if (Json.get d k).truthy then Json.get d k else .int default)).toOption

/-- `a < b` of tuples. -/
def tupleLt : List (Num F) → List (Num F) → Bool
  | [], [] => false
  | [], _ :: _ => true
  | _ :: _, [] => false
  | a :: as, b :: bs => if fl.eq a b then tupleLt as bs else fl.lt a b

/-- `a == b` of tuples. -/
def tupleEq : List (Num F) → List (Num F) → Bool
  | [], [] => true
  | a :: as, b :: bs => fl.eq a b && tupleEq as bs
  | _, _ => false

end Floats

/-- The fields that `v.get(..)` reads; `none` when `v` is no dict. -/
def dict : Json → Option Fields
  | .obj fields => some fields
  | _ => none

def normalizeListField (repr : Json → String) : Json → List String
  | .arr items => (items.map fun v => PyStr.strip (v.text repr)).filter (· ≠ "")
  | .str s => PyStr.splitCsv s
  | _ => []

def hashable : Json → Bool
  | .arr _ => false
  | .obj _ => false
  | _ => true

/-- A task in the queue; `env` is the result of `parse_task_env`. -/
structure Task where
  id : String
  /-- The workflow it belongs to; empty for none. -/
  parentId : String
  worker : String
  env : Json

structure Metadata where
  requestedBy : Json
  /-- The first one may be no text. -/
  preferredWorkers : List Json
  targetGroups : List String
  blockedMembers : List String
  oneStepPerNode : Bool
  preferReliableWorkers : Json
  priority : Int

structure RequiredCaps where
  requireGpu : Bool
  requiredTags : List String
  preferredRegion : String
deriving DecidableEq

structure Node (F : Type) where
  floats : Floats F
  /-- Python's `repr` of arrays and objects. -/
  repr : Json → String
  /-- `time.time()`, which is taken to stand still during a call. -/
  now : F
  /-- `_manifest_cache`. -/
  manifestCache : List (String × Json)
  /-- The setting `allow_cross_region_workers`. -/
  allowCrossRegionWorkers : Bool

namespace Node

variable {F : Type} (node : Node F)

/-- `extract_task_metadata`, with the conversions of the fields that are left out here. -/
def extractTaskMetadata (task : Task) : Option Metadata := do
  let env ← dict task.env
  let listed := normalizeListField node.repr (Json.get env "NEXUS_META_PREFERRED_WORKERS")
  let pinned := Json.get env "NEXUS_META_PREFERRED_WORKER"
  let preferred :=
    if pinned.truthy ∧ listed.all (fun w => !pinned.isText w) then pinned :: listed.map .str else listed.map .str
  -- `coordination_text` joins the preferred workers, if it comes to them.
  let joined := !(Json.get env "NEXUS_META_COORDINATION").isText "serving" && task.worker = ""
  guard (joined = false ∨ (Json.strings preferred).length = preferred.length)
  let priority ← node.floats.intOr env "NEXUS_META_PRIORITY" 50
  let _ ← node.floats.intOr env "NEXUS_META_RETRY_MAX" 2
  let _ ← node.floats.intOr env "NEXUS_META_RETRY_COUNT" 0
  match (env.lookup "NEXUS_META_TIMELINE").getD (.arr []) with
  | .arr _ | .str _ =>
    let _ ← node.floats.intOr env "NEXUS_META_QUEUE_TIMEOUT" 0
    let _ ← node.floats.floatOr env "NEXUS_META_QUEUED_AT" 0
    let _ ← node.floats.floatOr env "NEXUS_META_STARTED_AT" 0
    let _ ← node.floats.floatOr env "NEXUS_META_COMPLETED_AT" 0
    return {
      requestedBy := Json.get env "NEXUS_META_REQUESTED_BY"
      preferredWorkers := preferred
      targetGroups := normalizeListField node.repr (Json.get env "NEXUS_META_TARGET_GROUPS")
      blockedMembers := normalizeListField node.repr (Json.get env "NEXUS_META_BLOCKED_MEMBERS")
      oneStepPerNode := (Json.get env "NEXUS_META_ONE_STEP_PER_NODE").truthy
      preferReliableWorkers := Json.get env "NEXUS_META_PREFER_RELIABLE"
      priority := priority }
  | _ => none

def taskRequiredCaps (task : Task) : Option RequiredCaps :=
  (dict task.env).map fun env => {
    requireGpu := (Json.get env "NEXUS_META_REQUIRE_GPU").truthy
    requiredTags := normalizeListField node.repr (Json.get env "NEXUS_META_REQUIRED_TAGS")
    preferredRegion := PyStr.strip (Json.textDefault node.repr env "NEXUS_META_PREFERRED_REGION") }

/-- `read_task_manifest(cache_key=id)`. -/
def readTaskManifest (id : String) : Json :=
  if id = "" then .obj [] else (node.manifestCache.lookup id).getD (.obj [])

def imageMatches (image pattern : String) : Bool :=
  image = pattern || (pattern.toList.getLast? = some '*' && pattern.toList.dropLast.isPrefixOf image.toList)

def capsOf (stats : Fields) : Fields := (dict (Json.get stats "capabilities")).getD []

/-- The check of the runtime: images for `docker`, a capability for `service`. -/
def runtimeReason (manifest caps : Fields) : Option String :=
  let runtime := (manifest.lookup "runtime").getD (.str "docker")
  if runtime.isText "docker" then
    let image := PyStr.strip (Json.textDefault node.repr manifest "image")
    let supported := normalizeListField node.repr (Json.get caps "supported_images")
    if image ≠ "" ∧ supported ≠ [] ∧ supported.any (imageMatches image) = false then
      some ("doesn't allow the docker image '" ++ image ++ "'")
    else none
  else if runtime.isText "service" then
    if (Json.get caps "service_runtime").truthy then none else some "can't host service-runtime tasks"
  else none

def capsReason (caps : Fields) (req : RequiredCaps) : Option String :=
  let missing := req.requiredTags.filter (· ∉ normalizeListField node.repr (Json.get caps "tags"))
  let region := Json.textDefault node.repr caps "region"
  if req.requireGpu ∧ (Json.get caps "gpu").truthy = false then some "has no GPU (task requires one)"
  else if missing ≠ [] then
    some ("missing required tag(s): " ++ ", ".intercalate (missing.dedup.insertionSort fun a b => a.toList ≤ b.toList))
  else if req.preferredRegion ≠ "" ∧ region ≠ "" ∧ region ≠ req.preferredRegion then
    some ("in region '" ++ region ++ "', task wants '" ++ req.preferredRegion ++ "'")
  else none

def workerUnsupportedReason (info : Fields) (task : Task) : Option (Option String) := do
  let stats ← dict ((info.lookup "stats").getD (.obj []))
  let connection := ((stats.lookup "connection_type").getD (.str "lan")).text node.repr
  let manifest ← dict (node.readTaskManifest task.id)
  let allowCross := match Json.get manifest "allow_cross_region" with
    | .null => node.allowCrossRegionWorkers
    | v => v.truthy
  if connection = "relay" ∧ allowCross = false then
    return some "relay-only worker, and this dispatch excludes cross-region workers"
  let req ← node.taskRequiredCaps task
  return (node.runtimeReason manifest (capsOf stats)).or (node.capsReason (capsOf stats) req)

def workerSupportsTask (info : Fields) (task : Task) : Option Bool :=
  (node.workerUnsupportedReason info task).map Option.isNone

/-- `worker_fit_score`: none for a worker that cannot be used. -/
def workerFitScore (info : Fields) (reqRam reqCpu : Int) (requireGpu : Bool) : Option (Option (List (Num F))) := do
  let fl := node.floats
  let lastSeen ← fl.floatOr info "last_seen" 0
  if fl.lt (.int 12) (.float (fl.sub node.now lastSeen)) then return none
  let stats ← dict ((info.lookup "stats").getD (.obj []))
  let freeRam ← fl.intOr stats "free_ram" 0
  let dispatchCap ← fl.intOr stats "dispatch_ram_cap_mb" freeRam
  if dispatchCap < 128 then return none
  let cpu ← fl.floatOr stats "cpu" 100
  let activeTaskCount ← fl.intOr stats "active_task_count" 0
  let hasGpu := (Json.get (capsOf stats) "gpu").truthy
  let gpuFreeVram ← fl.intOr stats "dispatch_gpu_cap_mb" 0
  let gpuScore := if requireGpu then (if hasGpu then 2 else 0) else if hasGpu then 0 else 1
  let connection := ((stats.lookup "connection_type").getD (.str "lan")).text node.repr
  let bench ← match fl.ofJson (if (Json.get stats "bench").truthy then Json.get stats "bench" else .int 0) with
    | .ok x => some x
    | .error .other => some fl.zero
    | .error .overflow => none
  let benchTier ← fl.fifths bench
  let cpuRequest ← (fl.ofJson (.int reqCpu)).toOption
  return some [.int gpuScore,
    .int (if connection = "lan" then 2 else 1),
    .int benchTier,
    .int (if reqRam ≤ dispatchCap then 1 else 0),
    .int (dispatchCap - reqRam),
    .int gpuFreeVram,
    .float (fl.sub cpuRequest cpu),
    .int freeRam,
    .int (-activeTaskCount)]

end Node

end NexusGrid.Scheduler

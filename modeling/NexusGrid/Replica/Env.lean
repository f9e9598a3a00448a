import NexusGrid.Lib.Table
import NexusGrid.Replica.Run

/-! # The environment of a replica

`run_replica` resolves the references to secrets (`secret://NAME`) of the specification's `env` just
before it starts the runner. `resolveRefs` is the vault's part, `launch` what a runner makes of a
list of entries, and `runEnv` puts them together as `run_replica` does.
-/

namespace NexusGrid.Replica

open Lib

/-- `partition("=")`, without the separator. -/
def partitionEq (item : String) : String × String :=
  (PyStr.before '=' item, String.ofList (item.toList.dropWhile fun c => c ≠ '=').tail)

/-- `_resolve_one`; an error is the text of the `SecretError`. -/
def resolveOne (getValue : String → Option String) (value : String) : Except String String :=
  if PyStr.startsWith value "secret://" then
    let name := String.ofList (value.toList.drop 9)
    match getValue name with
    | some value => .ok value
    | none => .error ("unknown secret: " ++ name)
  else .ok value

def resolveItem (getValue : String → Option String) : Json → Except String Json
  | .str item =>
    if '=' ∈ item.toList then
      (resolveOne getValue (partitionEq item).2).map fun value => .str ((partitionEq item).1 ++ "=" ++ value)
    else .ok (.str item)
  | item => .ok item

/-- `resolve_refs` of a list. -/
def resolveRefs (getValue : String → Option String) (env : List Json) : Except String (List Json) :=
  env.mapM (resolveItem getValue)

inductive Launch
  | failed (error : String)
  /-- The `-e` arguments. -/
  | container (env : List String)
  | process (env : Table String String)

/-- The variables of a process: those of the node (`host`), which the entries overwrite. -/
def putEnv (host : Table String String) (items : List String) : Table String String :=
  items.foldl (fun env e => env.put (partitionEq e).1 (partitionEq e).2) host

/-- The runner is started. -/
def launch (host : Table String String) (kind : RunnerKind) (env : List Json) : Launch :=
  -- what is no text cannot be an argument nor be partitioned
  if (Json.strings env).length ≠ env.length then .failed "spawn_failed"
  else
    match kind with
    | .container => .container (Json.strings env)
    | .process => .process (putEnv host (Json.strings env))

/-- The end of `run_replica`, for the `env` of the specification. -/
def runEnv (getValue : String → Option String) (host : Table String String) (kind : RunnerKind) (env : List Json) :
    Launch :=
  match resolveRefs getValue env with
  | .error text => .failed ("secret_unresolved:" ++ text)
  | .ok resolved =>
    match kind with
    | .container => launch host .container resolved
    -- the loop is over the specification's `env`
    | .process => launch host .process env

/-! ## What a workload is started with

The property compares what is started with what `resolve_refs` returned. For a process it fails
exactly at an entry that the resolution changes and that no later entry of the list hides. -/

/-- What a started workload sees; the variables of a process are a dict, without an order. -/
def Launch.Same : Launch → Launch → Prop
  | .process env, .process env' => ∀ name, env.get name = env'.get name
  | l, l' => l = l'

/-- An unknown reference prevents the launch, and otherwise the workload gets what `resolve_refs`
returned. -/
def EnvResolved (getValue : String → Option String) (host : Table String String) (kind : RunnerKind)
    (env : List Json) : Prop :=
  match resolveRefs getValue env with
  | .error _ => ∃ error, runEnv getValue host kind env = .failed error
  | .ok resolved => (runEnv getValue host kind env).Same (launch host kind resolved)

def keys (items : List String) : List String := items.map fun e => (partitionEq e).1

/-- Some entry is changed by its resolution, and no later entry sets the same variable. -/
def Exposed (getValue : String → Option String) : List String → Prop
  | [] => False
  | item :: rest =>
    (resolveItem getValue (.str item) ≠ .ok (.str item) ∧ (partitionEq item).1 ∉ keys rest) ∨
      Exposed getValue rest

variable {getValue : String → Option String} {host : Table String String} {kind : RunnerKind} {env : List Json}

theorem partitionEq_join {item : String} (h : '=' ∈ item.toList) :
    (partitionEq item).1 ++ "=" ++ (partitionEq item).2 = item := by
  have hsplit := List.takeWhile_append_dropWhile (p := fun c => decide (c ≠ '=')) (l := item.toList)
  cases hrest : item.toList.dropWhile fun c => c ≠ '=' with
  | nil => simpa using List.dropWhile_eq_nil_iff.mp hrest '=' h
  | cons c rest =>
    have hc := List.head_dropWhile_not (fun c => decide (c ≠ '=')) (by rw [hrest]; exact List.cons_ne_nil c rest)
    simp only [hrest, List.head_cons, decide_eq_false_iff_not, not_not] at hc
    rw [hrest, hc] at hsplit
    apply String.toList_inj.mp
    rw [partitionEq, hrest]
    simpa [PyStr.before] using hsplit

theorem partitionEq_fst_append (item value : String) :
    partitionEq ((partitionEq item).1 ++ "=" ++ value) = ((partitionEq item).1, value) := by
  have hkey : ∀ c ∈ item.toList.takeWhile fun c => !decide (c = '='), (!decide (c = '=')) = true := by
    intro c hc
    exact List.mem_takeWhile_imp (p := fun c => !decide (c = '=')) hc
  simp [partitionEq, PyStr.before, List.takeWhile_append_of_pos hkey,
    List.dropWhile_append_of_pos hkey]

/-- An entry keeps its variable, and is unchanged exactly if its value is. -/
theorem resolveItem_str {item item' : String}
    (h : resolveItem getValue (.str item) = .ok (.str item')) :
    (partitionEq item').1 = (partitionEq item).1 ∧
      ((partitionEq item).2 = (partitionEq item').2 ↔ item' = item) := by
  rw [resolveItem] at h
  split_ifs at h with heq
  · cases hvalue : resolveOne getValue (partitionEq item).2 with
    | error text =>
      rw [hvalue] at h
      cases h
    | ok value =>
      rw [hvalue] at h
      cases h
      rw [partitionEq_fst_append]
      refine ⟨rfl, ?_, ?_⟩
      · rintro rfl
        exact partitionEq_join heq
      · intro hitem
        exact (congrArg Prod.snd (partitionEq_fst_append item value)).symm.trans
          (by rw [hitem]) |>.symm
  · cases h
    simp

theorem strings_resolveItem {item r : Json} (h : resolveItem getValue item = .ok r) :
    (∃ t t', item = .str t ∧ r = .str t') ∨ (r = item ∧ ∀ t, item ≠ .str t) := by
  unfold resolveItem at h
  split at h
  next text =>
    left
    split_ifs at h
    · cases hvalue : resolveOne getValue (partitionEq text).2 with
      | error text =>
        rw [hvalue] at h
        cases h
      | ok value =>
        rw [hvalue] at h
        cases h
        exact ⟨_, _, rfl, rfl⟩
    · cases h
      exact ⟨_, _, rfl, rfl⟩
  next hno =>
    cases h
    exact .inr ⟨rfl, fun t ht => hno t ht⟩

/-- The texts of the list and of the resolved list correspond. -/
theorem forall₂_strings {resolved : List Json} (h : resolveRefs getValue env = .ok resolved) :
    resolved.length = env.length ∧ List.Forall₂
      (fun item item' => resolveItem getValue (.str item) = .ok (.str item'))
      (Json.strings env) (Json.strings resolved) := by
  induction env generalizing resolved with
  | nil =>
    cases h
    exact ⟨rfl, .nil⟩
  | cons item env ih =>
    rw [resolveRefs, List.mapM_cons] at h
    cases hitem : resolveItem getValue item with
    | error text =>
      rw [hitem] at h
      cases h
    | ok r =>
      cases hrest : env.mapM (resolveItem getValue) with
      | error text =>
        rw [hitem, hrest] at h
        cases h
      | ok rest =>
        rw [hitem, hrest] at h
        cases h
        obtain ⟨hlength, htexts⟩ := ih hrest
        refine ⟨congrArg (· + 1) hlength, ?_⟩
        rcases strings_resolveItem hitem with ⟨t, t', rfl, rfl⟩ | ⟨rfl, hno⟩
        · exact .cons hitem htexts
        · cases r with
          | str t => exact absurd rfl (hno t)
          | _ => exact htexts

theorem same_putEnv_iff {items items' : List String}
    (h : List.Forall₂ (fun item item' => resolveItem getValue (.str item) = .ok (.str item'))
      items items') (host host' : Table String String) :
    (∀ name, (putEnv host items).get name = (putEnv host' items').get name) ↔
      (∀ name ∉ keys items, host.get name = host'.get name) ∧ ¬ Exposed getValue items := by
  induction h generalizing host host' with
  | nil => simp [putEnv, keys, Exposed]
  | @cons item item' rest rest' hitem _ ih =>
    obtain ⟨hkey, hvalue⟩ := resolveItem_str hitem
    have hsame : resolveItem getValue (.str item) = .ok (.str item) ↔
        (partitionEq item).2 = (partitionEq item').2 := by
      rw [hitem, hvalue]
      simp
    rw [putEnv, putEnv, List.foldl_cons, List.foldl_cons, ← putEnv, ← putEnv, ih, hkey, Exposed,
      not_or, not_and_not_right, ← and_assoc, Ne, hsame]
    refine and_congr_left fun _ => ?_
    have hkeys : ∀ name, name ∉ keys (item :: rest) ↔
        name ≠ (partitionEq item).1 ∧ name ∉ keys rest := by simp [keys]
    simp only [Table.get_put, hkeys]
    constructor
    · intro hget
      refine ⟨fun name hname => ?_, fun hchanged => ?_⟩
      · simpa [hname.1] using hget name hname.2
      · by_contra hlast
        exact hchanged (by simpa using hget _ hlast)
    · rintro ⟨hhost, hlast⟩ name hname
      split_ifs with heq
      · rw [not_imp_comm.mp hlast (heq ▸ hname)]
      · exact hhost name ⟨heq, hname⟩

/-- **The environment of a workload** is the resolved one, except for a process with an entry that the
resolution changes. -/
theorem workload_env_resolved_iff :
    EnvResolved getValue host kind env ↔ (kind = .process → (resolveRefs getValue env).isOk →
      (Json.strings env).length = env.length → ¬ Exposed getValue (Json.strings env)) := by
  rw [EnvResolved, runEnv]
  cases hresolved : resolveRefs getValue env with
  | error text => simp [Except.isOk, Except.toBool]
  | ok resolved =>
    obtain ⟨hlength, htexts⟩ := forall₂_strings hresolved
    cases kind with
    | container =>
      simp only [reduceCtorEq, false_implies, iff_true]
      cases launch host .container resolved <;> simp [Launch.Same]
    | process =>
      simp only [Except.isOk, Except.toBool, forall_const, launch, ← htexts.length_eq, hlength]
      split_ifs with htext
      · simp [Launch.Same, htext]
      · rw [not_not] at htext
        simp only [Launch.Same, same_putEnv_iff htexts, implies_true, true_and, htext, forall_const]

/-- A process gets the reference. -/
theorem reference_reaches_process :
    runEnv (fun _ => some "v") ∅ .process [.str "K=secret://n"] =
        .process (Table.put ∅ "K" "secret://n") ∧
      resolveRefs (fun _ => some "v") [.str "K=secret://n"] = .ok [.str "K=v"] ∧
      ¬ EnvResolved (fun _ => some "v") ∅ .process [.str "K=secret://n"] := by
  refine ⟨rfl, rfl, fun h => ?_⟩
  have hname := h "K"
  revert hname
  decide

end NexusGrid.Replica

import NexusGrid.Lib.Raises
import NexusGrid.Replica.Build

/-! # What a node publishes of its services

`normalize_hosted_services` (`core/config.py`), and `public_services`, which leaves out what only the
host needs. Two lists are alike when they differ in the host's fields only (`ServiceAlike`); what they
are published as can then differ only by a port that is read and whose `int` raises.
-/

namespace NexusGrid.Services

open Lib

/-- The exceptions of the normaliser; some places catch `TypeError` and `ValueError`. -/
inductive Exc
  | invalid
  | overflow
  | notSliceable
deriving DecidableEq

structure Py where
  repr : Json → String
  int : Json → Except Exc Int
  isdigit : String → Bool

namespace Py

variable (py : Py)

/-- `try: int(v)` with `default` after a `TypeError` or a `ValueError`. -/
def intElse {α : Type} (v : Json) (default : α) (f : Int → α) : Except Exc α :=
  match py.int v with
  | .ok n => .ok (f n)
  | .error .invalid => .ok default
  | .error e => .error e

/-- `str(d.get(k) or "").strip()`. -/
def field (fields : List (String × Json)) (k : String) : String := PyStr.strip (Json.textAt py.repr fields k)

/-- `normalize_bool(v, False)`. -/
def normalizeBool : Json → Bool
  | .bool b => b
  | .int n => n ≠ 0
  | .float t => (Json.float t).truthy
  | .str s => PyStr.lower (PyStr.strip s) ∈ ["1", "true", "yes", "on", "enabled"]
  | _ => false

def normalizeListField : Json → List String
  | .arr items => (items.map fun v => PyStr.strip (v.text py.repr)).filter (· ≠ "")
  | .str s => PyStr.splitCsv s
  | _ => []

/-- The tags, lower and at most `cap`. -/
def tags (fields : List (String × Json)) (cap : Nat) : Json :=
  .arr ((((py.normalizeListField (Json.get fields "tags")).map PyStr.lower).take cap).map .str)

/-- `(v or [])[:n]`. -/
def firstItems (n : Nat) (v : Json) : Except Exc (List Json) :=
  if !v.truthy then .ok []
  else match v with
    | .arr items => .ok (items.take n)
    | .str s => .ok ((s.toList.take n).map fun c => .str (String.singleton c))
    | _ => .error .notSliceable

def keepPort (ports : List Int) (p : Json) : Except Exc (List Int) :=
  py.intElse p ports fun n => if 0 < n ∧ n < 65536 ∧ n ∉ ports then ports ++ [n] else ports

def envItem (v : Json) : Option Json :=
  let e := PyStr.strip (v.text py.repr)
  if '=' ∈ e.toList ∧ e.length ≤ 200 then some (.str e) else none

def gpuRequest : Json → Except Exc (Option Json)
  | .bool b => .ok (if b then some (.bool b) else none)
  | .int n => .ok (if 1 ≤ n then some (.int n) else none)
  | .float t => .ok (if t = "1.0" then some (.float t) else none)
  | .str s =>
    let s := PyStr.strip s
    if s = "all" ∨ s = "-1" then .ok (some (.str s))
    else if py.isdigit s then (py.int (.str s)).map fun n => if 1 ≤ n then some (.str s) else none
    else .ok none
  | _ => .ok none

def normalizeRunSpec : Json → Except Exc (List (String × Json))
  | .obj value => do
    let image := PyStr.take 200 (py.field value "image")
    let cmd := PyStr.take 500 (py.field value "cmd")
    let build := Replica.normalizeBuildContext py.repr (Json.get value "build")
    let inputs := Replica.normalizeInputs py.repr (Json.get value "inputs")
    if image = "" ∧ cmd = "" ∧ build.isEmpty then .ok []
    else
      let env ← firstItems 30 (Json.get value "env")
      let ports ← (← firstItems 12 (Json.get value "ports")).foldlM py.keepPort []
      let gpu ← py.gpuRequest (Json.get value "gpu")
      .ok ([("image", .str image), ("cmd", .str cmd), ("env", .arr (env.filterMap py.envItem)),
          ("ports", .arr (ports.map .int))] ++
        (if build.isEmpty then [] else [("build", .obj build)]) ++
        (if inputs.isEmpty then [] else [("inputs", .arr inputs)]) ++ (gpu.map (("gpu", ·))).toList)
  | _ => .ok []

def normalizeDbProvider : Json → Json
  | .obj value =>
    let engine := PyStr.take 40 (PyStr.lower (py.field value "engine"))
    let adminDsn := PyStr.take 500 (py.field value "admin_dsn")
    .obj (if engine = "" ∨ adminDsn = "" then [] else [("engine", .str engine), ("admin_dsn", .str adminDsn)])
  | _ => .obj []

/-- The port of `local_port`, or `0`. -/
def localPort (fields : List (String × Json)) : Except Exc Json :=
  let v := Json.get fields "local_port"
  if v.truthy then py.intElse v (.int 0) fun n => .int (if 0 < n ∧ n < 65536 then n else 0) else .ok (.int 0)

def localHost (fields : List (String × Json)) : Json :=
  let host := PyStr.take 120 (py.field fields "local_host")
  .str (if host = "" then "127.0.0.1" else host)

/-- Items without a name are left out, and the list is full after `left` others. -/
def collect (f : Json → Except Exc (Option Json)) : Nat → List Json → Except Exc (List Json)
  | _, [] => .ok []
  | left, item :: rest =>
    f item >>= fun
      | none => collect f left rest
      | some s => if left ≤ 1 then .ok [s] else (s :: ·) <$> collect f (left - 1) rest

def normalizeComponent : Json → Except Exc (Option Json)
  | .obj c =>
    let name := PyStr.take 60 (py.field c "name")
    if name = "" then .ok none
    else (py.localPort c).map fun port => some (.obj [("name", .str name),
      ("protocol", .str (PyStr.take 40 (py.field c "protocol"))), ("tags", py.tags c 10),
      ("pump", .str (PyStr.take 60 (py.field c "pump"))), ("local_host", py.localHost c), ("local_port", port)])
  | _ => .ok none

def normalizeComponents : Json → Except Exc (List Json)
  | .arr items => collect py.normalizeComponent 12 items
  | _ => .ok []

def access (fields : List (String × Json)) : String :=
  let access := PyStr.lower (PyStr.strip (Json.textOr py.repr fields "access" "free"))
  if access ∈ ["free", "permission", "paid"] then access else "free"

/-- The entry for a service. -/
def service (item : List (String × Json)) (name : String) (port : Json) (components : List Json)
    (spec : List (String × Json)) : Json :=
  .obj [("name", .str name), ("description", .str (PyStr.take 400 (py.field item "description"))),
    ("version", .str (PyStr.take 40 (py.field item "version"))), ("access", .str (py.access item)),
    ("tags", py.tags item 20), ("readme", .str (PyStr.take 20000 (Json.textAt py.repr item "readme"))),
    ("pump", .str (PyStr.take 60 (py.field item "pump"))),
    ("replicable", .bool (normalizeBool (Json.get item "replicable"))), ("run", .obj spec),
    ("components", .arr components), ("local_host", py.localHost item), ("local_port", port),
    ("service_kind", .str (PyStr.take 40 (PyStr.lower (py.field item "service_kind")))),
    ("db_provider", py.normalizeDbProvider (Json.get item "db_provider"))]

def normalizeService : Json → Except Exc (Option Json)
  | .obj item =>
    let name := PyStr.take 80 (py.field item "name")
    if name = "" then .ok none
    else
      py.localPort item >>= fun port =>
      py.normalizeComponents (Json.get item "components") >>= fun components =>
      py.normalizeRunSpec (Json.get item "run") >>= fun spec => .ok (some (py.service item name port components spec))
  | _ => .ok none

def normalizeHostedServices : Json → Except Exc (List Json)
  | .arr items => collect py.normalizeService 50 items
  | _ => .ok []

end Py

def servicePrivateFields : List String := ["local_host", "local_port", "db_provider"]

def publicFields (fields : List (String × Json)) : List (String × Json) :=
  fields.filter fun f => f.1 ∉ servicePrivateFields

def publicComponent : Json → Option Json
  | .obj c => some (.obj (publicFields c))
  | _ => none

def publicComponents : Json → Json
  | .arr cs => .arr (cs.filterMap publicComponent)
  | v => v

def publicService : Json → Option Json
  | .obj s => some (.obj ((publicFields s).map fun f => if f.1 = "components" then (f.1, publicComponents f.2) else f))
  | _ => none

def publicServices (services : List Json) : List Json := services.filterMap publicService

def published (py : Py) (value : Json) : Except Exc (List Json) := (py.normalizeHostedServices value).map publicServices

def ComponentAlike (a b : Json) : Prop :=
  a = b ∨ ∃ c d, a = .obj c ∧ b = .obj d ∧ ∀ k ∉ servicePrivateFields, c.lookup k = d.lookup k

def ComponentsAlike (a b : Json) : Prop :=
  a = b ∨ ∃ cs ds, a = .arr cs ∧ b = .arr ds ∧ List.Forall₂ ComponentAlike cs ds

def ServiceAlike (a b : Json) : Prop :=
  a = b ∨ ∃ s t, a = .obj s ∧ b = .obj t ∧ (∀ k ∉ servicePrivateFields, k ≠ "components" → s.lookup k = t.lookup k) ∧
    ComponentsAlike (Json.get s "components") (Json.get t "components")

def Py.named (py : Py) (width : Nat) : Json → Bool
  | .obj fields => PyStr.take width (py.field fields "name") ≠ ""
  | _ => false

/-- `int` of the port raises nothing but what is caught. -/
def PortOk (py : Py) (v : Json) : Prop := ∀ fields, v = .obj fields → ∃ port, py.localPort fields = .ok port

/-- The entries that are read: those with a name, up to the cap. -/
def Py.read (py : Py) (width cap : Nat) (items : List Json) : List Json :=
  (items.filter (py.named width)).take cap

def PortsOk (py : Py) (v : Json) : Prop :=
  PortOk py v ∧ ∀ fields cs, v = .obj fields → Json.get fields "components" = .arr cs →
    ∀ c ∈ py.read 60 12 cs, PortOk py c

section Alike

variable {py : Py} {a b : Json} {c d : List (String × Json)}

theorem get_congr {k : String} (h : c.lookup k = d.lookup k) : Json.get c k = Json.get d k := by
  unfold Json.get
  rw [h]

theorem field_congr {k : String} (h : c.lookup k = d.lookup k) : py.field c k = py.field d k := by
  unfold Py.field Json.textAt
  rw [get_congr h]

theorem collect_congr {f : Json → Except Exc (Option Json)} {p : Json → Option Json} {xs ys : List Json}
    (h : List.Forall₂ (fun a b => (f a).map (Option.map p) = (f b).map (Option.map p)) xs ys) (left : Nat) :
    (Py.collect f left xs).map (List.map p) = (Py.collect f left ys).map (List.map p) := by
  induction h generalizing left with
  | nil => rfl
  | @cons a b xs ys hab _ ih =>
    refine map_bind_congr hab fun r s hrs => ?_
    cases r with
    | none =>
      cases s with
      | none => exact ih left
      | some s => cases hrs
    | some r =>
      cases s with
      | none => cases hrs
      | some s =>
        have hp : p r = p s := Option.some.inj hrs
        dsimp only
        split
        · exact congrArg (fun q => Except.ok [q]) hp
        · exact map_bind_congr (ih _) fun l l' hl => by simp [Except.map, hp, hl]

theorem collect_read {f : Json → Except Exc (Option Json)} {width : Nat}
    (hskip : ∀ v, py.named width v = false → f v = .ok none)
    (hkeep : ∀ v, py.named width v = true → f v ≠ .ok none) {left : Nat} (hleft : 0 < left) (items : List Json) :
    Py.collect f left items = Py.collect f left (py.read width left items) := by
  induction items generalizing left with
  | nil => simp [Py.read]
  | cons item items ih =>
    cases hnamed : py.named width item with
    | false =>
      simp only [Py.read, List.filter_cons, hnamed, Bool.false_eq_true, if_false] at ih ⊢
      rw [Py.collect, hskip item hnamed]
      exact ih hleft
    | true =>
      obtain ⟨n, rfl⟩ := Nat.exists_eq_add_of_lt hleft
      simp only [Py.read, List.filter_cons, hnamed, if_true, Nat.zero_add, List.take_succ_cons] at ih ⊢
      cases hitem : f item with
      | error e => simp [Py.collect, hitem, bind, Except.bind]
      | ok r =>
        cases r with
        | none => exact absurd hitem (hkeep item hnamed)
        | some s =>
          simp only [Py.collect, hitem, bind, Except.bind, Nat.add_sub_cancel]
          split_ifs with hlast
          · rfl
          · rw [ih (by omega)]

theorem ok_of_collect {f : Json → Except Exc (Option Json)} {items out : List Json} {left : Nat}
    (hlength : items.length ≤ left) (h : Py.collect f left items = .ok out) :
    ∀ v ∈ items, ∃ r, f v = .ok r := by
  induction items generalizing left out with
  | nil => exact fun v hv => absurd hv List.not_mem_nil
  | cons item items ih =>
    rw [List.length_cons] at hlength
    cases hitem : f item with
    | error e =>
      rw [Py.collect, hitem] at h
      cases h
    | ok r =>
      have hrest : ∀ v ∈ items, ∃ r, f v = .ok r := by
        rw [Py.collect, hitem] at h
        cases r with
        | none => exact ih (Nat.le_of_succ_le hlength) h
        | some s =>
          dsimp only [bind, Except.bind] at h
          split_ifs at h with hlast
          · have hnil : items = [] := List.length_eq_zero_iff.mp (by omega)
            simp [hnil]
          · cases hmore : Py.collect f (left - 1) items with
            | error e =>
              rw [hmore] at h
              cases h
            | ok more => exact ih (by omega) hmore
      intro v hv
      rcases List.mem_cons.mp hv with rfl | hv
      · exact ⟨r, hitem⟩
      · exact hrest v hv

theorem component_skip (v : Json) (h : py.named 60 v = false) : py.normalizeComponent v = .ok none := by
  cases v with
  | obj c => simp_all [Py.named, Py.normalizeComponent]
  | _ => rfl

theorem component_keep (v : Json) (h : py.named 60 v = true) : py.normalizeComponent v ≠ .ok none := by
  cases v with
  | obj c =>
    simp only [Py.named, decide_eq_true_eq] at h
    simp only [Py.normalizeComponent, if_neg h]
    cases py.localPort c <;> simp [Except.map]
  | _ => cases h

theorem service_skip (v : Json) (h : py.named 80 v = false) : py.normalizeService v = .ok none := by
  cases v with
  | obj c => simp_all [Py.named, Py.normalizeService]
  | _ => rfl

/-- What the normalisation of a service has read. -/
theorem service_parts {fields : List (String × Json)} {r : Option Json} (h : py.named 80 (.obj fields) = true)
    (hr : py.normalizeService (.obj fields) = .ok r) : r ≠ none ∧ (∃ port, py.localPort fields = .ok port) ∧
      ∃ cs, py.normalizeComponents (Json.get fields "components") = .ok cs := by
  simp only [Py.named, decide_eq_true_eq] at h
  simp only [Py.normalizeService, if_neg h] at hr
  cases hport : py.localPort fields with
  | error e =>
    rw [hport] at hr
    cases hr
  | ok port =>
    cases hcs : py.normalizeComponents (Json.get fields "components") with
    | error e =>
      rw [hport, hcs] at hr
      cases hr
    | ok cs =>
      refine ⟨?_, ⟨port, rfl⟩, cs, rfl⟩
      rintro rfl
      rw [hport, hcs] at hr
      cases hspec : py.normalizeRunSpec (Json.get fields "run") with
      | error e =>
        rw [hspec] at hr
        cases hr
      | ok spec =>
        rw [hspec] at hr
        cases hr

theorem service_keep (v : Json) (h : py.named 80 v = true) : py.normalizeService v ≠ .ok none := by
  cases v with
  | obj fields => exact fun hr => (service_parts h hr).1 rfl
  | _ => cases h

theorem named_of_mem_read {width cap : Nat} {items : List Json} {v : Json} (h : v ∈ py.read width cap items) :
    py.named width v = true :=
  (List.mem_filter.mp (List.mem_of_mem_take h)).2

theorem portsOk_of_normalizeService {v : Json} {r : Option Json} (h : py.named 80 v = true)
    (hr : py.normalizeService v = .ok r) : PortsOk py v := by
  cases v with
  | obj fields =>
    obtain ⟨-, hport, cs, hcs⟩ := service_parts h hr
    refine ⟨fun _ heq => (Json.obj.inj heq) ▸ hport, fun _ items heq hitems c hc => ?_⟩
    cases heq
    rw [hitems, Py.normalizeComponents, collect_read component_skip component_keep (by decide) _] at hcs
    obtain ⟨out, hout⟩ := ok_of_collect (List.length_take_le ..) hcs c hc
    have hnamed := named_of_mem_read hc
    rintro fields' rfl
    simp only [Py.named, decide_eq_true_eq] at hnamed
    simp only [Py.normalizeComponent, if_neg hnamed] at hout
    cases hlocal : py.localPort fields' with
    | error e =>
      rw [hlocal] at hout
      cases hout
    | ok port => exact ⟨port, rfl⟩
  | _ => cases h

theorem forall₂_read {R : Json → Json → Prop} {width cap : Nat} {xs ys : List Json}
    (h : List.Forall₂ R xs ys) (hnamed : ∀ a b, R a b → py.named width a = py.named width b) :
    List.Forall₂ R (py.read width cap xs) (py.read width cap ys) := by
  refine List.forall₂_take cap ?_
  induction h with
  | nil => exact .nil
  | @cons a b xs ys hab _ ih =>
    rw [List.filter_cons, List.filter_cons, hnamed a b hab]
    split
    · exact .cons hab ih
    · exact ih

theorem component_congr (h : ComponentAlike a b) (ha : PortOk py a) (hb : PortOk py b) :
    (py.normalizeComponent a).map (Option.map publicComponent) =
      (py.normalizeComponent b).map (Option.map publicComponent) := by
  obtain rfl | ⟨c, d, rfl, rfl, hlook⟩ := h
  · rfl
  have hname : py.field c "name" = py.field d "name" := field_congr (hlook "name" (by decide))
  have hget (k : String) (hk : k ∉ servicePrivateFields) : Json.get c k = Json.get d k := get_congr (hlook k hk)
  obtain ⟨port, hport⟩ := ha c rfl
  obtain ⟨port', hport'⟩ := hb d rfl
  simp only [Py.normalizeComponent, hname]
  split
  · rfl
  rw [hport, hport']
  simp [Except.map, publicComponent, publicFields, servicePrivateFields, Py.field, Py.tags, Json.textAt,
    hget "protocol" (by decide), hget "tags" (by decide), hget "pump" (by decide)]

theorem filterMap_congr_map {p : Json → Option Json} {xs ys : List Json} (h : xs.map p = ys.map p) :
    xs.filterMap p = ys.filterMap p := by
  have hid (zs : List Json) : zs.filterMap p = (zs.map p).filterMap id := by simp [List.filterMap_map]
  rw [hid, hid, h]

theorem forall₂_imp_mem {R S : Json → Json → Prop} {xs ys : List Json} (h : List.Forall₂ R xs ys)
    (himp : ∀ x ∈ xs, ∀ y ∈ ys, R x y → S x y) : List.Forall₂ S xs ys := by
  induction h with
  | nil => exact .nil
  | cons hxy _ ih =>
    refine .cons (himp _ (.head _) _ (.head _) hxy) (ih fun x hx y hy => ?_)
    exact himp x (.tail _ hx) y (.tail _ hy)

theorem ComponentAlike.named (h : ComponentAlike a b) : py.named 60 a = py.named 60 b := by
  obtain rfl | ⟨c, d, rfl, rfl, hlook⟩ := h
  · rfl
  · rw [Py.named, Py.named, field_congr (hlook "name" (by decide))]

theorem ServiceAlike.named (h : ServiceAlike a b) : py.named 80 a = py.named 80 b := by
  obtain rfl | ⟨c, d, rfl, rfl, hlook, -⟩ := h
  · rfl
  · rw [Py.named, Py.named, field_congr (hlook "name" (by decide) (by decide))]

theorem components_congr (h : ComponentsAlike a b)
    (ha : ∀ cs, a = .arr cs → ∀ c ∈ py.read 60 12 cs, PortOk py c)
    (hb : ∀ cs, b = .arr cs → ∀ c ∈ py.read 60 12 cs, PortOk py c) :
    (py.normalizeComponents a).map (List.map publicComponent) =
      (py.normalizeComponents b).map (List.map publicComponent) := by
  obtain rfl | ⟨cs, ds, rfl, rfl, halike⟩ := h
  · rfl
  rw [Py.normalizeComponents, Py.normalizeComponents, collect_read component_skip component_keep (by decide) _,
    collect_read component_skip component_keep (by decide) ds]
  refine collect_congr (forall₂_imp_mem (forall₂_read halike fun _ _ h => h.named) fun c hc d hd hcd => ?_) 12
  exact component_congr hcd (ha cs rfl c hc) (hb ds rfl d hd)

theorem service_public {s t : List (String × Json)}
    (hlook : ∀ k ∉ servicePrivateFields, k ≠ "components" → s.lookup k = t.lookup k) {cs ds : List Json}
    (hcs : cs.map publicComponent = ds.map publicComponent) (name : String) (port port' : Json)
    (spec : List (String × Json)) :
    publicService (py.service s name port cs spec) = publicService (py.service t name port' ds spec) := by
  have hget (k : String) (hk : k ∉ servicePrivateFields ∧ k ≠ "components") : Json.get s k = Json.get t k :=
    get_congr (hlook k hk.1 hk.2)
  have hpublic := filterMap_congr_map hcs
  simp [publicService, publicFields, servicePrivateFields, publicComponents, hpublic, Py.service, Py.field, Py.access,
    Py.tags, Json.textAt, Json.textOr, hget "description" (by decide), hget "version" (by decide),
    hget "access" (by decide), hget "tags" (by decide), hget "readme" (by decide), hget "pump" (by decide),
    hget "replicable" (by decide), hget "service_kind" (by decide)]

/-- Alike services with ports that `int` takes come out alike. -/
theorem service_congr (h : ServiceAlike a b) (ha : PortsOk py a) (hb : PortsOk py b) :
    (py.normalizeService a).map (Option.map publicService) =
      (py.normalizeService b).map (Option.map publicService) := by
  obtain rfl | ⟨s, t, rfl, rfl, hlook, hcomp⟩ := h
  · rfl
  have hname : py.field s "name" = py.field t "name" := field_congr (hlook "name" (by decide) (by decide))
  have hrun : Json.get s "run" = Json.get t "run" := get_congr (hlook "run" (by decide) (by decide))
  have hports : (py.localPort s).map (fun _ => ()) = (py.localPort t).map (fun _ => ()) := by
    obtain ⟨port, hport⟩ := ha.1 s rfl
    obtain ⟨port', hport'⟩ := hb.1 t rfl
    rw [hport, hport']
    rfl
  have hcomponents := components_congr hcomp (fun cs hcs => ha.2 s cs rfl hcs) (fun cs hcs => hb.2 t cs rfl hcs)
  simp only [Py.normalizeService, hname, hrun]
  split
  · rfl
  refine map_bind_congr hports fun port port' _ => map_bind_congr hcomponents fun cs ds hcs =>
    map_bind_congr (p := id) rfl fun spec spec' hspec => ?_
  obtain rfl : spec = spec' := hspec
  exact congrArg (fun out => Except.ok (some out)) (service_public hlook hcs _ port port' spec)

end Alike

theorem published_congr (py : Py) {xs ys : List Json} (halike : List.Forall₂ ServiceAlike xs ys)
    (hxs : ∀ s ∈ py.read 80 50 xs, PortsOk py s) (hys : ∀ s ∈ py.read 80 50 ys, PortsOk py s) :
    published py (.arr xs) = published py (.arr ys) := by
  have hlists := collect_congr (forall₂_imp_mem (forall₂_read halike fun _ _ h => h.named)
    fun s hs t ht hst => service_congr hst (hxs s hs) (hys t ht)) 50
  have hmap (r : Except Exc (List Json)) :
      r.map publicServices = (r.map (List.map publicService)).map (List.filterMap id) := by
    cases r <;> simp [Except.map, publicServices, List.filterMap_map]
  rw [published, published, Py.normalizeHostedServices, Py.normalizeHostedServices,
    collect_read service_skip service_keep (by decide) _,
    collect_read service_skip service_keep (by decide) ys]
  exact (hmap _).trans ((congrArg _ hlists).trans (hmap _).symm)

/-- Of a list that is published, every port that is read is one that `int` takes. -/
theorem portsOk_of_published {xs out : List Json} (h : published py (.arr xs) = .ok out) :
    ∀ s ∈ py.read 80 50 xs, PortsOk py s := by
  intro s hs
  rw [published, Py.normalizeHostedServices, collect_read service_skip service_keep (by decide) xs] at h
  cases hall : Py.collect py.normalizeService 50 (py.read 80 50 xs) with
  | error e =>
    rw [hall] at h
    cases h
  | ok services =>
    obtain ⟨r, hr⟩ := ok_of_collect (List.length_take_le ..) hall s hs
    exact portsOk_of_normalizeService (named_of_mem_read hs) hr

/-- **What peers are served** does not depend on the host's fields if all ports that are read can be taken
by `int`; and where one list is published, an alike one is published as the same only then. -/
theorem published_alike_iff (py : Py) (xs ys : List Json) (halike : List.Forall₂ ServiceAlike xs ys) :
    ((∀ s ∈ py.read 80 50 xs, PortsOk py s) → (∀ s ∈ py.read 80 50 ys, PortsOk py s) →
      published py (.arr xs) = published py (.arr ys)) ∧
    ∀ out, published py (.arr xs) = .ok out →
      (published py (.arr ys) = published py (.arr xs) ↔ ∀ s ∈ py.read 80 50 ys, PortsOk py s) := by
  refine ⟨published_congr py halike, fun out hout => ⟨fun hsame => ?_, fun hys => ?_⟩⟩
  · exact portsOk_of_published (hsame.trans hout)
  · exact (published_congr py halike (portsOk_of_published hout) hys).symm

def Py.plain : Py where
  repr _ := ""
  int
    | .int n => .ok n
    | .float t => .error (if t = "inf" then .overflow else .invalid)
    | _ => .error .invalid
  isdigit _ := false

/-- A profile with one service at a port. -/
def oneService (port : Json) : Json := .obj [("name", .str "s"), ("local_port", port)]

theorem oneService_alike (port port' : Json) : ServiceAlike (oneService port) (oneService port') := by
  refine .inr ⟨_, _, rfl, rfl, fun k hk _ => ?_, .inl rfl⟩
  have hport : (k == "local_port") = false := beq_false_of_ne fun h => hk (h ▸ by decide)
  simp only [List.lookup_cons, hport]

theorem published_alike_iff_ports :
    published .plain (.arr [oneService (.int 5432)]) = published .plain (.arr [oneService (.int 80)]) := by
  have hiff := (published_alike_iff .plain [oneService (.int 80)] [oneService (.int 5432)]
    (.cons (oneService_alike _ _) .nil)).2 _ rfl
  refine hiff.mpr fun s hs => ⟨?_, ?_⟩
  all_goals cases List.mem_singleton.mp (List.mem_of_mem_filter (List.mem_of_mem_take hs))
  · rintro fields ⟨⟩
    exact ⟨_, rfl⟩
  · rintro fields cs ⟨⟩ ⟨⟩

/-- An infinite port is not published. -/
theorem infinite_port_raises : List.Forall₂ ServiceAlike [oneService (.float "inf")] [oneService (.int 80)] ∧
    published .plain (.arr [oneService (.float "inf")]) = .error .overflow ∧
    ∃ out, published .plain (.arr [oneService (.int 80)]) = .ok out :=
  ⟨.cons (oneService_alike _ _) .nil, by rfl, _, rfl⟩

end NexusGrid.Services

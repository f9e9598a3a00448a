import NexusGrid.Lib.Json
import NexusGrid.Lib.Paths
import Mathlib.Algebra.GroupWithZero.Nat

/-! # Build contexts of replicas

A provider may publish a service with a Dockerfile and files to build its image from.
-/

namespace NexusGrid.Replica

open Lib

/-- `s.replace("\\", "/").lstrip("/")`. -/
def slashes (cs : List Char) : List Char := (cs.map fun c => if c = '\\' then '/' else c).dropWhile fun c => c = '/'

def pathParts (cs : List Char) : List (List Char) := (PyStr.pieces '/' cs).filter fun p => p ≠ [] ∧ p ≠ ['.']

/-- `_safe_build_path` for a text. -/
def safePath (text : String) : String :=
  let rel := slashes (PyStr.strip text).toList
  if rel = [] ∨ (PyStr.strip (String.ofList rel)).toList ≠ rel then ""
  else if ':' ∈ rel then ""
  else if rel.any fun c => c.toNat < 32 then ""
  else if ['.', '.'] ∈ pathParts rel then ""
  else PyStr.take 200 (String.ofList (['/'].intercalate (pathParts rel)))

def safeBuildPath (repr : Json → String) (rel : Json) : String := safePath (if rel.truthy then rel.text repr else "")

/-- `files[rel] = content`. -/
def setFile (files : List (String × Json)) (rel : String) (content : Json) : List (String × Json) :=
  if (files.lookup rel).isSome then files.map fun f => if f.1 = rel then (rel, content) else f
  else files ++ [(rel, content)]

/-- A path that is refused is left out, a content is cut at 256 KB. -/
def keepFile (repr : Json → String) (files : List (String × Json)) (f : String × Json) : List (String × Json) :=
  let rel := safeBuildPath repr (.str f.1)
  if rel = "" then files else setFile files rel (.str (PyStr.take 262144 (f.2.text repr)))

/-- The files that `_normalize_build_context` keeps. -/
def normalizeFiles (repr : Json → String) (raw : Json) : List (String × Json) :=
  match raw with
  | .obj fields => (fields.take 64).foldl (keepFile repr) []
  | _ => []

def normalizeBuildContext (repr : Json → String) : Json → List (String × Json)
  | .obj fields =>
    let dockerfile := Json.textAt repr fields "dockerfile"
    if PyStr.strip dockerfile = "" then []
    else [("dockerfile", .str (PyStr.take 65536 dockerfile)),
      ("files", .obj (normalizeFiles repr (Json.get fields "files")))]
  | _ => []

def normalizeInputs (repr : Json → String) : Json → List Json
  | .arr items => (items.take 20).filterMap fun
    | .obj fields =>
      let uri := PyStr.take 1000 (PyStr.strip (Json.textAt repr fields "uri"))
      let dest := safeBuildPath repr ((fields.lookup "dest").getD (.str ""))
      if uri ≠ "" ∧ dest ≠ "" then some (.obj [("uri", .str uri), ("dest", .str dest)]) else none
    | _ => none
  | _ => []

structure Settings where
  allowedImages : List String
  /-- `0` for no limit. -/
  buildMaxBytes : Nat := 5 * 1024 * 1024

def imageAllowed (cfg : Settings) (image : String) : Bool :=
  cfg.allowedImages.any fun a => image = a || PyStr.before ':' image = PyStr.before ':' a

/-- What `_from_bases` has found so far. -/
structure Scan where
  bases : List String := []
  stages : List String := []

/-- The name after `AS`. -/
def asName : List String → Option String
  | as :: name :: _ => if PyStr.upper as = "AS" then some name else none
  | _ => none

/-- The words after `FROM`, without flags. -/
def Scan.from (s : Scan) : List String → Scan
  | [] => s
  | img :: rest =>
    { bases := if PyStr.lower img ≠ "scratch" ∧ PyStr.lower img ∉ s.stages then s.bases ++ [img] else s.bases
      stages := s.stages ++ ((asName rest).map PyStr.lower).toList }

def Scan.line (s : Scan) (line : String) : Scan :=
  let text := PyStr.strip line
  if text = "" ∨ PyStr.startsWith text "#" then s
  else match PyStr.words text with
    | [] => s
    | word :: rest =>
      if PyStr.upper word ≠ "FROM" then s else s.from (rest.filter fun t => ¬ PyStr.startsWith t "--")

def fromBases (dockerfile : String) : List String := ((PyStr.splitlines dockerfile).foldl Scan.line {}).bases

/-- `d.get(k) or ""`; `none` when it is no text, so that `.strip` raises. -/
def textField (fields : List (String × Json)) (k : String) : Option String :=
  match Json.get fields k with
  | .str s => some s
  | v => if v.truthy then none else some ""

def buildContextSize (repr : Json → String) (dockerfile : String) (files : List (String × Json)) : Nat :=
  dockerfile.utf8ByteSize + (files.map fun f => (f.2.text repr).utf8ByteSize).sum

/-- `validate_build`: the reason of a refusal; an error when an exception leaves the function. -/
def validateBuild (cfg : Settings) (repr : Json → String) (build : List (String × Json)) :
    Except Unit (Option String) :=
  match textField build "dockerfile" with
  | none => .error ()
  | some dockerfile =>
    if PyStr.strip dockerfile = "" then .ok (some "no_dockerfile")
    else
      match Json.objAt build "files" with
      | none => .error ()
      | some files =>
        let size := buildContextSize repr dockerfile files
        if cfg.buildMaxBytes ≠ 0 ∧ cfg.buildMaxBytes < size then
          .ok (some ("build_too_large:" ++ toString size ++ ">" ++ toString cfg.buildMaxBytes))
        else if fromBases dockerfile = [] then .ok (some "no_from")
        else
          match (fromBases dockerfile).find? fun b => ¬ imageAllowed cfg b with
          | some b => .ok (some ("base_not_allowed:" ++ b))
          | none => .ok none

theorem validateBuild_eq_ok {cfg : Settings} {repr : Json → String} {build : List (String × Json)} :
    validateBuild cfg repr build = .ok none ↔
      ∃ dockerfile files, textField build "dockerfile" = some dockerfile ∧ PyStr.strip dockerfile ≠ "" ∧
        Json.objAt build "files" = some files ∧
        (cfg.buildMaxBytes = 0 ∨ buildContextSize repr dockerfile files ≤ cfg.buildMaxBytes) ∧
        fromBases dockerfile ≠ [] ∧ ∀ b ∈ fromBases dockerfile, imageAllowed cfg b = true := by
  rw [validateBuild]
  constructor
  · intro h
    cases htext : textField build "dockerfile" with
    | none => simp [htext] at h
    | some dockerfile =>
      simp only [htext] at h
      by_cases hempty : PyStr.strip dockerfile = ""
      · simp [hempty] at h
      rw [if_neg hempty] at h
      cases hfiles : Json.objAt build "files" with
      | none => simp [hfiles] at h
      | some files =>
        simp only [hfiles] at h
        split_ifs at h with hsize hnone
        · simp at h
        · simp at h
        split at h
        · simp at h
        next hfind =>
          refine ⟨dockerfile, files, rfl, hempty, rfl, ?_, hnone, fun b hb => ?_⟩
          · rw [not_and_or, not_ne_iff, not_lt] at hsize
            exact hsize
          · simpa using List.find?_eq_none.mp hfind b hb
  · rintro ⟨dockerfile, files, htext, hempty, hfiles, hsize, hnone, hall⟩
    have hfits : ¬ (cfg.buildMaxBytes ≠ 0 ∧ cfg.buildMaxBytes < buildContextSize repr dockerfile files) := by
      rw [not_and_or, not_ne_iff, not_lt]
      exact hsize
    have hfind : (fromBases dockerfile).find? (fun b => ¬ imageAllowed cfg b) = none := by
      rw [List.find?_eq_none]
      intro b hb
      simp [hall b hb]
    simp only [htext, hempty, hfiles, hfits, hnone, hfind, if_false]

end NexusGrid.Replica

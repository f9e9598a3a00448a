import NexusGrid.Lib.Base64
import NexusGrid.Lib.Json
import NexusGrid.Lib.PyStr
import NexusGrid.Lib.Raises

/-! # Links to join a group

`encode_join_link` (`security/group_join_link.py`) packs what a joiner needs into one text, `parse_join_link`
(`parseJoinLink`) unpacks it. The text is the scheme and the JSON payload in base64url without its padding. A link
may come from anyone, so that the parser meets values of every type: `Builtins` has the functions of Python that
it calls, with what they raise, and `tryElse` is its `except (ValueError, TypeError)`.
-/

namespace NexusGrid.Security.JoinLinks

open Lib

/-! ## Values of any type -/

inductive ExcClass
  | typeError
  | valueError
  | jsonDecodeError
  | unicodeDecodeError
  | binasciiError
  | overflowError
  | recursionError
deriving DecidableEq

/-- `issubclass`. -/
def ExcClass.isA : ExcClass → ExcClass → Bool
  | .jsonDecodeError, .valueError => true
  | .unicodeDecodeError, .valueError => true
  | .binasciiError, .valueError => true
  | c, d => c = d

structure Exc where
  cls : ExcClass
  text : String
deriving DecidableEq

/-- `isinstance(e, classes)`, which decides whether `except classes` catches it. -/
def Exc.isOf (classes : List ExcClass) (e : Exc) : Bool := classes.any fun c => e.cls.isA c

/-- The functions of Python and of its libraries that are called. -/
structure Builtins where
  /-- `json.loads(raw)`. -/
  loadsBytes : List UInt8 → Except Exc Json
  /-- `str(v)` of a list or a dict. -/
  repr : Json → Except Exc String
  /-- `base64.urlsafe_b64decode`. -/
  urlsafeB64decode : String → Except Exc (List UInt8)
  /-- `int(text)`. -/
  intOfText : String → Except Exc Int
  /-- `int(x)` of a finite float, by its text. -/
  truncate : String → Int

/-- `type(v).__name__`. -/
def typeName : Json → String
  | .null => "NoneType"
  | .bool _ => "bool"
  | .int _ => "int"
  | .float _ => "float"
  | .str _ => "str"
  | .arr _ => "list"
  | .obj _ => "dict"

section LinkDefs

variable (b : Builtins)

/-- `str(v)`. -/
def str (v : Json) : Except Exc String :=
  match v with
  | .arr _ => b.repr v
  | .obj _ => b.repr v
  | _ => .ok (v.text fun _ => "")

def infinite : Json → Bool
  | .float text => text = "inf" || text = "-inf"
  | _ => false

/-- `int(v)`. -/
def int (v : Json) : Except Exc Int :=
  match v with
  | .int n => .ok n
  | .bool x => .ok (if x then 1 else 0)
  | .str s => b.intOfText s
  | .float text =>
    if infinite v then .error ⟨.overflowError, "cannot convert float infinity to integer"⟩
    else if text = "nan" then .error ⟨.valueError, "cannot convert float NaN to integer"⟩
    else .ok (b.truncate text)
  | _ => .error ⟨.typeError, "int() argument must be a string, a bytes-like object or a real number, not '" ++
      typeName v ++ "'"⟩

/-! ## The link -/

def padded (text : String) : String := text ++ String.ofList (List.replicate ((4 - text.length % 4) % 4) '=')

/-- The class `JoinLink`. -/
structure JoinLink where
  relayUrls : List String
  adminAddress : String
  inviteToken : String
  groupId : String
  adminNodeId : String
  gridKey : String
  version : Int
  signedInviteHex : String
deriving DecidableEq

def valueError (text : String) : Exc := ⟨.valueError, text⟩

/-- `str(payload.get(k) or "")`. -/
def strAt (payload : List (String × Json)) (k : String) : Except Exc String :=
  if (Json.get payload k).truthy then str b (Json.get payload k) else .ok ""

/-- `payload.get("r") or []`, if it is a list. -/
def relayUrls (payload : List (String × Json)) : Option (List Json) :=
  match Json.get payload "r" with
  | .arr items => some items
  | v => if v.truthy then none else some []

/-- `int(payload.get("v") or 1)`. -/
def versionOf (payload : List (String × Json)) : Except Exc Int :=
  if (Json.get payload "v").truthy then int b (Json.get payload "v") else .ok 1

/-- The rest of `parse_join_link`, from the relay URLs on. -/
def readLink (payload : List (String × Json)) (urls : List Json) : Except Exc JoinLink := do
  let inviteToken ← strAt b payload "t"
  let groupId ← strAt b payload "g"
  let signedInviteHex ← strAt b payload "inv"
  if groupId = "" ∨ (inviteToken = "" ∧ signedInviteHex = "") then
    .error (valueError "join link missing required fields 'g' / 't' / 'inv'")
  else
    let adminAddress ← strAt b payload "a"
    let adminNodeId ← strAt b payload "n"
    let gridKey ← strAt b payload "k"
    let version ← versionOf b payload
    let relays ← (urls.filter Json.truthy).mapM (str b)
    .ok ⟨relays, adminAddress, inviteToken, groupId, adminNodeId, gridKey, version, signedInviteHex⟩

/-- The constant `SCHEME`. -/
def joinScheme : String := "nxg://join#"

def parseBlob (blob : String) : Except Exc JoinLink :=
  tryElse (Exc.isOf [.valueError, .typeError]) (b.urlsafeB64decode (padded blob))
    (fun e => .error (valueError ("join link payload is not valid base64url: " ++ e.text))) fun raw =>
  tryElse (Exc.isOf [.valueError, .typeError]) (b.loadsBytes raw)
    (fun e => .error (valueError ("join link payload is not valid JSON: " ++ e.text))) fun payload =>
  match payload with
  | .obj fields =>
    match relayUrls fields with
    | none => .error (valueError "join link 'r' must be a list of strings")
    | some urls => readLink b fields urls
  | _ => .error (valueError "join link payload must be a JSON object")

def linkBlob (link : String) : String := String.ofList (link.toList.drop joinScheme.length)

def parseJoinLink (link : String) : Except Exc JoinLink :=
  if PyStr.strip link = "" then .error (valueError "empty join link")
  else if PyStr.startsWith (PyStr.strip link) joinScheme = false then
    .error (valueError ("join link must start with '" ++ joinScheme ++ "'"))
  else if linkBlob (PyStr.strip link) = "" then .error (valueError "join link has no payload")
  else parseBlob b (linkBlob (PyStr.strip link))

end LinkDefs

/-- The arguments of `encode_join_link`. -/
structure LinkArgs where
  relayUrls : List String
  adminAddress : String
  inviteToken : String
  groupId : String
  adminNodeId : String
  gridKey : String
  signedInviteHex : String

namespace LinkArgs

variable (a : LinkArgs)

def urls : List String := a.relayUrls.filter fun u => u ≠ ""

def payload : List (String × Json) :=
  if a.signedInviteHex ≠ "" then
    [("r", .arr (a.urls.map .str)), ("a", .str a.adminAddress), ("n", .str a.adminNodeId), ("t", .str a.inviteToken),
      ("g", .str a.groupId), ("inv", .str a.signedInviteHex), ("v", .int 2)]
  else
    [("r", .arr (a.urls.map .str)), ("a", .str a.adminAddress), ("n", .str a.adminNodeId), ("k", .str a.gridKey),
      ("t", .str a.inviteToken), ("g", .str a.groupId), ("v", .int 1)]

/-- `encode_join_link`; `dumps` is `json.dumps(.., separators=(",", ":")).encode("utf-8")`. -/
def encodeJoinLink (dumps : List (String × Json) → List UInt8) : Except Exc String :=
  if a.inviteToken = "" ∧ a.signedInviteHex = "" then
    .error (valueError "invite_token or signed_invite_hex must be provided")
  else if a.groupId = "" then .error (valueError "group_id must be non-empty")
  else .ok (joinScheme ++ String.ofList (Base64.rstrip (Base64.encode true (dumps a.payload))))

/-- The link that `parse_join_link` returns. -/
def parsed : JoinLink where
  relayUrls := a.urls
  adminAddress := a.adminAddress
  inviteToken := a.inviteToken
  groupId := a.groupId
  adminNodeId := a.adminNodeId
  gridKey := if a.signedInviteHex ≠ "" then "" else a.gridKey
  version := if a.signedInviteHex ≠ "" then 2 else 1
  signedInviteHex := a.signedInviteHex

end LinkArgs

/-- `json.loads` and `urlsafe_b64decode` read the payload back. -/
structure Reads (b : Builtins) (dumps : List (String × Json) → List UInt8) (payload : List (String × Json)) : Prop where
  nonempty : dumps payload ≠ []
  json : b.loadsBytes (dumps payload) = .ok (.obj payload)
  base64 : ∀ text raw, Base64.decode true text.toList = some raw → b.urlsafeB64decode text = .ok raw

section RoundTrip

variable {b : Builtins} {a : LinkArgs}

theorem strip_of_no_blank {s : List Char} (h : ∀ c ∈ s, PyStr.isSpace c = false) :
    PyStr.strip (String.ofList s) = String.ofList s := by
  have hdrop : ∀ l : List Char, (∀ c ∈ l, PyStr.isSpace c = false) → l.dropWhile PyStr.isSpace = l := by
    intro l hl
    cases l with
    | nil => rfl
    | cons c l => exact List.dropWhile_cons_of_neg (by simp [hl c (.head _)])
  have hreverse : ∀ c ∈ s.reverse, PyStr.isSpace c = false := fun c hc => h c (List.mem_reverse.mp hc)
  rw [PyStr.strip, String.toList_ofList, hdrop s h, hdrop s.reverse hreverse, List.reverse_reverse]

theorem link_text {bytes : List UInt8} (hbytes : bytes ≠ []) {link : String}
    (hlink : link = joinScheme ++ String.ofList (Base64.bare true bytes)) :
    PyStr.strip link = link ∧ link ≠ "" ∧ PyStr.startsWith link joinScheme = true ∧
      linkBlob link = String.ofList (Base64.bare true bytes) ∧ linkBlob link ≠ "" := by
  have hlist : link.toList = joinScheme.toList ++ Base64.bare true bytes := by
    rw [hlink, String.toList_append, String.toList_ofList]
  have hscheme : joinScheme.toList.all (fun c => !PyStr.isSpace c) = true := by decide
  have hdigits : ∀ n < 64, PyStr.isSpace (Base64.digit true n) = false := by decide
  have hblank : ∀ c ∈ link.toList, PyStr.isSpace c = false := by
    intro c hc
    rw [hlist, List.mem_append] at hc
    rcases hc with hc | hc
    · simpa using List.all_eq_true.mp hscheme c hc
    obtain ⟨n, hn, rfl⟩ := Base64.mem_bare hc
    exact hdigits n hn
  have hblob : linkBlob link = String.ofList (Base64.bare true bytes) := by
    have hlen : joinScheme.length = joinScheme.toList.length := rfl
    rw [linkBlob, hlist, hlen, List.drop_left]
  have hbare : Base64.bare true bytes ≠ [] := by
    intro hnil
    fun_cases Base64.bare true bytes <;> simp_all [Base64.bare]
  refine ⟨?_, ?_, ?_, hblob, ?_⟩
  · have hstrip := strip_of_no_blank hblank
    rwa [String.ofList_toList] at hstrip
  · intro hempty
    rw [hempty] at hlist
    cases hlist
  · rw [PyStr.startsWith, List.isPrefixOf_iff_prefix, hlist]
    exact List.prefix_append _ _
  rw [hblob]
  intro hempty
  exact hbare (by simpa using congrArg String.toList hempty)

theorem strAt_of_lookup {payload : List (String × Json)} {k s : String} (h : payload.lookup k = some (.str s)) :
    strAt b payload k = .ok s := by
  unfold strAt Json.get
  rw [h, Option.getD_some]
  by_cases hs : s = ""
  · simp [Json.truthy, hs]
  · simp [Json.truthy, hs, str, Json.text]

theorem strAt_of_missing {payload : List (String × Json)} {k : String} (h : payload.lookup k = none) :
    strAt b payload k = .ok "" := by
  unfold strAt Json.get
  rw [h]
  rfl

theorem mapM_str_urls {l : List String} (h : ∀ s ∈ l, s ≠ "") :
    ((l.map Json.str).filter Json.truthy).mapM (str b) = .ok l := by
  induction l with
  | nil => rfl
  | cons s l ih =>
    rw [List.forall_mem_cons] at h
    have htruthy : (Json.str s).truthy = true := by simpa [Json.truthy] using h.1
    rw [List.map_cons, List.filter_cons_of_pos htruthy, List.mapM_cons, ih h.2]
    rfl

theorem readLink_payload (htoken : ¬ (a.inviteToken = "" ∧ a.signedInviteHex = "")) (hgroup : a.groupId ≠ "") :
    readLink b a.payload (a.urls.map .str) = .ok a.parsed := by
  have hurls : ∀ s ∈ a.urls, s ≠ "" := fun s hs => of_decide_eq_true (List.mem_filter.mp hs).2
  have hfields : strAt b a.payload "t" = .ok a.inviteToken ∧ strAt b a.payload "g" = .ok a.groupId ∧
      strAt b a.payload "inv" = .ok a.signedInviteHex ∧ strAt b a.payload "a" = .ok a.adminAddress ∧
      strAt b a.payload "n" = .ok a.adminNodeId ∧ strAt b a.payload "k" = .ok a.parsed.gridKey ∧
      versionOf b a.payload = .ok a.parsed.version := by
    unfold LinkArgs.payload LinkArgs.parsed
    by_cases hsigned : a.signedInviteHex = ""
    · simp only [hsigned, ne_eq, not_true_eq_false, if_false]
      exact ⟨strAt_of_lookup rfl, strAt_of_lookup rfl, strAt_of_missing rfl, strAt_of_lookup rfl, strAt_of_lookup rfl,
        strAt_of_lookup rfl, rfl⟩
    simp only [hsigned, ne_eq, not_false_eq_true, if_true]
    exact ⟨strAt_of_lookup rfl, strAt_of_lookup rfl, strAt_of_lookup rfl, strAt_of_lookup rfl, strAt_of_lookup rfl,
      strAt_of_missing rfl, rfl⟩
  obtain ⟨ht, hg, hinv, ha, hn, hk, hv⟩ := hfields
  have hgiven : ¬ (a.groupId = "" ∨ (a.inviteToken = "" ∧ a.signedInviteHex = "")) := by
    rintro (hempty | hempty)
    · exact hgroup hempty
    · exact htoken hempty
  simp only [readLink, ht, hg, hinv, ha, hn, hk, hv, mapM_str_urls hurls, bind, Except.bind, if_neg hgiven]
  rfl

theorem relayUrls_payload : relayUrls a.payload = some (a.urls.map .str) := by
  unfold relayUrls LinkArgs.payload
  by_cases hsigned : a.signedInviteHex = "" <;> simp [hsigned, Json.get]

end RoundTrip

/-- **Join links.** -/
theorem join_link_round_trip (b : Builtins) (dumps : List (String × Json) → List UInt8) (a : LinkArgs) :
    (∀ link, a.encodeJoinLink dumps = .ok link → Reads b dumps a.payload → parseJoinLink b link = .ok a.parsed) ∧
    (a.signedInviteHex ≠ "" → ∀ key, ({ a with gridKey := key } : LinkArgs).encodeJoinLink dumps =
      a.encodeJoinLink dumps) := by
  constructor
  · intro link hlink hreads
    unfold LinkArgs.encodeJoinLink at hlink
    split at hlink
    · cases hlink
    next htoken =>
      split at hlink
      · cases hlink
      next hgroup =>
        rw [Base64.rstrip_encode] at hlink
        obtain ⟨hstrip, hne, hstarts, hblob, hblobne⟩ := link_text hreads.nonempty (Except.ok.inj hlink).symm
        have hpad : (padded (linkBlob link)).toList = Base64.encode true (dumps a.payload) := by
          rw [hblob, padded, String.toList_append, String.toList_ofList, String.toList_ofList, String.length_ofList]
          rfl
        have hdecode : b.urlsafeB64decode (padded (linkBlob link)) = .ok (dumps a.payload) :=
          hreads.base64 _ _ (by rw [hpad, Base64.decode_encode])
        rw [parseJoinLink, hstrip, if_neg hne, if_neg (by simp [hstarts]), if_neg hblobne, parseBlob, hdecode]
        simp only [tryElse, hreads.json, relayUrls_payload]
        exact readLink_payload htoken hgroup
  · intro hsigned key
    simp [LinkArgs.encodeJoinLink, LinkArgs.payload, LinkArgs.urls, hsigned]

def exampleLink : LinkArgs := ⟨["", "https://relay"], "host:1", "token", "group", "node", "key", ""⟩

/-- The JSON text of the example. -/
def exampleText : List UInt8 :=
  ("\x7b\"r\":[\"https://relay\"],\"a\":\"host:1\",\"n\":\"node\",\"k\":\"key\"," ++
    "\"t\":\"token\",\"g\":\"group\",\"v\":1\x7d").toList.map fun c => .ofNat c.toNat

/-- Base64 as computed, and the one JSON text. -/
def linkBuiltins : Builtins where
  loadsBytes raw :=
    if raw = exampleText then .ok (.obj exampleLink.payload) else .error ⟨.jsonDecodeError, "Expecting value"⟩
  repr _ := .ok "[]"
  urlsafeB64decode text :=
    ((Base64.decode true text.toList).map .ok).getD (.error ⟨.binasciiError, "Incorrect padding"⟩)
  intOfText _ := .error ⟨.valueError, "invalid literal for int() with base 10"⟩
  truncate _ := 0

theorem join_link_round_trip_example :
    parseJoinLink linkBuiltins ("nxg://join#" ++
      "eyJyIjpbImh0dHBzOi8vcmVsYXkiXSwiYSI6Imhvc3Q6MSIsIm4iOiJub2RlIiwi" ++
      "ayI6ImtleSIsInQiOiJ0b2tlbiIsImciOiJncm91cCIsInYiOjF9") =
        .ok exampleLink.parsed := by
  have hreads : Reads linkBuiltins (fun _ => exampleText) exampleLink.payload := by
    refine ⟨by decide, rfl, fun text raw h => ?_⟩
    show ((Base64.decode true text.toList).map Except.ok).getD _ = _
    rw [h]
    rfl
  exact (join_link_round_trip _ _ exampleLink).1 _ (by decide +kernel) hreads

end NexusGrid.Security.JoinLinks

import Mathlib.Data.List.Sort
import Mathlib.Data.String.Basic

/-! # JSON values as Python handlers see them

`Json` is what `json.loads` returns.
-/

namespace NexusGrid.Lib

/-- A value returned by `json.loads`. -/
inductive Json
  | null
  | bool (b : Bool)
  | int (n : Int)
  | float (text : String)
  | str (s : String)
  | arr (items : List Json)
  | obj (fields : List (String × Json))
deriving Repr, Inhabited

namespace Json

/-- `bool(v)`. -/
def truthy : Json → Bool
  | null => false
  | bool b => b
  | int n => n ≠ 0
  | float text => text ≠ "0.0" && text ≠ "-0.0"
  | str s => s ≠ ""
  | arr items => !items.isEmpty
  | obj fields => !fields.isEmpty

/-- `str(v)`. -/
def text (repr : Json → String) : Json → String
  | null => "None"
  | bool b => if b then "True" else "False"
  | int n => toString n
  | float text => text
  | str s => s
  | v => repr v

/-- `d.get(k)` for the fields of a dict. -/
def get (fields : List (String × Json)) (k : String) : Json := (fields.lookup k).getD null

/-- `str(d.get(k) or "")`. -/
def textAt (repr : Json → String) (fields : List (String × Json)) (k : String) : String :=
  if (get fields k).truthy then (get fields k).text repr else ""

/-- `str(d.get(k) or default)`. -/
def textOr (repr : Json → String) (fields : List (String × Json)) (k default : String) : String :=
  if (get fields k).truthy then (get fields k).text repr else default

/-- `str(d.get(k))` when that is truthy. -/
def given (repr : Json → String) (fields : List (String × Json)) (k : String) : Option String :=
  if (get fields k).truthy then some ((get fields k).text repr) else none

theorem textAt_eq_given (repr : Json → String) (fields : List (String × Json)) (k : String) :
    textAt repr fields k = (given repr fields k).getD "" := by
  unfold textAt given
  split <;> rfl

theorem textOr_eq_given (repr : Json → String) (fields : List (String × Json)) (k default : String) :
    textOr repr fields k default = (given repr fields k).getD default := by
  unfold textOr given
  split <;> rfl

theorem textOr_eq_textAt {repr : Json → String} {fields : List (String × Json)} {k : String}
    (h : textAt repr fields k ≠ "") (default : String) : textOr repr fields k default = textAt repr fields k := by
  rw [textOr_eq_given]
  rw [textAt_eq_given] at h ⊢
  cases hgiven : given repr fields k with
  | none =>
    rw [hgiven] at h
    exact absurd rfl h
  | some text => rfl

/-- `str(d.get(k, ""))`. -/
def textDefault (repr : Json → String) (fields : List (String × Json)) (k : String) : String :=
  ((fields.lookup k).getD (str "")).text repr

/-- `v == text`. -/
def isText : Json → String → Bool
  | str s, text => s = text
  | _, _ => false

/-- `v[k]`; `none` when it raises. -/
def item : Json → String → Option Json
  | obj fields, k => fields.lookup k
  | _, _ => none

/-- `len(v)`; `none` when it raises. -/
def len : Json → Option Nat
  | str s => some s.length
  | arr items => some items.length
  | obj fields => some fields.length
  | _ => none

/-- `int(d.get(k) or 0)`; `parse` is `int` of other values, `none` where it raises. -/
def intAt (parse : Json → Option Int) (fields : List (String × Json)) (k : String) : Option Int :=
  match get fields k with
  | int n => some n
  | v => if v.truthy then parse v else some 0

/-- The items of `d.get(k) or []`; `none` when the value is no list. -/
def itemsAt (fields : List (String × Json)) (k : String) : Option (List Json) :=
  match get fields k with
  | arr items => some items
  | v => if v.truthy then none else some []

def strings (items : List Json) : List String := items.filterMap fun
    | str s => some s
    | _ => none

/-- `d.get(k) or {}`; `none` when the next `.get` raises. -/
def objAt (fields : List (String × Json)) (k : String) : Option (List (String × Json)) :=
  match get fields k with
  | obj inner => some inner
  | v => if v.truthy then none else some []

/-- The four hexadecimal digits of `\uXXXX`. -/
def hex4 (n : Nat) : List Char := [n / 4096 % 16, n / 256 % 16, n / 16 % 16, n % 16].map Nat.digitChar

/-- One character of a JSON string, with `ensure_ascii`. -/
def escapeChar (c : Char) : List Char :=
  if c = '"' then ['\\', '"']
  else if c = '\\' then ['\\', '\\']
  else if c = '\n' then ['\\', 'n']
  else if c = '\r' then ['\\', 'r']
  else if c = '\t' then ['\\', 't']
  else if c.toNat = 8 then ['\\', 'b']
  else if c.toNat = 12 then ['\\', 'f']
  else if 32 ≤ c.toNat ∧ c.toNat < 127 then [c]
  else if c.toNat < 0x10000 then ['\\', 'u'] ++ hex4 c.toNat
  else
    let n := c.toNat - 0x10000
    ['\\', 'u'] ++ hex4 (0xD800 + n / 0x400) ++ ['\\', 'u'] ++ hex4 (0xDC00 + n % 0x400)

def quote (s : String) : List Char := '"' :: s.toList.flatMap escapeChar ++ ['"']

/-- `json.dumps(fields, sort_keys=True, separators=(",", ":")).encode("utf-8")`. -/
def dumps (fields : List (String × String)) : List UInt8 :=
  let sorted := fields.insertionSort (fun a b => a.1.toList ≤ b.1.toList)
  let items := sorted.map fun f => quote f.1 ++ ':' :: quote f.2
  (['\x7b'] ++ [','].intercalate items ++ ['\x7d']).map fun c => UInt8.ofNat c.toNat

end Json

end NexusGrid.Lib

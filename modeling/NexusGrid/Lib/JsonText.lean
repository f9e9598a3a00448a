import NexusGrid.Lib.Json

/-! # The canonical text of JSON values

`encode` is `json.dumps` with sorted keys and without blanks, for every value.
-/

namespace NexusGrid.Lib.Json

/-! ## The text -/

/-- The JSON text of a float with the given `repr`. -/
def floatText (text : String) : String :=
  if text = "nan" then "NaN"
  else if text = "inf" then "Infinity"
  else if text = "-inf" then "-Infinity"
  else text

def member (f : String × List Char) : List Char := quote f.1 ++ ':' :: f.2

/-- `sort_keys=True`. -/
def sortKeys (fields : List (String × List Char)) : List (String × List Char) :=
  fields.insertionSort fun a b => a.1.toList ≤ b.1.toList

mutual

/-- `json.dumps(v, sort_keys=True, separators=(",", ":"))`. -/
def encode : Json → List Char
  | null => ['n', 'u', 'l', 'l']
  | bool true => ['t', 'r', 'u', 'e']
  | bool false => ['f', 'a', 'l', 's', 'e']
  | int n => (toString n).toList
  | float text => (floatText text).toList
  | str s => quote s
  | arr items => ['['] ++ [','].intercalate (encodeItems items) ++ [']']
  | obj fields => ['\x7b'] ++ [','].intercalate ((sortKeys (encodeFields fields)).map member) ++ ['\x7d']

def encodeItems : List Json → List (List Char)
  | [] => []
  | v :: vs => encode v :: encodeItems vs

def encodeFields : List (String × Json) → List (String × List Char)
  | [] => []
  | (k, v) :: fs => (k, encode v) :: encodeFields fs

end

/-- `json.dumps(..).encode("utf-8")`: the text is ASCII. -/
def canonical (v : Json) : List UInt8 := (encode v).map fun c => UInt8.ofNat c.toNat

theorem encodeItems_eq_map (vs : List Json) : encodeItems vs = vs.map encode := by
  induction vs with
  | nil => rfl
  | cons v vs ih => simp only [encodeItems, ih, List.map_cons]

theorem encodeFields_eq_map (fs : List (String × Json)) : encodeFields fs = fs.map fun f => (f.1, encode f.2) := by
  induction fs with
  | nil => rfl
  | cons f fs ih =>
    simp only [encodeFields, ih, List.map_cons]

/-- The fields as `json.loads` returns them for a text with sorted keys. -/
def sorted (fields : List (String × Json)) : List (String × Json) :=
  fields.insertionSort fun a b => a.1.toList ≤ b.1.toList

theorem canonical_sorted (fields : List (String × Json)) :
    canonical (obj (sorted fields)) = canonical (obj fields) := by
  have hmap : encodeFields (sorted fields) = sortKeys (encodeFields fields) := by
    rw [encodeFields_eq_map, encodeFields_eq_map]
    exact List.map_insertionSort _ _ _ _ fun a _ b _ => Iff.rfl
  have hsort : sortKeys (sortKeys (encodeFields fields)) = sortKeys (encodeFields fields) :=
    (List.pairwise_insertionSort _ _).insertionSort_eq
  rw [canonical, encode, hmap, hsort, ← encode, canonical]

/-! ## Values that a parser returns -/

def floatChar (c : Char) : Bool := c.isAlphanum || c = '+' || c = '-' || c = '.'

/-- What `json.loads` can return: no object has a key twice. -/
inductive Loaded : Json → Prop
  | null : Loaded null
  | bool (b : Bool) : Loaded (bool b)
  | int (n : Int) : Loaded (int n)
  | float (text : String) (h : ∀ c ∈ (floatText text).toList, floatChar c) : Loaded (float text)
  | str (s : String) : Loaded (str s)
  | arr (items : List Json) (h : ∀ v ∈ items, Loaded v) : Loaded (arr items)
  | obj (fields : List (String × Json)) (hkeys : (fields.map Prod.fst).Nodup)
      (h : ∀ f ∈ fields, Loaded f.2) : Loaded (obj fields)

theorem loaded_obj {fields : List (String × Json)} (h : Loaded (obj fields)) :
    (fields.map Prod.fst).Nodup ∧ ∀ f ∈ fields, Loaded f.2 := by
  cases h with
  | obj _ hkeys hvalues => exact ⟨hkeys, hvalues⟩

/-! ## Where a value ends -/

inductive Mode
  | plain
  | text
  | escape

/-- The first value of a text, read inside of `d` brackets, and what follows it. -/
def cut : Nat → Mode → List Char → List Char × List Char
  | _, _, [] => ([], [])
  | d, .text, c :: cs =>
    let r := cut d (if c = '"' then .plain else if c = '\\' then .escape else .text) cs
    (c :: r.1, r.2)
  | d, .escape, c :: cs =>
    let r := cut d .text cs
    (c :: r.1, r.2)
  | d, .plain, c :: cs =>
    if d = 0 ∧ (c = ',' ∨ c = ']' ∨ c = '\x7d') then ([], c :: cs)
    else
      let r :=
        if c = '"' then cut d .text cs
        else if c = '[' ∨ c = '\x7b' then cut (d + 1) .plain cs
        else if c = ']' ∨ c = '\x7d' then cut (d - 1) .plain cs
        else cut d .plain cs
      (c :: r.1, r.2)

def Stop (x : List Char) : Prop := ∀ c ∈ x.head?, c = ',' ∨ c = ']' ∨ c = '\x7d'

/-- Inside of `d` brackets the text is read as a whole. -/
def Passes (d : Nat) (t : List Char) : Prop :=
  ∀ x, cut d .plain (t ++ x) = (t ++ (cut d .plain x).1, (cut d .plain x).2)

theorem cut_stop {x : List Char} (h : Stop x) : cut 0 .plain x = ([], x) := by
  cases x with
  | nil => rfl
  | cons c cs =>
    have hc := h c rfl
    simp [cut, hc]

theorem cut_of_passes {t x : List Char} (ht : Passes 0 t) (hx : Stop x) : cut 0 .plain (t ++ x) = (t, x) := by
  rw [ht, cut_stop hx]
  simp

theorem passes_append_inj {t u x y : List Char} (ht : Passes 0 t) (hu : Passes 0 u) (hx : Stop x)
    (hy : Stop y) (h : t ++ x = u ++ y) : t = u ∧ x = y := by
  have hcut := cut_of_passes ht hx
  rw [h, cut_of_passes hu hy] at hcut
  exact ⟨(Prod.mk.inj hcut).1.symm, (Prod.mk.inj hcut).2.symm⟩

variable {d : Nat} {t u : List Char}

theorem Passes.append (ht : Passes d t) (hu : Passes d u) : Passes d (t ++ u) := by
  intro x
  rw [List.append_assoc, ht, hu]
  simp

def plainChar (c : Char) : Bool := c ≠ '"' && c ≠ ',' && c ≠ '[' && c ≠ ']' && c ≠ '\x7b' && c ≠ '\x7d'

theorem passes_of_plain (ht : ∀ c ∈ t, plainChar c) (d : Nat) : Passes d t := by
  intro x
  induction t with
  | nil => simp
  | cons c t ih =>
    have hc := ht c (.head _)
    have ih := ih fun c hc => ht c (.tail _ hc)
    simp only [plainChar, Bool.and_eq_true, decide_eq_true_eq, ne_eq] at hc
    obtain ⟨⟨⟨⟨⟨hq, hcomma⟩, hl⟩, hr⟩, hlb⟩, hrb⟩ := hc
    simp only [List.cons_append, cut, hcomma, hr, hrb, or_self, and_false, if_false, hq, hl, hlb, ih]

theorem passes_plain (ht : t.all plainChar = true) (d : Nat) : Passes d t := passes_of_plain (List.all_eq_true.mp ht) d

theorem passes_comma (d : Nat) : Passes (d + 1) [','] := by
  intro x
  simp [cut]

theorem passes_brackets {l r : Char} (hl : l = '[' ∨ l = '\x7b') (hr : r = ']' ∨ r = '\x7d')
    (ht : ∀ d, Passes (d + 1) t) (d : Nat) : Passes d ([l] ++ t ++ [r]) := by
  intro x
  have hopen (y : List Char) : cut d .plain (l :: y) = (l :: (cut (d + 1) .plain y).1, (cut (d + 1) .plain y).2) := by
    rcases hl with rfl | rfl <;> simp [cut]
  have hclose (y : List Char) : cut (d + 1) .plain (r :: y) = (r :: (cut d .plain y).1, (cut d .plain y).2) := by
    rcases hr with rfl | rfl <;> simp [cut]
  have htext : [l] ++ t ++ [r] ++ x = l :: (t ++ r :: x) := by simp
  rw [htext, hopen, ht d, hclose]
  simp

/-! ## Strings -/

def letterEscapes : List (Char × Char) :=
  [('"', '"'), ('\\', '\\'), ('n', '\n'), ('r', '\r'), ('t', '\t'), ('b', Char.ofNat 8), ('f', Char.ofNat 12)]

theorem escapeChar_cases (c : Char) : (∃ e, (e, c) ∈ letterEscapes ∧ escapeChar c = ['\\', e]) ∨
    (c ≠ '"' ∧ c ≠ '\\' ∧ (32 ≤ c.toNat ∧ c.toNat < 127) ∧ escapeChar c = [c]) ∨
    (c.toNat < 0x10000 ∧ escapeChar c = ['\\', 'u'] ++ hex4 c.toNat) ∨
    (0x10000 ≤ c.toNat ∧ escapeChar c = ['\\', 'u'] ++ hex4 (0xD800 + (c.toNat - 0x10000) / 0x400) ++
      ['\\', 'u'] ++ hex4 (0xDC00 + (c.toNat - 0x10000) % 0x400)) := by
  have hcode {n : Nat} (h : c.toNat = n) : c = Char.ofNat n := by rw [← h, Char.ofNat_toNat]
  unfold escapeChar
  by_cases h1 : c = '"'
  · rw [if_pos h1]
    exact .inl ⟨'"', by subst h1; decide, rfl⟩
  rw [if_neg h1]
  by_cases h2 : c = '\\'
  · rw [if_pos h2]
    exact .inl ⟨'\\', by subst h2; decide, rfl⟩
  rw [if_neg h2]
  by_cases h3 : c = '\n'
  · rw [if_pos h3]
    exact .inl ⟨'n', by subst h3; decide, rfl⟩
  rw [if_neg h3]
  by_cases h4 : c = '\r'
  · rw [if_pos h4]
    exact .inl ⟨'r', by subst h4; decide, rfl⟩
  rw [if_neg h4]
  by_cases h5 : c = '\t'
  · rw [if_pos h5]
    exact .inl ⟨'t', by subst h5; decide, rfl⟩
  rw [if_neg h5]
  by_cases h6 : c.toNat = 8
  · rw [if_pos h6]
    exact .inl ⟨'b', by rw [hcode h6]; decide, rfl⟩
  rw [if_neg h6]
  by_cases h7 : c.toNat = 12
  · rw [if_pos h7]
    exact .inl ⟨'f', by rw [hcode h7]; decide, rfl⟩
  rw [if_neg h7]
  by_cases h8 : 32 ≤ c.toNat ∧ c.toNat < 127
  · rw [if_pos h8]
    exact .inr (.inl ⟨h1, h2, h8, rfl⟩)
  rw [if_neg h8]
  by_cases h9 : c.toNat < 0x10000
  · rw [if_pos h9]
    exact .inr (.inr (.inl ⟨h9, rfl⟩))
  rw [if_neg h9]
  exact .inr (.inr (.inr ⟨Nat.not_lt.mp h9, rfl⟩))

def TextPasses (t : List Char) : Prop := ∀ d x, cut d .text (t ++ x) = (t ++ (cut d .text x).1, (cut d .text x).2)

theorem TextPasses.append (ht : TextPasses t) (hu : TextPasses u) : TextPasses (t ++ u) := by
  intro d x
  rw [List.append_assoc, ht, hu]
  simp

theorem textPasses_flatMap {s : List Char} {f : Char → List Char} (h : ∀ c, TextPasses (f c)) :
    TextPasses (s.flatMap f) := by
  induction s with
  | nil => exact fun d x => by simp
  | cons c s ih => exact (h c).append ih

theorem textPasses_of_inner (ht : ∀ c ∈ t, c ≠ '"' ∧ c ≠ '\\') : TextPasses t := by
  intro d x
  induction t with
  | nil => simp
  | cons c t ih =>
    obtain ⟨hq, hb⟩ := ht c (.head _)
    simp only [List.cons_append, cut, hq, hb, if_false, ih fun c hc => ht c (.tail _ hc)]

theorem textPasses_escape (c : Char) : TextPasses ['\\', c] := fun d x => by simp [cut]

theorem mem_hex4 {n : Nat} {c : Char} (h : c ∈ hex4 n) : c ≠ '"' ∧ c ≠ '\\' := by
  have hdigit : ∀ k < 16, Nat.digitChar k ≠ '"' ∧ Nat.digitChar k ≠ '\\' := by decide
  obtain ⟨k, hk, rfl⟩ := List.mem_map.mp h
  simp only [List.mem_cons, List.not_mem_nil, or_false] at hk
  exact hdigit k (by omega)

theorem textPasses_hex4 (n : Nat) : TextPasses (hex4 n) := textPasses_of_inner fun _ hc => mem_hex4 hc

theorem textPasses_escapeChar (c : Char) : TextPasses (escapeChar c) := by
  have hu := textPasses_escape 'u'
  rcases escapeChar_cases c with ⟨e, -, h⟩ | ⟨hq, hb, -, h⟩ | ⟨-, h⟩ | ⟨-, h⟩ <;> rw [h]
  · exact textPasses_escape e
  · refine textPasses_of_inner fun c' hc' => ?_
    rw [List.mem_singleton.mp hc']
    exact ⟨hq, hb⟩
  · exact hu.append (textPasses_hex4 _)
  · exact ((hu.append (textPasses_hex4 _)).append hu).append (textPasses_hex4 _)

theorem passes_quote (s : String) (d : Nat) : Passes d (quote s) := by
  intro x
  have htext := textPasses_flatMap (s := s.toList) textPasses_escapeChar d ('"' :: x)
  have hsplit : quote s ++ x = '"' :: (s.toList.flatMap escapeChar ++ '"' :: x) := by simp [quote]
  simp [cut, htext, quote]

/-! ### Reading a string back -/

def hexVal (c : Char) : Nat := if c.isDigit then c.toNat - 48 else c.toNat - 87

def readHex4 : List Char → Nat × List Char
  | a :: b :: c :: e :: x => (hexVal a * 4096 + hexVal b * 256 + hexVal c * 16 + hexVal e, x)
  | x => (0, x)

def unescape : List Char → Char × List Char
  | '\\' :: 'u' :: x =>
    let high := readHex4 x
    if 0xD800 ≤ high.1 ∧ high.1 < 0xDC00 then
      let low := readHex4 (high.2.drop 2)
      (Char.ofNat (0x10000 + (high.1 - 0xD800) * 0x400 + (low.1 - 0xDC00)), low.2)
    else (Char.ofNat high.1, high.2)
  | '\\' :: 'n' :: x => ('\n', x)
  | '\\' :: 'r' :: x => ('\r', x)
  | '\\' :: 't' :: x => ('\t', x)
  | '\\' :: 'b' :: x => (Char.ofNat 8, x)
  | '\\' :: 'f' :: x => (Char.ofNat 12, x)
  | '\\' :: c :: x => (c, x)
  | c :: x => (c, x)
  | [] => (default, [])

theorem readHex4_hex4 {n : Nat} (h : n < 65536) (x : List Char) : readHex4 (hex4 n ++ x) = (n, x) := by
  have hval : ∀ k < 16, hexVal (Nat.digitChar k) = k := by decide
  simp only [hex4, List.map_cons, List.map_nil, List.cons_append, List.nil_append, readHex4]
  rw [hval _ (by omega), hval _ (by omega), hval _ (by omega), hval _ (by omega)]
  congr 1
  omega

theorem unescape_escapeChar (c : Char) (x : List Char) : unescape (escapeChar c ++ x) = (c, x) := by
  have hvalid : c.toNat < 0xD800 ∨ (0xDFFF < c.toNat ∧ c.toNat < 0x110000) := c.valid
  rcases escapeChar_cases c with ⟨e, hmem, h⟩ | ⟨-, hb, -, h⟩ | ⟨hplane, h⟩ | ⟨hplane, h⟩ <;> rw [h]
  · simp only [letterEscapes, List.mem_cons, Prod.mk.injEq, List.not_mem_nil, or_false] at hmem
    rcases hmem with ⟨rfl, rfl⟩ | ⟨rfl, rfl⟩ | ⟨rfl, rfl⟩ | ⟨rfl, rfl⟩ | ⟨rfl, rfl⟩ | ⟨rfl, rfl⟩ |
      ⟨rfl, rfl⟩ <;> rfl
  · simp [unescape, hb]
  · have hsurrogate : ¬ (0xD800 ≤ c.toNat ∧ c.toNat < 0xDC00) := by omega
    simp only [List.cons_append, List.nil_append, unescape, readHex4_hex4 hplane, hsurrogate, if_false,
      Char.ofNat_toNat]
  have hhigh : 0xD800 + (c.toNat - 0x10000) / 0x400 < 65536 := by omega
  have hlow : 0xDC00 + (c.toNat - 0x10000) % 0x400 < 65536 := by omega
  simp only [List.append_assoc, List.cons_append, List.nil_append, unescape, readHex4_hex4 hhigh,
    List.drop_succ_cons, List.drop_zero, readHex4_hex4 hlow]
  rw [if_pos (by omega)]
  have hnat : 0x10000 + (0xD800 + (c.toNat - 0x10000) / 0x400 - 0xD800) * 0x400 +
      (0xDC00 + (c.toNat - 0x10000) % 0x400 - 0xDC00) = c.toNat := by omega
  rw [hnat, Char.ofNat_toNat]

theorem head?_escapeChar (c : Char) (x : List Char) : (escapeChar c ++ x).head? ≠ some '"' := by
  rcases escapeChar_cases c with ⟨e, -, h⟩ | ⟨hq, -, -, h⟩ | ⟨-, h⟩ | ⟨-, h⟩ <;> simp_all

theorem flatMap_escapeChar_inj {s t x y : List Char}
    (h : s.flatMap escapeChar ++ '"' :: x = t.flatMap escapeChar ++ '"' :: y) : s = t ∧ x = y := by
  induction s generalizing t with
  | nil =>
    cases t with
    | nil => simpa using h
    | cons c t =>
      rw [List.flatMap_cons, List.append_assoc] at h
      exact absurd (congrArg List.head? h).symm (head?_escapeChar c _)
  | cons c s ih =>
    cases t with
    | nil =>
      rw [List.flatMap_cons, List.append_assoc] at h
      exact absurd (congrArg List.head? h) (head?_escapeChar c _)
    | cons c' t =>
      simp only [List.flatMap_cons, List.append_assoc] at h
      have hread := congrArg unescape h
      rw [unescape_escapeChar, unescape_escapeChar, Prod.mk.injEq] at hread
      obtain ⟨rfl, hrest⟩ := hread
      obtain ⟨rfl, hx⟩ := ih hrest
      exact ⟨rfl, hx⟩

theorem quote_append_inj {s t : String} {x y : List Char} (h : quote s ++ x = quote t ++ y) : s = t ∧ x = y := by
  simp only [quote, List.cons_append, List.append_assoc, List.cons.injEq, true_and, List.nil_append] at h
  obtain ⟨hs, hx⟩ := flatMap_escapeChar_inj h
  exact ⟨String.toList_injective hs, hx⟩

/-! ## Values -/

theorem member_inj {f g : String × List Char} (h : member f = member g) : f = g := by
  obtain ⟨hkey, htext⟩ := quote_append_inj h
  exact Prod.ext hkey (List.cons.inj htext).2

theorem plainChar_of_floatChar {c : Char} (h : floatChar c) : plainChar c := by
  by_contra hplain
  simp only [plainChar, Bool.and_eq_true, decide_eq_true_eq, not_and_or, not_not, ne_eq] at hplain
  rcases hplain with ((((rfl | rfl) | rfl) | rfl) | rfl) | rfl <;> cases h

theorem floatChar_int {n : Int} {c : Char} (h : c ∈ (toString n).toList) : floatChar c := by
  have hdigits (m : Nat) (hc : c ∈ (toString m).toList) : floatChar c := by
    rw [Nat.toString_eq_repr, Nat.toList_repr] at hc
    have hdigit := Nat.isDigit_of_mem_toDigits (by decide) (by decide) hc
    simp [floatChar, Char.isAlphanum, hdigit]
  cases n with
  | ofNat m => exact hdigits m h
  | negSucc m =>
    rw [Int.toString_eq_repr, Int.repr, String.toList_append, List.mem_append] at h
    rcases h with hminus | hc
    · rw [List.mem_singleton.mp hminus]
      rfl
    · exact hdigits (m + 1) hc

/-- What holds of the pieces that `encode` puts together, inside of `d` brackets. -/
structure EncodeRule (P : Nat → List Char → Prop) : Prop where
  append : ∀ {d t u}, P d t → P d u → P d (t ++ u)
  number : ∀ {t} d, (∀ c ∈ t, floatChar c) → P d t
  quote : ∀ s d, P d (quote s)
  colon : ∀ d, P d [':']
  comma : ∀ d, P (d + 1) [',']
  brackets : ∀ {l r t}, l = '[' ∨ l = '\x7b' → r = ']' ∨ r = '\x7d' → (∀ d, P (d + 1) t) → ∀ d, P d ([l] ++ t ++ [r])

namespace EncodeRule

variable {P : Nat → List Char → Prop} (R : EncodeRule P)

include R

theorem member {f : String × List Char} (h : P d f.2) : P d (member f) := by
  have hsplit : Json.member f = Json.quote f.1 ++ ([':'] ++ f.2) := by simp [Json.member]
  exact R.append (R.quote f.1 d) (R.append (R.colon d) h)

theorem intercalate {ts : List (List Char)} (h : ∀ t ∈ ts, P (d + 1) t) : P (d + 1) ([','].intercalate ts) := by
  induction ts with
  | nil => exact R.number _ fun c hc => by cases hc
  | cons t ts ih =>
    have ht := h t (.head _)
    cases ts with
    | nil => simpa using ht
    | cons u ts =>
      rw [List.intercalate_cons_cons]
      exact R.append (R.append ht (R.comma d)) (ih fun v hv => h v (.tail _ hv))

theorem encode {v : Json} (h : Loaded v) (d : Nat) : P d (encode v) := by
  induction h generalizing d with
  | null => exact R.number d (List.all_eq_true.mp rfl)
  | bool b => cases b <;> exact R.number d (List.all_eq_true.mp rfl)
  | int n => exact R.number d fun c hc => floatChar_int hc
  | float text h => exact R.number d h
  | str s => exact R.quote s d
  | arr items _ ih =>
    rw [Json.encode, encodeItems_eq_map]
    refine R.brackets (.inl rfl) (.inl rfl) (fun d => R.intercalate ?_) d
    intro t ht
    obtain ⟨v, hv, rfl⟩ := List.mem_map.mp ht
    exact ih v hv (d + 1)
  | obj fields _ _ ih =>
    rw [Json.encode, encodeFields_eq_map]
    refine R.brackets (.inr rfl) (.inr rfl) (fun d => R.intercalate ?_) d
    intro t ht
    obtain ⟨f, hf, rfl⟩ := List.mem_map.mp ht
    obtain ⟨g, hg, rfl⟩ := List.mem_map.mp ((List.mem_insertionSort _).mp hf)
    exact R.member (ih g hg (d + 1))

end EncodeRule

theorem passesRule : EncodeRule Passes where
  append := .append
  number d h := passes_of_plain (fun c hc => plainChar_of_floatChar (h c hc)) d
  quote := passes_quote
  colon := passes_plain rfl
  comma := passes_comma
  brackets := passes_brackets

/-! ## Objects -/

theorem intercalate_member_inj {fs gs : List (String × List Char)} (hf : ∀ f ∈ fs, Passes 0 f.2)
    (hg : ∀ g ∈ gs, Passes 0 g.2)
    (h : [','].intercalate (fs.map member) ++ ['\x7d'] = [','].intercalate (gs.map member) ++ ['\x7d']) : fs = gs := by
  -- What follows the first member starts with a comma or is the closing brace.
  have hcons (f : String × List Char) (fs : List (String × List Char)) :
      ∃ x, Stop x ∧ [','].intercalate ((f :: fs).map member) ++ ['\x7d'] = member f ++ x ∧ (fs = [] → x = ['\x7d']) ∧
        (fs ≠ [] → x = ',' :: ([','].intercalate (fs.map member) ++ ['\x7d'])) := by
    cases fs with
    | nil => exact ⟨['\x7d'], by simp [Stop], by simp, fun _ => rfl, fun hne => absurd rfl hne⟩
    | cons g fs =>
      refine ⟨_, ?_, ?_, nofun, fun _ => rfl⟩
      · simp [Stop]
      · simp [List.intercalate_cons_cons]
  have hquote (f : String × List Char) (x y : List Char) : ['\x7d'] ++ y ≠ member f ++ x := by simp [member, quote]
  induction fs generalizing gs with
  | nil =>
    cases gs with
    | nil => rfl
    | cons g gs =>
      obtain ⟨x, -, hx, -, -⟩ := hcons g gs
      rw [hx] at h
      exact absurd h (hquote g x [])
  | cons f fs ih =>
    obtain ⟨x, hstop, hx, hnil, hne⟩ := hcons f fs
    cases gs with
    | nil =>
      rw [hx] at h
      exact absurd h.symm (hquote f x [])
    | cons g gs =>
      obtain ⟨y, hstop', hy, hnil', hne'⟩ := hcons g gs
      rw [hx, hy] at h
      have hpf := passesRule.member (hf f (.head _))
      have hpg := passesRule.member (hg g (.head _))
      obtain ⟨hhead, hxy⟩ := passes_append_inj hpf hpg hstop hstop' h
      have htail : fs = gs := by
        by_cases hfs : fs = [] <;> by_cases hgs : gs = []
        · rw [hfs, hgs]
        · rw [hnil hfs, hne' hgs] at hxy
          cases hxy
        · rw [hne hfs, hnil' hgs] at hxy
          cases hxy
        rw [hne hfs, hne' hgs, List.cons.injEq] at hxy
        exact ih (fun f hf' => hf f (.tail _ hf'))
          (fun g hg' => hg g (.tail _ hg')) hxy.2
      rw [member_inj hhead, htail]

section Lookup

variable {α : Type} {l : List (String × α)}

theorem lookup_eq_some_iff_mem (h : (l.map Prod.fst).Nodup) (k : String) (v : α) :
    l.lookup k = some v ↔ (k, v) ∈ l := by
  induction l with
  | nil => simp
  | cons f l ih =>
    obtain ⟨hnot, hnodup⟩ := List.nodup_cons.mp h
    obtain ⟨k', v'⟩ := f
    by_cases hk : k = k'
    · subst hk
      have hmem (v : α) : (k, v) ∉ l := fun hmem => hnot (List.mem_map.mpr ⟨_, hmem, rfl⟩)
      simp [hmem, eq_comm]
    have hbeq : (k == k') = false := beq_eq_false_iff_ne.mpr hk
    rw [List.lookup_cons, hbeq]
    simp [hk, ih hnodup]

theorem lookup_map {β : Type} (f : α → β) (l : List (String × α)) (k : String) :
    (l.map fun e => (e.1, f e.2)).lookup k = (l.lookup k).map f := by
  induction l with
  | nil => rfl
  | cons e l ih =>
    obtain ⟨k', v'⟩ := e
    simp only [List.map_cons, List.lookup_cons]
    cases k == k' <;> simp [ih]

theorem lookup_filter_ne {k k₀ : String} (hk : k ≠ k₀) (l : List (String × α)) :
    (l.filter fun f => f.1 ≠ k₀).lookup k = l.lookup k := by
  induction l with
  | nil => rfl
  | cons f l ih =>
    obtain ⟨k', v⟩ := f
    by_cases hk' : k' = k₀
    · have hbeq : (k == k') = false := beq_eq_false_iff_ne.mpr (hk' ▸ hk)
      rw [List.filter_cons_of_neg (by simpa using hk'), List.lookup_cons, hbeq, ih]
    · rw [List.filter_cons_of_pos (by simpa using hk'), List.lookup_cons, List.lookup_cons, ih]

end Lookup

theorem sortKeys_eq_iff {fs gs : List (String × List Char)} (hf : (fs.map Prod.fst).Nodup)
    (hg : (gs.map Prod.fst).Nodup) : sortKeys fs = sortKeys gs ↔ ∀ k, fs.lookup k = gs.lookup k := by
  have hsort (fs : List (String × List Char)) : (sortKeys fs).Perm fs := List.perm_insertionSort _ fs
  constructor
  · intro h k
    have hperm : fs.Perm gs := (hsort fs).symm.trans (h ▸ hsort gs)
    ext v
    rw [lookup_eq_some_iff_mem hf, lookup_eq_some_iff_mem hg, hperm.mem_iff]
  intro h
  have hperm : fs.Perm gs := by
    refine (List.perm_ext_iff_of_nodup (List.Nodup.of_map _ hf) (List.Nodup.of_map _ hg)).mpr ?_
    rintro ⟨k, v⟩
    rw [← lookup_eq_some_iff_mem hf, ← lookup_eq_some_iff_mem hg, h]
  have htotal : Std.Total fun a b : String × List Char => a.1.toList ≤ b.1.toList :=
    ⟨fun a b => le_total a.1.toList b.1.toList⟩
  have hpair (fs : List (String × List Char)) :
      (sortKeys fs).Pairwise fun a b => a.1.toList ≤ b.1.toList := List.pairwise_insertionSort _ fs
  refine List.Perm.eq_of_pairwise ?_ (hpair fs) (hpair gs) (((hsort fs).trans hperm).trans (hsort gs).symm)
  -- Two fields that are each before the other have one key, and the key is there once.
  rintro ⟨k, v⟩ ⟨k', v'⟩ hv hv' hle hle'
  obtain rfl : k = k' := String.toList_injective (le_antisymm hle hle')
  have hlookup := (lookup_eq_some_iff_mem hg k v').mpr ((hsort gs).mem_iff.mp hv')
  rw [← h, (lookup_eq_some_iff_mem hf k v).mpr ((hsort fs).mem_iff.mp hv)] at hlookup
  rw [Option.some.inj hlookup]

/-- **Two objects have one text exactly when they have one text under each key.** -/
theorem encode_obj_eq_iff {fs gs : List (String × Json)} (hf : Loaded (obj fs)) (hg : Loaded (obj gs)) :
    encode (obj fs) = encode (obj gs) ↔ ∀ k, (fs.lookup k).map encode = (gs.lookup k).map encode := by
  obtain ⟨hkeysf, hvf⟩ := loaded_obj hf
  obtain ⟨hkeysg, hvg⟩ := loaded_obj hg
  simp only [← lookup_map]
  rw [← sortKeys_eq_iff (by simpa [Function.comp_def] using hkeysf) (by simpa [Function.comp_def] using hkeysg)]
  simp only [encode, encodeFields_eq_map]
  constructor
  · intro h
    refine intercalate_member_inj (fun f hf => ?_) (fun g hg => ?_) (List.cons.inj h).2
    · obtain ⟨e, he, rfl⟩ := List.mem_map.mp ((List.mem_insertionSort _).mp hf)
      exact passesRule.encode (hvf e he) 0
    obtain ⟨e, he, rfl⟩ := List.mem_map.mp ((List.mem_insertionSort _).mp hg)
    exact passesRule.encode (hvg e he) 0
  · intro h
    rw [h]

/-! ## Bytes -/

def Ascii (t : List Char) : Prop := ∀ c ∈ t, c.toNat < 128

instance (t : List Char) : Decidable (Ascii t) := List.decidableBAll (fun c : Char => c.toNat < 128) t

theorem Ascii.append (ht : Ascii t) (hu : Ascii u) : Ascii (t ++ u) :=
  fun c hc => (List.mem_append.mp hc).elim (ht c) (hu c)

theorem ascii_escapeChar (c : Char) : Ascii (escapeChar c) := by
  have hdigit : ∀ k < 16, (Nat.digitChar k).toNat < 128 := by decide
  have hhex (n : Nat) : Ascii (hex4 n) := by
    intro c' hc'
    obtain ⟨k, hk, rfl⟩ := List.mem_map.mp hc'
    simp only [List.mem_cons, List.not_mem_nil, or_false] at hk
    exact hdigit k (by omega)
  have hu : Ascii ['\\', 'u'] := by decide
  rcases escapeChar_cases c with ⟨e, hmem, h⟩ | ⟨-, -, hlt, h⟩ | ⟨-, h⟩ | ⟨-, h⟩ <;> rw [h]
  · have hletter : ∀ f ∈ letterEscapes, Ascii ['\\', f.1] := by decide
    exact hletter _ hmem
  · intro c' hc'
    rw [List.mem_singleton.mp hc']
    exact Nat.lt_succ_of_lt hlt.2
  · exact hu.append (hhex _)
  · exact ((hu.append (hhex _)).append hu).append (hhex _)

theorem ascii_quote (s : String) : Ascii (quote s) := by
  have hq : Ascii ['"'] := by decide
  have hbody : Ascii (s.toList.flatMap escapeChar) := by
    intro c hc
    obtain ⟨c', -, hc'⟩ := List.mem_flatMap.mp hc
    exact ascii_escapeChar c' c hc'
  exact (hq.append hbody).append hq

theorem ascii_of_floatChar {t : List Char} (h : ∀ c ∈ t, floatChar c) : Ascii t := by
  intro c hc
  have hupper (h : c.isUpper = true) : c.val.toNat ≤ 90 := UInt32.le_iff_toNat_le.mp (of_decide_eq_true h).2
  have hlower (h : c.isLower = true) : c.val.toNat ≤ 122 :=
    UInt32.le_iff_toNat_le.mp (of_decide_eq_true (Bool.and_eq_true_iff.mp h).2)
  have hdigit (h : c.isDigit = true) : c.val.toNat ≤ 57 :=
    UInt32.le_iff_toNat_le.mp (of_decide_eq_true (Bool.and_eq_true_iff.mp h).2)
  have hfloat := h c hc
  simp only [floatChar, Char.isAlphanum, Bool.or_eq_true, decide_eq_true_eq] at hfloat
  rcases hfloat with (((hletter | hc') | rfl) | rfl) | rfl
  · rcases Bool.or_eq_true_iff.mp hletter with hc' | hc'
    · exact Nat.lt_of_le_of_lt (hupper hc') (by decide)
    · exact Nat.lt_of_le_of_lt (hlower hc') (by decide)
  · exact Nat.lt_of_le_of_lt (hdigit hc') (by decide)
  · decide
  · decide
  · decide

theorem asciiRule : EncodeRule fun _ t => Ascii t where
  append := .append
  number _ := ascii_of_floatChar
  quote s _ := ascii_quote s
  colon _ := by decide
  comma _ := by decide
  brackets hl hr h d := by
    rcases hl with rfl | rfl <;> rcases hr with rfl | rfl <;>
      exact ((by decide : Ascii _).append (h d)).append (by decide)

theorem map_char_of_ascii (h : Ascii t) :
    (t.map fun c => UInt8.ofNat c.toNat).map (fun b => Char.ofNat b.toNat) = t := by
  rw [List.map_map]
  conv_rhs => rw [← List.map_id t]
  refine List.map_congr_left fun c hc => ?_
  have hlt : c.toNat < 256 := Nat.lt_trans (h c hc) (by decide)
  simp only [Function.comp_apply, UInt8.toNat_ofNat', Nat.mod_eq_of_lt hlt, Char.ofNat_toNat, id_eq]

theorem canonical_eq_iff {v w : Json} (hv : Loaded v) (hw : Loaded w) :
    canonical v = canonical w ↔ encode v = encode w := by
  constructor
  · intro h
    rw [← map_char_of_ascii (asciiRule.encode hv 0), ← map_char_of_ascii (asciiRule.encode hw 0)]
    exact congrArg _ h
  intro h
  rw [canonical, canonical, h]

end NexusGrid.Lib.Json

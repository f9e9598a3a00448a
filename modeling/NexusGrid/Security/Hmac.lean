import NexusGrid.Groups.Frame
import NexusGrid.Lib.Utf8

/-! # Signatures between peers

`sign_bytes` (`security/crypto.py`) signs three texts and the hash of the payload, joined by `|`.
`material` are the bytes that it signs; the module says for which texts these bytes tell them apart.
-/

namespace NexusGrid.Security

open Lib Groups

structure HmacPrimitives where
  sha256 : List UInt8 → List UInt8
  /-- `hmac.new(key, message, hashlib.sha256).digest()`. -/
  hmac : List UInt8 → List UInt8 → List UInt8

def hexDigits (b : UInt8) : List Char := [Nat.digitChar (b.toNat / 16), Nat.digitChar (b.toNat % 16)]

def hexdigest (bytes : List UInt8) : String := String.ofList (bytes.flatMap hexDigits)

namespace HmacPrimitives

variable (p : HmacPrimitives)

/-- The bytes that `sign_bytes` passes to the HMAC. -/
def material (purpose taskId : String) (payload : List UInt8) (extra : String) : List UInt8 :=
  utf8 purpose ++ bar ++ utf8 taskId ++ bar ++ utf8 extra ++ bar ++ utf8 (hexdigest (p.sha256 payload))

/-- `_key_bytes`, with the node's own secret. -/
def keyBytes (secret key : String) : List UInt8 := utf8 (if key = "" then secret else key)

def signBytes (secret purpose taskId : String) (payload : List UInt8) (extra key : String) : String :=
  hexdigest (p.hmac (keyBytes secret key) (p.material purpose taskId payload extra))

/-- `verify_signature`; `compare_digest` raises for a text that is not ASCII. -/
def verifySignature (secret expected purpose taskId : String) (payload : List UInt8) (extra key : String) :
    Except Unit Bool :=
  if expected = "" then .ok false
  else if expected.toList.any fun c => 128 ≤ c.toNat then .error ()
  else .ok (expected = p.signBytes secret purpose taskId payload extra key)

end HmacPrimitives

theorem digitChar_inj {m n : Nat} (hm : m < 16) (hn : n < 16) (h : m.digitChar = n.digitChar) : m = n := by
  have hall : ∀ a b : Fin 16, a.val.digitChar = b.val.digitChar → a = b := by decide
  exact congrArg Fin.val (hall ⟨m, hm⟩ ⟨n, hn⟩ h)

theorem hexDigits_inj {b b' : UInt8} (h : hexDigits b = hexDigits b') : b = b' := by
  have hlt := b.toNat_lt
  have hlt' := b'.toNat_lt
  simp only [hexDigits, List.cons.injEq, and_true] at h
  have hhigh := digitChar_inj (by omega) (by omega) h.1
  have hlow := digitChar_inj (Nat.mod_lt _ (by decide)) (Nat.mod_lt _ (by decide)) h.2
  exact UInt8.toNat_inj.mp (by omega)

theorem hexdigest_inj {bs bs' : List UInt8} (h : hexdigest bs = hexdigest bs') : bs = bs' := by
  have hchars := String.ofList_inj.mp h
  clear h
  induction bs generalizing bs' with
  | nil =>
    cases bs' with
    | nil => rfl
    | cons b bs' => cases hchars
  | cons b bs ih =>
    cases bs' with
    | nil => cases hchars
    | cons b' bs' =>
      obtain ⟨hb, hrest⟩ := List.append_inj hchars rfl
      rw [hexDigits_inj hb, ih hrest]

theorem bar_notMem_hexdigest (bs : List UInt8) : '|' ∉ (hexdigest bs).toList := by
  have hall : ∀ a : Fin 16, a.val.digitChar ≠ '|' := by decide
  rw [hexdigest, String.toList_ofList]
  intro hmem
  obtain ⟨b, -, hb⟩ := List.mem_flatMap.mp hmem
  have hlt := b.toNat_lt
  simp only [hexDigits, List.mem_cons, List.not_mem_nil, or_false] at hb
  rcases hb with hb | hb
  · exact hall ⟨b.toNat / 16, by omega⟩ hb.symm
  · exact hall ⟨b.toNat % 16, Nat.mod_lt _ (by decide)⟩ hb.symm

def bars (s : String) : Nat := s.toList.count '|'

theorem count_utf8 (s : String) : (utf8 s).count 124 = bars s := count_toUTF8 (by decide) (by decide) s

def joined (purpose taskId extra : String) : List UInt8 := utf8 purpose ++ bar ++ utf8 taskId ++ bar ++ utf8 extra

section Material

variable {p : HmacPrimitives} {purpose purpose' taskId taskId' extra extra' : String}
  {payload payload' : List UInt8}

theorem material_eq_iff :
    p.material purpose taskId payload extra = p.material purpose' taskId' payload' extra' ↔
      joined purpose taskId extra = joined purpose' taskId' extra' ∧ p.sha256 payload = p.sha256 payload' := by
  have hhash (x : List UInt8) : (utf8 (hexdigest (p.sha256 x))).count 124 = 0 := by
    rw [count_utf8]
    exact List.count_eq_zero_of_not_mem (bar_notMem_hexdigest _)
  have hform (purpose taskId extra : String) (x : List UInt8) : p.material purpose taskId x extra =
      joined purpose taskId extra ++ 124 :: utf8 (hexdigest (p.sha256 x)) := by
    simp [HmacPrimitives.material, joined, bar]
  rw [hform, hform]
  constructor
  · intro h
    have hcount := congrArg (List.count 124) h
    rw [List.count_append, List.count_append, List.count_cons_self, List.count_cons_self, hhash, hhash] at hcount
    obtain ⟨hjoined, hdigest⟩ := append_cons_inj_of_count (by omega) h
    exact ⟨hjoined, hexdigest_inj (toUTF8_inj hdigest)⟩
  · rintro ⟨hjoined, hdigest⟩
    rw [hjoined, hdigest]

theorem joined_inj (hpurpose : bars purpose = bars purpose') (htask : bars taskId = bars taskId')
    (h : joined purpose taskId extra = joined purpose' taskId' extra') :
    purpose = purpose' ∧ taskId = taskId' ∧ extra = extra' := by
  simp only [joined, bar, List.append_assoc, List.cons_append, List.nil_append] at h
  obtain ⟨h1, h⟩ := append_cons_inj_of_count (by rw [count_utf8, count_utf8, hpurpose]) h
  obtain ⟨h2, h3⟩ := append_cons_inj_of_count (by rw [count_utf8, count_utf8, htask]) h
  exact ⟨toUTF8_inj h1, toUTF8_inj h2, toUTF8_inj h3⟩

theorem signBytes_of_verify {secret key : String}
    (h : p.verifySignature secret (p.signBytes secret purpose taskId payload extra key) purpose'
      taskId' payload' extra' key = .ok true) :
    p.hmac (HmacPrimitives.keyBytes secret key) (p.material purpose taskId payload extra) =
      p.hmac (HmacPrimitives.keyBytes secret key) (p.material purpose' taskId' payload' extra') := by
  unfold HmacPrimitives.verifySignature at h
  split_ifs at h
  · cases h
  · exact hexdigest_inj (of_decide_eq_true (Except.ok.inj h))

/-- What a signature is to name: equal bytes are those of one purpose, task, extra text and payload, and
a signature of one is valid for another only if the HMAC collides on these two messages. -/
def Names (p : HmacPrimitives) (purpose taskId extra purpose' taskId' extra' : String)
    (payload payload' : List UInt8) : Prop :=
  let Same := purpose = purpose' ∧ taskId = taskId' ∧ extra = extra' ∧
    p.sha256 payload = p.sha256 payload'
  let m := p.material purpose taskId payload extra
  let m' := p.material purpose' taskId' payload' extra'
  (m = m' → Same) ∧ ∀ secret key,
    p.verifySignature secret (p.signBytes secret purpose taskId payload extra key) purpose' taskId'
      payload' extra' key = .ok true →
    Same ∨ m ≠ m' ∧ p.hmac (HmacPrimitives.keyBytes secret key) m =
      p.hmac (HmacPrimitives.keyBytes secret key) m'

/-- **What a signature names.** It fails exactly for two triples of texts that are one text when they are
joined, with the bars at other places. -/
theorem signature_names_its_task_iff :
    Names p purpose taskId extra purpose' taskId' extra' payload payload' ↔
      (joined purpose taskId extra = joined purpose' taskId' extra' →
        p.sha256 payload = p.sha256 payload' →
        bars purpose = bars purpose' ∧ bars taskId = bars taskId') := by
  constructor
  · rintro ⟨hnames, -⟩ hjoined hdigest
    obtain ⟨rfl, rfl, -⟩ := hnames (material_eq_iff.mpr ⟨hjoined, hdigest⟩)
    exact ⟨rfl, rfl⟩
  intro h
  have hnames : p.material purpose taskId payload extra = p.material purpose' taskId' payload' extra' →
      purpose = purpose' ∧ taskId = taskId' ∧ extra = extra' ∧ p.sha256 payload = p.sha256 payload' := by
    intro hm
    obtain ⟨hjoined, hdigest⟩ := material_eq_iff.mp hm
    obtain ⟨hpurpose, htask⟩ := h hjoined hdigest
    obtain ⟨h1, h2, h3⟩ := joined_inj hpurpose htask hjoined
    exact ⟨h1, h2, h3, hdigest⟩
  refine ⟨hnames, fun secret key hvalid => ?_⟩
  by_cases hm : p.material purpose taskId payload extra = p.material purpose' taskId' payload' extra'
  · exact .inl (hnames hm)
  · exact .inr ⟨hm, signBytes_of_verify hvalid⟩

end Material

def plainHmac : HmacPrimitives where
  sha256 m := m
  hmac _ m := m

/-- Task `a|b` with `success`, and task `a` with `b|success`. -/
theorem signature_moves : ¬ Names plainHmac "result" "a|b" "success" "result" "a" "b|success" [1] [1] := by
  rintro ⟨hnames, -⟩
  have hjoined : joined "result" "a|b" "success" = joined "result" "a" "b|success" := by
    decide +kernel
  obtain ⟨-, htask, -⟩ := hnames (material_eq_iff.mpr ⟨hjoined, rfl⟩)
  exact absurd htask (by decide)

end NexusGrid.Security

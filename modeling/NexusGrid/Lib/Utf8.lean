import Mathlib.Data.String.Basic

/-! # UTF-8 bytes and fields between separators

The bytes of a text under UTF-8, and how joined texts are taken apart again.
-/

namespace NexusGrid.Lib

/-- What is left of the array at index `i`. -/
theorem bytes_from_index (bs : ByteArray) (i : Nat) (done : List UInt8) :
    ByteArray.toList.loop bs i done = done.reverse ++ bs.data.toList.drop i := by
  fun_induction ByteArray.toList.loop bs i done with
  | case1 i done hlt ih =>
    have hi : i < bs.data.size := hlt
    have hbyte : bs.get! i = bs.data.toList[i] := by
      exact getElem!_pos bs.data i hi
    have hdrop : bs.data.toList.drop i = bs.data.toList[i] :: bs.data.toList.drop (i + 1) :=
      List.drop_eq_getElem_cons hi
    rw [ih, hbyte, hdrop, List.reverse_cons, List.append_assoc]
    rfl
  | case2 i done hge =>
    have hi : bs.data.toList.length ≤ i := by simpa using hge
    rw [List.drop_eq_nil_of_le hi, List.append_nil]

theorem toList_eq_data (bs : ByteArray) : bs.toList = bs.data.toList := by
  rw [ByteArray.toList, bytes_from_index]
  rfl

theorem toUTF8_eq_flatMap (s : String) : s.toUTF8.toList = s.toList.flatMap String.utf8EncodeChar := by
  have hbytes : s.toUTF8 = (s.toList.flatMap String.utf8EncodeChar).toByteArray := String.utf8Encode_toList.symm
  rw [toList_eq_data, hbytes, List.toList_data_toByteArray]

theorem toUTF8_inj {s t : String} (h : s.toUTF8.toList = t.toUTF8.toList) : s = t := by
  rw [toList_eq_data, toList_eq_data] at h
  exact String.toByteArray_inj.mp (ByteArray.ext (Array.toList_inj.mp h))

theorem toNat_of_mem_utf8EncodeChar {c : Char} {b : UInt8} (hb : b.toNat < 128)
    (h : b ∈ String.utf8EncodeChar c) : c.toNat = b.toNat := by
  -- Every byte of a longer encoding has its highest bit set.
  have hhigh {k m base : Nat} (hm : 0 < m) (hbase : 128 ≤ base) (hle : m + base ≤ 256) :
      b ≠ UInt8.ofNat (k % m + base) := by
    rintro rfl
    have hlt := Nat.mod_lt k hm
    rw [UInt8.toNat_ofNat', Nat.mod_eq_of_lt (by omega)] at hb
    omega
  unfold String.utf8EncodeChar at h
  dsimp only at h
  split_ifs at h with h1 h2 h3
  · rw [List.mem_singleton.mp h, UInt8.toNat_ofNat']
    have hc : c.val.toNat < 256 := by omega
    exact (Nat.mod_eq_of_lt hc).symm
  all_goals simp only [List.mem_cons, List.not_mem_nil, or_false] at h
  · rcases h with h | h <;> exact absurd h (hhigh (by decide) (by decide) (by decide))
  · rcases h with h | h | h <;> exact absurd h (hhigh (by decide) (by decide) (by decide))
  · rcases h with h | h | h | h <;> exact absurd h (hhigh (by decide) (by decide) (by decide))

theorem notMem_toUTF8 {s : String} {c : Char} {b : UInt8} (hb : b.toNat < 128) (hc : c.toNat = b.toNat)
    (h : c ∉ s.toList) : b ∉ s.toUTF8.toList := by
  rw [toUTF8_eq_flatMap]
  intro hmem
  obtain ⟨c', hc', hbyte⟩ := List.mem_flatMap.mp hmem
  have heq : c' = c := Char.toNat_inj.mp ((toNat_of_mem_utf8EncodeChar hb hbyte).trans hc.symm)
  exact h (heq ▸ hc')

theorem utf8EncodeChar_ascii {c : Char} {b : UInt8} (hb : b.toNat < 128) (hc : c.toNat = b.toNat) :
    String.utf8EncodeChar c = [b] := by
  have hnat : c.val.toNat = b.toNat := hc
  have hval : c.val.toNat ≤ 127 := by omega
  have hbyte : UInt8.ofNat c.val.toNat = b := by rw [hnat, UInt8.ofNat_toNat]
  unfold String.utf8EncodeChar
  rw [if_pos hval]
  exact congrArg (fun x => [x]) hbyte

theorem count_toUTF8 {c : Char} {b : UInt8} (hb : b.toNat < 128) (hc : c.toNat = b.toNat) (s : String) :
    s.toUTF8.toList.count b = s.toList.count c := by
  rw [toUTF8_eq_flatMap]
  induction s.toList with
  | nil => rfl
  | cons c' cs ih =>
    rw [List.flatMap_cons, List.count_append, List.count_cons, ih]
    by_cases hsame : c' = c
    · rw [hsame, utf8EncodeChar_ascii hb hc]
      simp [Nat.add_comm]
    have hno : b ∉ String.utf8EncodeChar c' := fun hmem =>
      hsame (Char.toNat_inj.mp ((toNat_of_mem_utf8EncodeChar hb hmem).trans hc.symm))
    simp [List.count_eq_zero_of_not_mem hno, hsame]

variable {α : Type} {sep : α} {a b x y : List α}

theorem append_cons_inj_of_count [DecidableEq α] (hcount : a.count sep = b.count sep)
    (h : a ++ sep :: x = b ++ sep :: y) : a = b ∧ x = y := by
  rcases List.append_eq_append_iff.mp h with ⟨c, hb, hx⟩ | ⟨c, ha, hy⟩
  · -- what the second field has beyond the first would start with a separator
    cases c with
    | nil => exact ⟨by simpa using hb.symm, (List.cons.inj hx).2⟩
    | cons c cs =>
      cases hx
      rw [hb, List.count_append, List.count_cons_self] at hcount
      omega
  cases c with
  | nil => exact ⟨by simpa using ha, (List.cons.inj hy).2.symm⟩
  | cons c cs =>
    cases hy
    rw [ha, List.count_append, List.count_cons_self] at hcount
    omega

theorem append_cons_inj (ha : sep ∉ a) (hb : sep ∉ b) (h : a ++ sep :: x = b ++ sep :: y) : a = b ∧ x = y := by
  classical
  refine append_cons_inj_of_count ?_ h
  rw [List.count_eq_zero_of_not_mem ha, List.count_eq_zero_of_not_mem hb]

end NexusGrid.Lib

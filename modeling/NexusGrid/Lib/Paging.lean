import Mathlib.Data.List.Basic
import Mathlib.Order.Iterate
import Mathlib.Order.Lattice

/-! # Reading a log page by page

A server keeps a log of stamped entries, sorted by their stamps.
-/

namespace NexusGrid.Lib.Paging

variable {α κ : Type} [LinearOrder κ] (stamp : α → κ)

/-- The entries after `w`. -/
def after (log : List α) (w : κ) : List α := log.filter fun a => w < stamp a

/-- One page: the first `limit` entries after `w`. -/
def page (limit : Nat) (log : List α) (w : κ) : List α := (after stamp log w).take limit

/-- The last of `w` and the stamps of the entries. -/
def latest (w : κ) (entries : List α) : κ :=
  entries.foldl (fun latest a => if latest < stamp a then stamp a else latest) w

def next (limit : Nat) (log : List α) (w : κ) : κ := latest stamp w (page stamp limit log w)

variable {stamp} {limit : Nat} {log : List α} {w : κ}

theorem latest_cons (w : κ) (a : α) (entries : List α) :
    latest stamp w (a :: entries) = latest stamp (max w (stamp a)) entries := by
  have hmax : (if w < stamp a then stamp a else w) = max w (stamp a) := by rw [max_def_lt]
  show latest stamp (if w < stamp a then stamp a else w) entries = _
  rw [hmax]

theorem le_latest (w : κ) (entries : List α) : w ≤ latest stamp w entries := by
  induction entries generalizing w with
  | nil => exact le_refl w
  | cons a entries ih =>
    rw [latest_cons]
    exact (le_max_left w (stamp a)).trans (ih _)

variable {a b : α} {entries : List α}

theorem stamp_le_latest (ha : a ∈ entries) (w : κ) : stamp a ≤ latest stamp w entries := by
  induction entries generalizing w with
  | nil => cases ha
  | cons b entries ih =>
    rw [latest_cons]
    rcases List.mem_cons.mp ha with rfl | hmem
    · exact (le_max_right w (stamp a)).trans (le_latest _ entries)
    · exact ih hmem _

theorem latest_lt {v : κ} (hw : w < v) (h : ∀ a ∈ entries, stamp a < v) : latest stamp w entries < v := by
  induction entries generalizing w with
  | nil => exact hw
  | cons a entries ih =>
    rw [latest_cons]
    exact ih (max_lt hw (h a (.head _))) fun b hb => h b (List.mem_cons_of_mem a hb)

theorem mem_after : a ∈ after stamp log w ↔ a ∈ log ∧ w < stamp a := by
  simp [after, List.mem_filter]

theorem mem_of_mem_page (ha : a ∈ page stamp limit log w) : a ∈ log ∧ w < stamp a :=
  mem_after.mp (List.mem_of_mem_take ha)

theorem stamp_le_next (ha : a ∈ page stamp limit log w) : stamp a ≤ next stamp limit log w := stamp_le_latest ha w

theorem le_next (w : κ) : w ≤ next stamp limit log w := le_latest w _

theorem iterate_le_iterate (stamp : α → κ) (limit : Nat) (log : List α) (w : κ) {m n : Nat} (h : m ≤ n) :
    (next stamp limit log)^[m] w ≤ (next stamp limit log)^[n] w :=
  Function.monotone_iterate_of_id_le (fun v => le_next v) h w

theorem after_next (w : κ) : after stamp log (next stamp limit log w) =
    (after stamp log w).filter fun a => next stamp limit log w < stamp a := by
  unfold after
  rw [List.filter_filter]
  refine List.filter_congr fun a _ => ?_
  have hle : w ≤ next stamp limit log w := le_next w
  by_cases h : next stamp limit log w < stamp a
  · simp [h, hle.trans_lt h]
  · simp [h]

theorem filter_page (w : κ) : (page stamp limit log w).filter (fun a => next stamp limit log w < stamp a) = [] := by
  rw [List.filter_eq_nil_iff]
  intro a ha
  simpa using stamp_le_next ha

theorem after_next_of_lt (hlt : ∀ b ∈ (after stamp log w).drop limit, next stamp limit log w < stamp b) :
    after stamp log (next stamp limit log w) = (after stamp log w).drop limit := by
  have hsplit : after stamp log w = page stamp limit log w ++ (after stamp log w).drop limit :=
    (List.take_append_drop limit _).symm
  have hrest : ((after stamp log w).drop limit).filter
      (fun a => next stamp limit log w < stamp a) = (after stamp log w).drop limit := by
    rw [List.filter_eq_self]
    intro b hb
    simpa using hlt b hb
  rw [after_next]
  conv_lhs => rw [hsplit]
  rw [List.filter_append, filter_page, hrest, List.nil_append]

/-- Every `limit` entries there is a step between the stamps. -/
def NoTieSplit (stamp : α → κ) (limit : Nat) (entries : List α) : Prop :=
  ∀ i a b, entries[(i + 1) * limit - 1]? = some a → entries[(i + 1) * limit]? = some b → stamp a < stamp b

/-- Every entry after `w` is on some page. -/
def Complete (stamp : α → κ) (limit : Nat) (log : List α) (w : κ) : Prop :=
  ∀ a ∈ after stamp log w, ∃ n, a ∈ page stamp limit log ((next stamp limit log)^[n] w)

theorem complete_of_length_le (hlen : (after stamp log w).length ≤ limit) : Complete stamp limit log w := by
  intro a ha
  refine ⟨0, ?_⟩
  show a ∈ (after stamp log w).take limit
  rw [List.take_of_length_le hlen]
  exact ha

theorem noTieSplit_of_length_le (hlen : entries.length ≤ limit) : NoTieSplit stamp limit entries := by
  intro i a b _ hb
  have hlt : (i + 1) * limit < entries.length := (List.getElem?_eq_some_iff.mp hb).1
  have hle : 1 * limit ≤ (i + 1) * limit := Nat.mul_le_mul_right limit (by omega)
  omega

theorem noTieSplit_iff_drop (hlimit : 0 < limit) (ha : entries[limit - 1]? = some a) (hb : entries[limit]? = some b) :
    NoTieSplit stamp limit entries ↔ stamp a < stamp b ∧ NoTieSplit stamp limit (entries.drop limit) := by
  have hshift : ∀ i, (i + 1 + 1) * limit = limit + (i + 1) * limit := fun i => by
    rw [Nat.add_mul (i + 1) 1 limit, Nat.one_mul, Nat.add_comm]
  have hpos : ∀ i, 0 < (i + 1) * limit := fun i => Nat.mul_pos (by omega) hlimit
  constructor
  · intro h
    refine ⟨h 0 a b (by simpa using ha) (by simpa using hb), fun i x y hx hy => ?_⟩
    rw [List.getElem?_drop] at hx hy
    refine h (i + 1) x y ?_ ?_
    · rw [hshift, Nat.add_sub_assoc (hpos i)]
      exact hx
    rw [hshift]
    exact hy
  rintro ⟨hfirst, hrest⟩ i x y hx hy
  cases i with
  | zero =>
    rw [Nat.zero_add, Nat.one_mul] at hx hy
    rw [ha] at hx
    rw [hb] at hy
    cases hx
    cases hy
    exact hfirst
  | succ i =>
    refine hrest i x y ?_ ?_
    · rw [List.getElem?_drop, ← Nat.add_sub_assoc (hpos i), ← hshift]
      exact hx
    rw [List.getElem?_drop, ← hshift]
    exact hy

theorem stamp_le_of_le (hsorted : entries.Pairwise fun a b => stamp a ≤ stamp b) {i j : Nat} (hij : i ≤ j)
    (ha : entries[i]? = some a) (hb : entries[j]? = some b) : stamp a ≤ stamp b := by
  obtain ⟨hi, rfl⟩ := List.getElem?_eq_some_iff.mp ha
  obtain ⟨hj, rfl⟩ := List.getElem?_eq_some_iff.mp hb
  rcases Nat.lt_or_eq_of_le hij with hlt | rfl
  · exact List.pairwise_iff_getElem.mp hsorted i j hi hj hlt
  · exact le_refl _

theorem stamp_le_of_mem_page (hsorted : log.Pairwise fun a b => stamp a ≤ stamp b) {x : α}
    (ha : (after stamp log w)[limit - 1]? = some a) (hx : x ∈ page stamp limit log w) : stamp x ≤ stamp a := by
  obtain ⟨i, hi⟩ := List.mem_iff_getElem?.mp hx
  rw [page, List.getElem?_take] at hi
  split at hi
  · exact stamp_le_of_le (hsorted.filter _) (by omega) hi ha
  · cases hi

theorem stamp_le_of_mem_drop (hsorted : log.Pairwise fun a b => stamp a ≤ stamp b) {y : α}
    (hb : (after stamp log w)[limit]? = some b) (hy : y ∈ (after stamp log w).drop limit) : stamp b ≤ stamp y := by
  obtain ⟨j, hj⟩ := List.mem_iff_getElem?.mp hy
  rw [List.getElem?_drop] at hj
  exact stamp_le_of_le (hsorted.filter _) (by omega) hb hj

theorem notMem_page_of_mem_drop (hnodup : log.Nodup) {y : α}
    (hy : y ∈ (after stamp log w).drop limit) : y ∉ page stamp limit log w := by
  intro hpaged
  have hnodup' : (after stamp log w).Nodup := hnodup.filter _
  exact (List.disjoint_take_drop hnodup' (le_refl limit)) hpaged hy

theorem complete_iff_next (hnodup : log.Nodup)
    (hafter : after stamp log (next stamp limit log w) = (after stamp log w).drop limit) :
    Complete stamp limit log w ↔ Complete stamp limit log (next stamp limit log w) := by
  constructor
  · intro h y hy
    rw [hafter] at hy
    obtain ⟨m, hm⟩ := h y (List.mem_of_mem_drop hy)
    cases m with
    | zero => exact absurd hm (notMem_page_of_mem_drop hnodup hy)
    | succ m => exact ⟨m, hm⟩
  intro h x hx
  rw [← List.take_append_drop limit (after stamp log w), List.mem_append] at hx
  rcases hx with hpaged | hlater
  · exact ⟨0, hpaged⟩
  obtain ⟨m, hm⟩ := h x (hafter ▸ hlater)
  exact ⟨m + 1, hm⟩

theorem not_complete_of_le_next (hnodup : log.Nodup) (hb : b ∈ (after stamp log w).drop limit)
    (hbehind : stamp b ≤ next stamp limit log w) : ¬ Complete stamp limit log w := by
  intro h
  obtain ⟨m, hm⟩ := h b (List.mem_of_mem_drop hb)
  cases m with
  | zero => exact notMem_page_of_mem_drop hnodup hb hm
  | succ m =>
    have hreached : next stamp limit log w ≤ (next stamp limit log)^[m + 1] w :=
      iterate_le_iterate stamp limit log w (Nat.le_add_left 1 m)
    exact absurd (mem_of_mem_page hm).2 (not_lt.mpr (hbehind.trans hreached))

/-- **When paging is complete.** -/
theorem complete_iff (hlimit : 0 < limit) (hsorted : log.Pairwise fun a b => stamp a ≤ stamp b)
    (hnodup : log.Nodup) (w : κ) : Complete stamp limit log w ↔ NoTieSplit stamp limit (after stamp log w) := by
  -- induction on the number of entries that are left
  induction hn : (after stamp log w).length using Nat.strong_induction_on generalizing w with
  | _ n ih =>
  by_cases hlen : (after stamp log w).length ≤ limit
  · exact iff_of_true (complete_of_length_le hlen) (noTieSplit_of_length_le hlen)
  have hlt : limit < (after stamp log w).length := Nat.lt_of_not_le hlen
  -- `a` ends the first page, and `b` comes after it
  obtain ⟨a, ha⟩ : ∃ a, (after stamp log w)[limit - 1]? = some a := ⟨_, List.getElem?_eq_getElem (by omega)⟩
  obtain ⟨b, hb⟩ : ∃ b, (after stamp log w)[limit]? = some b := ⟨_, List.getElem?_eq_getElem hlt⟩
  rw [noTieSplit_iff_drop hlimit ha hb]
  by_cases hab : stamp a < stamp b
  · have hnext : ∀ y ∈ (after stamp log w).drop limit, next stamp limit log w < stamp y := by
      intro y hy
      refine latest_lt (mem_after.mp (List.mem_of_mem_drop hy)).2 fun x hx => ?_
      exact ((stamp_le_of_mem_page hsorted ha hx).trans_lt hab).trans_le (stamp_le_of_mem_drop hsorted hb hy)
    have hafter := after_next_of_lt hnext
    have hrec := ih _ (by rw [hafter, List.length_drop]; omega) (next stamp limit log w) rfl
    rw [hafter] at hrec
    rw [complete_iff_next hnodup hafter, hrec]
    exact (and_iff_right hab).symm
  · -- `b` has the stamp of `a`, which the watermark has reached
    have hapage : a ∈ page stamp limit log w := by
      refine List.mem_iff_getElem?.mpr ⟨limit - 1, ?_⟩
      rw [page, List.getElem?_take, if_pos (by omega)]
      exact ha
    have hbrest : b ∈ (after stamp log w).drop limit := by
      refine List.mem_iff_getElem?.mpr ⟨0, ?_⟩
      rw [List.getElem?_drop]
      exact hb
    have hbehind : stamp b ≤ next stamp limit log w := (not_lt.mp hab).trans (stamp_le_next hapage)
    exact iff_of_false (not_complete_of_le_next hnodup hbrest hbehind) fun h => hab h.1

theorem exists_page_eq_nil (stamp : α → κ) (log : List α) (hlimit : 0 < limit) (w : κ) :
    ∃ n, page stamp limit log ((next stamp limit log)^[n] w) = [] := by
  induction hn : (after stamp log w).length using Nat.strong_induction_on generalizing w with
  | _ n ih =>
  cases hafter : after stamp log w with
  | nil => exact ⟨0, by simp [page, hafter]⟩
  | cons a rest =>
    have hpaged : a ∈ page stamp limit log w := by
      obtain ⟨k, rfl⟩ := Nat.exists_eq_succ_of_ne_zero hlimit.ne'
      simp [page, hafter]
    -- the first entry is behind the new watermark
    have hfewer : (after stamp log (next stamp limit log w)).length < n := by
      rw [after_next, ← hn]
      refine List.length_filter_lt_length_iff_exists.mpr ⟨a, by simp [hafter], ?_⟩
      simpa using stamp_le_next hpaged
    obtain ⟨m, hm⟩ := ih _ hfewer (next stamp limit log w) rfl
    exact ⟨m + 1, hm⟩

theorem page_eq_nil_of_le {m n : Nat} (hmn : m ≤ n) (h : page stamp limit log ((next stamp limit log)^[m] w) = []) :
    page stamp limit log ((next stamp limit log)^[n] w) = [] := by
  obtain ⟨k, rfl⟩ := Nat.exists_eq_add_of_le' hmn
  have hfixed : next stamp limit log ((next stamp limit log)^[m] w) = (next stamp limit log)^[m] w := by
    conv_lhs => rw [next, h]
    rfl
  rw [Function.iterate_add_apply, Function.iterate_fixed hfixed]
  exact h

end NexusGrid.Lib.Paging

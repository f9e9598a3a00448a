import Mathlib.Data.List.Infix

/-! # Runs of a step function

A system is a step function `step : σ → ε → σ`.
-/

namespace NexusGrid.Lib

variable {σ ε : Type}

/-- The state reached from `s` by the events `es`. -/
def run (step : σ → ε → σ) (s : σ) (es : List ε) : σ := es.foldl step s

@[simp] theorem run_nil (step : σ → ε → σ) (s : σ) : run step s [] = s := rfl

@[simp] theorem run_cons (step : σ → ε → σ) (s : σ) (e : ε) (es : List ε) :
    run step s (e :: es) = run step (step s e) es := rfl

theorem run_append (step : σ → ε → σ) (s : σ) (es fs : List ε) : run step s (es ++ fs) = run step (run step s es) fs :=
  List.foldl_append ..

@[simp] theorem run_concat (step : σ → ε → σ) (s : σ) (es : List ε) (e : ε) :
    run step s (es ++ [e]) = step (run step s es) e := by
  rw [run_append]; rfl

/-- Every event of the run meets `C` in the state it is taken in. -/
def Along (step : σ → ε → σ) (C : σ → ε → Prop) (s : σ) : List ε → Prop
  | [] => True
  | e :: es => C s e ∧ Along step C (step s e) es

instance Along.instDecidable (step : σ → ε → σ) (C : σ → ε → Prop)
    [∀ s e, Decidable (C s e)] (s : σ) : (es : List ε) → Decidable (Along step C s es)
  | [] => .isTrue trivial
  | e :: es =>
    have := Along.instDecidable step C (step s e) es
    inferInstanceAs (Decidable (C s e ∧ Along step C (step s e) es))

@[simp] theorem along_nil (step : σ → ε → σ) (C : σ → ε → Prop) (s : σ) : Along step C s [] := trivial

theorem along_append (step : σ → ε → σ) (C : σ → ε → Prop) (s : σ) (es fs : List ε) :
    Along step C s (es ++ fs) ↔ Along step C s es ∧ Along step C (run step s es) fs := by
  induction es generalizing s with
  | nil => simp
  | cons e es ih => simp only [List.cons_append, Along, run_cons, ih, and_assoc]

theorem along_concat (step : σ → ε → σ) (C : σ → ε → Prop) (s : σ) (es : List ε) (e : ε) :
    Along step C s (es ++ [e]) ↔ Along step C s es ∧ C (run step s es) e := by
  rw [along_append]
  simp [Along]

variable {s : σ} {step : σ → ε → σ} {es : List ε} {P : σ → Prop} {C : σ → ε → Prop}

theorem Along.of_prefix {pre : List ε} (h : Along step C s es) (hpre : pre <+: es) : Along step C s pre := by
  obtain ⟨rest, rfl⟩ := hpre
  exact ((along_append step C s pre rest).mp h).1

theorem Along.mono {D : σ → ε → Prop} (himp : ∀ s e, C s e → D s e) (h : Along step C s es) :
    Along step D s es := by
  induction es generalizing s with
  | nil => exact along_nil _ _ s
  | cons e es ih => exact ⟨himp s e h.1, ih h.2⟩

/-- **The invariant rule.** -/
theorem run_invariant (hstep : ∀ s e, C s e → P s → P (step s e))
    (hs : P s) (hes : Along step C s es) : P (run step s es) := by
  induction es generalizing s with
  | nil => exact hs
  | cons e es ih => exact ih (hstep s e hes.1 hs) hes.2

theorem Along.and_invariant (hstep : ∀ s e, C s e → P s → P (step s e)) (hs : P s)
    (hes : Along step C s es) : Along step (fun s e => C s e ∧ P s) s es := by
  induction es generalizing s with
  | nil => exact along_nil _ _ s
  | cons e es ih => exact ⟨⟨hes.1, hs⟩, ih (hstep s e hes.1 hs) hes.2⟩

/-- Two conditions that agree in the states with `P`, which the events keep. -/
theorem along_congr {step : σ → ε → σ} {C D : σ → ε → Prop} {P : σ → Prop} (hCD : ∀ s e, P s → (C s e ↔ D s e))
    (hkeep : ∀ s e, P s → D s e → P (step s e)) {s : σ} (hs : P s) (es : List ε) :
    Along step C s es ↔ Along step D s es := by
  induction es generalizing s with
  | nil => exact Iff.rfl
  | cons e es ih =>
    rw [Along, Along, hCD s e hs]
    exact and_congr_right fun hD => ih (hkeep s e hs hD)

/-- **The exact rule.** -/
theorem always_iff_along {Q : σ → Prop} (hPQ : ∀ s, P s → Q s) (hkeep : ∀ s e, P s → C s e → P (step s e))
    (hbreak : ∀ s e, P s → Q (step s e) → C s e) (hs : P s) (es : List ε) :
    (∀ pre, pre <+: es → Q (run step s pre)) ↔ Along step C s es := by
  constructor
  · intro h
    induction es generalizing s with
    | nil => exact along_nil step C s
    | cons e es ih =>
      have hC : C s e := hbreak s e hs (h [e] ⟨es, rfl⟩)
      refine ⟨hC, ih (hkeep s e hs hC) fun pre hpre => ?_⟩
      exact h (e :: pre) (List.cons_prefix_cons.mpr ⟨rfl, hpre⟩)
  · intro h pre hpre
    exact hPQ _ (run_invariant (fun s e hC hP => hkeep s e hP hC) hs (h.of_prefix hpre))

/-- **The rule for a quantity that moves one way.** -/
theorem run_rel {R : σ → σ → Prop} (hrefl : ∀ s, R s s)
    (htrans : ∀ s t u, R s t → R t u → R s u) (hstep : ∀ s e, C s e → R s (step s e))
    {pre pre' : List ε} (hes : Along step C s es) (hpre : pre <+: pre') (hpre' : pre' <+: es) :
    R (run step s pre) (run step s pre') := by
  obtain ⟨rest, rfl⟩ := hpre
  have halong := ((along_append step C s pre rest).mp (hes.of_prefix hpre')).2
  rw [run_append]
  exact run_invariant (P := R (run step s pre))
    (fun t e hC hR => htrans _ _ _ hR (hstep t e hC)) (hrefl _) halong

theorem run_invariant_of_step (hstep : ∀ s e, P s → P (step s e)) (hs : P s) (es : List ε) : P (run step s es) := by
  induction es generalizing s with
  | nil => exact hs
  | cons e es ih => exact ih (hstep s e hs)

theorem run_invariant_hist {P : List ε → σ → Prop} (h0 : P [] s)
    (hstep : ∀ es e, C (run step s es) e → P es (run step s es) → P (es ++ [e]) (step (run step s es) e))
     (hes : Along step C s es) : P es (run step s es) := by
  induction es using List.reverseRecOn with
  | nil => exact h0
  | append_singleton es e ih =>
    rw [along_concat] at hes
    rw [run_concat]
    exact hstep es e hes.2 (ih hes.1)

/-- Some event of the run was taken in a state related to it by `R`. -/
def Once (step : σ → ε → σ) (R : σ → ε → Prop) (s : σ) : List ε → Prop
  | [] => False
  | e :: es => R s e ∨ Once step R (step s e) es

instance Once.instDecidable (step : σ → ε → σ) (R : σ → ε → Prop)
    [∀ s e, Decidable (R s e)] (s : σ) : (es : List ε) → Decidable (Once step R s es)
  | [] => .isFalse id
  | e :: es =>
    have := Once.instDecidable step R (step s e) es
    inferInstanceAs (Decidable (R s e ∨ Once step R (step s e) es))

theorem once_concat (step : σ → ε → σ) (R : σ → ε → Prop) (s : σ) (es : List ε) (e : ε) :
    Once step R s (es ++ [e]) ↔ Once step R s es ∨ R (run step s es) e := by
  induction es generalizing s with
  | nil => simp [Once]
  | cons e' es ih => simp only [List.cons_append, Once, run_cons, ih, or_assoc]

end NexusGrid.Lib

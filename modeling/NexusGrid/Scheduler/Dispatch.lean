import NexusGrid.Scheduler.Selection

/-! # Who gets a queued task

The ranking of the workers for a task does not depend on who polls, so that a task has one worker at its
head (`Heads`). Whoever is at the head gets a task, unless a poll raises: `Readable` says of the queued
tasks and of the statistics of the known workers that every field can be read as the number it is to be.
-/

namespace NexusGrid.Scheduler

open Lib

namespace Pool

variable {F : Type} {pool : Pool F} {w : String} {task : Task} {available : List (String × Fields)}
  {key : CandidateKey F} {queue : List Task}

def Known (pool : Pool F) (w : String) : Prop := (pool.allWorkers.lookup w).isSome = true

/-- The worker is one of `scored_workers` for the task. -/
def Eligible (pool : Pool F) (task : Task) (w : String) : Prop :=
  ∃ d info score, pool.demand task = some d ∧ (w, info) ∈ pool.allWorkers ∧ pool.usable w info = some true ∧
    pool.scoreOf d w info = some (some score)

theorem mem_scored {d : Demand} {l : List (String × Fields)} {scored : List (String × List (Num F))} {info : Fields}
    {score : List (Num F)} (h : pool.scoredWorkers d l = some scored) (hmem : (w, info) ∈ l)
    (hscore : pool.scoreOf d w info = some (some score)) : (w, score) ∈ scored := by
  induction l generalizing scored with
  | nil => cases hmem
  | cons x l ih =>
    simp only [scoredWorkers, Option.bind_eq_bind, Option.bind_eq_some_iff, Option.pure_def, Option.some.injEq] at h
    obtain ⟨first, hfirst, more, hmore, rfl⟩ := h
    rcases List.mem_cons.mp hmem with rfl | htail
    · cases hfirst.symm.trans hscore
      exact List.mem_append_left _ (by simp)
    · exact List.mem_append_right _ (ih hmore htail)

theorem Heads.unique {w' : String} (h : pool.Heads available task w) (h' : pool.Heads available task w') : w = w' := by
  obtain ⟨d, scored, score, hd, hscored, hhead⟩ := h
  obtain ⟨d', scored', score', hd', hscored', hhead'⟩ := h'
  cases hd.symm.trans hd'
  cases hscored.symm.trans hscored'
  exact congrArg Prod.fst (Option.some.inj (hhead.symm.trans hhead'))

/-- A worker that may have the task comes to the ranking. -/
theorem consider_of_demand {d : Demand} (hquota : pool.UnderQuota task) (hd : pool.demand task = some d)
    (hallowed : outside d.allowed w = false) (hbusy : w ∉ d.busy) (hraises : pool.consider w available task ≠ none) :
    ∃ scored, pool.scoredWorkers d available = some scored ∧
      ∀ score, (pool.sorted scored).head? = some (w, score) → ∃ key, pool.consider w available task =
        some (some key) := by
  obtain ⟨m, o, hm, ho, hless⟩ := hquota
  simp only [demand, hm, Option.bind_eq_bind, Option.bind_some, Option.bind_eq_some_iff, Option.pure_def,
    Option.some.injEq] at hd
  obtain ⟨manifest, hmanifest, reqRam, hram, reqCpu, hcpu, req, hreq, env, henv, failed, hfailed, rfl⟩ := hd
  simp only [consider, hm, ho, Option.bind_eq_bind, Option.bind_some, if_neg (not_le.mpr hless), hallowed, hbusy,
    hmanifest, hram, hcpu, hreq, henv, hfailed, Bool.false_eq_true, if_false] at hraises ⊢
  by_cases hall : m.preferredWorkers.all hashable
  · rw [guard, if_pos hall] at hraises ⊢
    cases hscored : pool.scoredWorkers _ available with
    | none =>
      rw [hscored] at hraises
      exact absurd rfl hraises
    | some scored =>
      refine ⟨scored, rfl, fun score hhead => ?_⟩
      rw [hscored] at hraises
      cases hage : pool.age env with
      | none => simp [hhead, hage] at hraises
      | some age => simp [hhead]
  · rw [guard, if_neg hall] at hraises
    exact absurd rfl hraises

/-! ## Polls that do not raise -/

/-- What a poll reads of the tasks and of the workers. -/
structure Readable (pool : Pool F) (queue : List Task) : Prop where
  metadata : ∀ t ∈ queue, ∃ m o, pool.extractTaskMetadata t = some m ∧ origin m = some o ∧
    m.preferredWorkers.all hashable = true
  demand : ∀ t ∈ queue, ∃ d env age, pool.demand t = some d ∧ dict t.env = some env ∧
    pool.age env = some age
  stats : ∀ x ∈ pool.allWorkers, ∀ ram cpu gpu, pool.workerFitScore x.2 ram cpu gpu ≠ none
  caps : ∀ x ∈ pool.allWorkers, ∀ t ∈ queue, pool.workerSupportsTask x.2 t ≠ none

section Reading

variable (hread : pool.Readable queue)
include hread

theorem availableWorkers_of_readable {l : List (String × Fields)} (hl : l ⊆ pool.allWorkers) :
    ∃ available, pool.availableWorkers l = some available ∧ available ⊆ l := by
  induction l with
  | nil => exact ⟨[], rfl, List.Subset.refl _⟩
  | cons x l ih =>
    obtain ⟨cid, info⟩ := x
    obtain ⟨more, hmore, hsub⟩ := ih fun y hy => hl (.tail _ hy)
    obtain ⟨usable, husable⟩ : ∃ usable, pool.usable cid info = some usable := by
      unfold usable
      split
      · exact Option.ne_none_iff_exists'.mp (by simpa using hread.stats _ (hl (.head _)) 128 10 false)
      · exact ⟨false, rfl⟩
    refine ⟨if usable then (cid, info) :: more else more, ?_, ?_⟩
    · simp [availableWorkers, husable, hmore]
    · split
      · exact List.cons_subset_cons _ hsub
      · exact List.subset_cons_of_subset _ hsub

theorem scoredWorkers_of_readable {d : Demand} (hd : d.task ∈ queue) {l : List (String × Fields)}
    (hl : l ⊆ pool.allWorkers) : ∃ scored, pool.scoredWorkers d l = some scored := by
  induction l with
  | nil => exact ⟨[], rfl⟩
  | cons x l ih =>
    obtain ⟨cid, info⟩ := x
    obtain ⟨more, hmore⟩ := ih fun y hy => hl (.tail _ hy)
    obtain ⟨score, hscore⟩ : ∃ score, pool.scoreOf d cid info = some score := by
      unfold scoreOf
      split
      · exact ⟨none, rfl⟩
      obtain ⟨supported, hsupported⟩ :=
        Option.ne_none_iff_exists'.mp (hread.caps _ (hl (.head _)) _ hd)
      obtain ⟨fit, hfit⟩ := Option.ne_none_iff_exists'.mp
        (hread.stats _ (hl (.head _)) d.reqRam d.reqCpu d.requireGpu)
      cases supported <;> simp [hsupported, hfit]
    exact ⟨(score.map fun s => (cid, s)).toList ++ more, by simp [scoredWorkers, hscore, hmore]⟩

theorem consider_of_readable (hmem : task ∈ queue) (hsub : available ⊆ pool.allWorkers) :
    ∃ found, pool.consider w available task = some found := by
  obtain ⟨m, o, hm, ho, hall⟩ := hread.metadata task hmem
  obtain ⟨d, env, age, hd, henv, hage⟩ := hread.demand task hmem
  have htask : d.task = task := by
    obtain ⟨_, _, _, _, htask, _⟩ := demand_spec hd
    exact htask
  obtain ⟨scored, hscored⟩ := scoredWorkers_of_readable hread (htask ▸ hmem) hsub
  simp only [demand, hm, henv, Option.bind_eq_bind, Option.bind_some, Option.bind_eq_some_iff,
    Option.pure_def, Option.some.injEq] at hd
  obtain ⟨manifest, hmanifest, reqRam, hram, reqCpu, hcpu, req, hreq, failed, hfailed, rfl⟩ := hd
  simp only [consider, hm, ho, hmanifest, hram, hcpu, hreq, henv, hfailed, hscored, hage, guard, hall,
    Option.bind_eq_bind, Option.bind_some, Option.pure_def, if_true]
  repeat' split
  all_goals exact ⟨_, rfl⟩

theorem best_of_readable (hsub : available ⊆ pool.allWorkers) {tasks : List Task} (htasks : tasks ⊆ queue)
    (acc : Option (CandidateKey F × Task)) : ∃ chosen, pool.best w available acc tasks = some chosen := by
  induction tasks generalizing acc with
  | nil => exact ⟨acc, rfl⟩
  | cons t tasks ih =>
    obtain ⟨found, hfound⟩ := consider_of_readable (w := w) hread (htasks (.head _)) hsub
    have hrest := ih fun y hy => htasks (.tail _ hy)
    simp only [best, hfound, Option.bind_eq_bind, Option.bind_some]
    cases found with
    | none => exact hrest acc
    | some key => exact hrest _

theorem select_of_readable (w : String) : pool.selectTaskForWorker w queue ≠ none := by
  obtain ⟨available, havailable, hsub⟩ :=
    availableWorkers_of_readable hread (List.Subset.refl pool.allWorkers)
  unfold selectTaskForWorker
  split
  · simp
  obtain ⟨chosen, hchosen⟩ := best_of_readable (w := w) hread hsub (List.Subset.refl _) none
  simp only [havailable, hchosen, Option.bind_eq_bind, Option.bind_some, Option.pure_def]
  repeat' split
  all_goals simp

end Reading

/-! ## The head of the ranking gets a task -/

theorem consider_of_best {acc : Option (CandidateKey F × Task)} (h : pool.best w available acc queue ≠ none) :
    ∀ t ∈ queue, pool.consider w available t ≠ none := by
  induction queue generalizing acc with
  | nil => exact fun t ht => absurd ht List.not_mem_nil
  | cons x queue ih =>
    intro t ht
    simp only [best, Option.bind_eq_bind] at h
    cases hx : pool.consider w available x with
    | none =>
      rw [hx] at h
      exact absurd rfl h
    | some found =>
      rw [hx, Option.bind_some] at h
      rcases List.mem_cons.mp ht with rfl | hmem
      · rw [hx]
        exact Option.some_ne_none _
      cases found with
      | none => exact ih h t hmem
      | some key => exact ih h t hmem

theorem best_isSome {acc r : Option (CandidateKey F × Task)} (h : pool.best w available acc queue = some r)
    (hsome : acc.isSome ∨ ∃ t ∈ queue, ∃ key, pool.consider w available t = some (some key)) : r.isSome := by
  induction queue generalizing acc with
  | nil =>
    cases h
    exact hsome.resolve_right (by simp)
  | cons x queue ih =>
    simp only [best, Option.bind_eq_bind, Option.bind_eq_some_iff] at h
    obtain ⟨found, hfound, h⟩ := h
    cases found with
    | none =>
      refine ih h (hsome.imp_right ?_)
      rintro ⟨t, ht, key, hkey⟩
      rcases List.mem_cons.mp ht with rfl | hmem
      · rw [hkey] at hfound
        cases hfound
      · exact ⟨t, hmem, key, hkey⟩
    | some key =>
      refine ih h (.inl ?_)
      unfold improve
      cases acc with
      | none => rfl
      | some old =>
        dsimp only
        split <;> rfl

theorem Known.of_mem {info : Fields} (h : (w, info) ∈ pool.allWorkers) : pool.Known w := by
  unfold Known
  cases hlookup : pool.allWorkers.lookup w with
  | some _ => rfl
  | none => exact absurd (List.lookup_eq_none_iff.mp hlookup (w, info) h) (by simp)

section Live

variable {d : Demand} {info : Fields} {score : List (Num F)}
  (hfloats : ∀ a b, pool.floats.le a b = true → pool.floats.lt b a = false)
  (hraises : ∀ w, pool.Known w → pool.selectTaskForWorker w queue ≠ none)

include hfloats in
theorem coolingDown_of_usable (h : pool.usable w info = some true) : pool.coolingDown w = false := by
  unfold usable at h
  split at h
  next hle => exact hfloats _ _ hle
  · cases h

include hfloats hraises

theorem select_eq (hmem : task ∈ queue) (hworker : (w, info) ∈ pool.allWorkers)
    (husable : pool.usable w info = some true) :
    ∃ available, pool.availableWorkers pool.allWorkers = some available ∧ ∃ chosen,
      pool.best w available none queue = some chosen ∧
        pool.selectTaskForWorker w queue = some (chosen.map Prod.snd) := by
  have hknown := Known.of_mem hworker
  have hcool := coolingDown_of_usable hfloats husable
  have hnot := hraises w hknown
  cases queue with
  | nil => cases hmem
  | cons first rest =>
    have hlookup : ¬ (pool.allWorkers.lookup w).isNone = true := by simpa [Known] using hknown
    simp only [selectTaskForWorker, if_neg hlookup, hcool, Bool.false_eq_true, if_false, Option.bind_eq_bind] at hnot ⊢
    cases havailable : pool.availableWorkers pool.allWorkers with
    | none =>
      rw [havailable] at hnot
      exact absurd rfl hnot
    | some available =>
      have hw := (mem_availableWorkers havailable).mpr ⟨hworker, husable⟩
      have hne : ¬ available.isEmpty = true := by
        rw [List.isEmpty_iff]
        exact List.ne_nil_of_mem hw
      rw [havailable, Option.bind_some, if_neg hne] at hnot
      refine ⟨available, rfl, ?_⟩
      cases hbest : pool.best w available none (first :: rest) with
      | none =>
        rw [hbest] at hnot
        exact absurd rfl hnot
      | some chosen => exact ⟨chosen, rfl, by rw [Option.bind_some, if_neg hne, hbest]; rfl⟩

/-- The head of the ranking gets a task. -/
theorem poll (hmem : task ∈ queue) (hquota : pool.UnderQuota task) (hd : pool.demand task = some d)
    (hworker : (w, info) ∈ pool.allWorkers) (husable : pool.usable w info = some true)
    (hscore : pool.scoreOf d w info = some (some score)) :
    ∃ available scored, pool.availableWorkers pool.allWorkers = some available ∧
      pool.scoredWorkers d available = some scored ∧
      ∀ s, (pool.sorted scored).head? = some (w, s) → ∃ t, pool.selectTaskForWorker w queue = some (some t) := by
  obtain ⟨available, havailable, chosen, hbest, hselect⟩ := select_eq hfloats hraises hmem hworker husable
  have hconsider : pool.consider w available task ≠ none :=
    consider_of_best (by rw [hbest]; exact Option.some_ne_none _) task hmem
  obtain ⟨houtside, hbusy, -, -⟩ := scoreOf_eq_some hscore
  obtain ⟨scored, hscored, hhead⟩ := consider_of_demand hquota hd houtside hbusy hconsider
  refine ⟨available, scored, havailable, hscored, fun s hs => ?_⟩
  obtain ⟨key, hkey⟩ := hhead s hs
  obtain ⟨⟨key', t⟩, rfl⟩ := Option.isSome_iff_exists.mp (best_isSome hbest (.inr ⟨task, hmem, key, hkey⟩))
  exact ⟨t, hselect⟩

end Live

end Pool

end NexusGrid.Scheduler

import Mathlib.Data.List.Infix

/-! Runs of a deterministic machine and the exactness rules for them. A rule
turns one step fact into a statement about every state of every run. -/
namespace Foundation.Run

variable {σ ε : Type*} (step : σ → ε → σ)

def run (s : σ) (events : List ε) : σ := events.foldl step s

/-- Every state of the run, the first and the last included. -/
def Throughout (P : σ → Prop) (s : σ) (events : List ε) : Prop :=
  ∀ before, before <+: events → P (run step s before)

/-- Every event of the run, with the state it is taken in. -/
def Guarded (G : σ → ε → Prop) (s : σ) (events : List ε) : Prop :=
  ∀ before event, before ++ [event] <+: events → G (run step s before) event

variable {step}

@[simp] theorem runNil (s : σ) : run step s [] = s := rfl

@[simp] theorem runCons (s : σ) (e : ε) (es : List ε) :
    run step s (e :: es) = run step (step s e) es := rfl

@[simp] theorem throughoutNil {P : σ → Prop} {s : σ} : Throughout step P s [] ↔ P s := by
  simp [Throughout]

theorem throughoutCons {P : σ → Prop} {s : σ} {e : ε} {es : List ε} :
    Throughout step P s (e :: es) ↔ P s ∧ Throughout step P (step s e) es := by
  constructor
  · intro h
    refine ⟨h [] (List.nil_prefix),?_⟩
    intro before pre
    exact h (e :: before) (List.cons_prefix_cons.mpr ⟨rfl,pre⟩)
  · rintro ⟨first,rest⟩ before pre
    cases before with
    | nil => exact first
    | cons head tail =>
      obtain ⟨rfl,below⟩ := List.cons_prefix_cons.mp pre
      exact rest tail below

@[simp] theorem guardedNil {G : σ → ε → Prop} {s : σ} : Guarded step G s [] ↔ True := by
  simp [Guarded]

theorem guardedCons {G : σ → ε → Prop} {s : σ} {e : ε} {es : List ε} :
    Guarded step G s (e :: es) ↔ G s e ∧ Guarded step G (step s e) es := by
  constructor
  · intro h
    refine ⟨h [] e (by simp),?_⟩
    intro before event pre
    exact h (e :: before) event (List.cons_prefix_cons.mpr ⟨rfl,pre⟩)
  · rintro ⟨first,rest⟩ before event pre
    cases before with
    | nil =>
      obtain ⟨rfl,_⟩ := List.cons_prefix_cons.mp pre
      exact first
    | cons head tail =>
      obtain ⟨rfl,below⟩ := List.cons_prefix_cons.mp pre
      exact rest tail event below

theorem guardedAnd {G H : σ → ε → Prop} {s : σ} {es : List ε} :
    Guarded step (fun s e => G s e ∧ H s e) s es ↔ Guarded step G s es ∧ Guarded step H s es :=
  ⟨fun h => ⟨fun before event pre => (h before event pre).1,fun before event pre => (h before event pre).2⟩,
    fun h before event pre => ⟨h.1 before event pre,h.2 before event pre⟩⟩

theorem throughoutLast {P : σ → Prop} {s : σ} {es : List ε} (h : Throughout step P s es) :
    P (run step s es) := h es (List.prefix_refl es)

theorem throughoutMono {P Q : σ → Prop} {s : σ} {es : List ε} (h : ∀ t, P t → Q t)
    (all : Throughout step P s es) : Throughout step Q s es :=
  fun before pre => h _ (all before pre)

section Rules
variable {I P : σ → Prop} {G T : σ → ε → Prop}

theorem invariantThroughout (keep : ∀ s e, I s → I (step s e)) {s : σ} (start : I s)
    (es : List ε) : Throughout step I s es := by
  induction es generalizing s with
  | nil => exact throughoutNil.mpr start
  | cons e es ih => exact throughoutCons.mpr ⟨start,ih (keep s e start)⟩

theorem invariantRun (keep : ∀ s e, I s → I (step s e)) {s : σ} (start : I s)
    (es : List ε) : I (run step s es) := throughoutLast (invariantThroughout keep start es)

/-- When one step keeps P, and meets T, exactly under G, a run keeps P throughout and all
its steps meet T exactly if all its steps meet G. I is whatever holds of the reachable
states anyway. -/
theorem throughoutAndIffGuarded (keep : ∀ s e, I s → I (step s e))
    (exact : ∀ s e, I s → P s → (P (step s e) ∧ T s e ↔ G s e)) {s : σ} (inv : I s) (start : P s)
    (es : List ε) : Throughout step P s es ∧ Guarded step T s es ↔ Guarded step G s es := by
  induction es generalizing s with
  | nil => simpa using start
  | cons e es ih =>
    rw [throughoutCons,guardedCons,guardedCons]
    constructor
    · rintro ⟨⟨_,rest⟩,met,meets⟩
      have next : P (step s e) := rest [] (List.nil_prefix)
      exact ⟨(exact s e inv start).mp ⟨next,met⟩,(ih (keep s e inv) next).mp ⟨rest,meets⟩⟩
    · rintro ⟨guard,rest⟩
      obtain ⟨next,met⟩ := (exact s e inv start).mpr guard
      obtain ⟨all,meets⟩ := (ih (keep s e inv) next).mpr rest
      exact ⟨⟨start,all⟩,met,meets⟩

theorem throughoutIffGuarded (keep : ∀ s e, I s → I (step s e))
    (exact : ∀ s e, I s → P s → (P (step s e) ↔ G s e)) {s : σ} (inv : I s) (start : P s)
    (es : List ε) : Throughout step P s es ↔ Guarded step G s es := by
  have both := throughoutAndIffGuarded (T := fun _ _ => True) keep
    (fun s e inv now => (and_iff_left trivial).trans (exact s e inv now)) inv start es
  exact (and_iff_left fun _ _ _ => trivial).symm.trans both

theorem throughoutStrengthen {Q : σ → Prop} (keep : ∀ s e, I s → I (step s e))
    (carry : ∀ s e, I s → Q s → P (step s e) → Q (step s e)) {s : σ} (inv : I s) (start : Q s)
    {es : List ε} (h : Throughout step P s es) : Throughout step Q s es := by
  induction es generalizing s with
  | nil => exact throughoutNil.mpr start
  | cons e es ih =>
    obtain ⟨_,rest⟩ := throughoutCons.mp h
    have next : P (step s e) := rest [] (List.nil_prefix)
    exact throughoutCons.mpr ⟨start,ih (keep s e inv) (carry s e inv start next) rest⟩

/-- When a lost P never comes back, its last state tells about the whole run. -/
theorem finalIffGuarded (keep : ∀ s e, I s → I (step s e))
    (exact : ∀ s e, I s → P s → (P (step s e) ↔ G s e))
    (lost : ∀ s e, I s → ¬ P s → ¬ P (step s e)) {s : σ} (inv : I s) (start : P s)
    (es : List ε) : P (run step s es) ↔ Guarded step G s es := by
  rw [← throughoutIffGuarded keep exact inv start es]
  refine ⟨?_,throughoutLast⟩
  induction es generalizing s with
  | nil => exact fun _ => throughoutNil.mpr start
  | cons e es ih =>
    intro last
    by_cases next : P (step s e)
    · exact throughoutCons.mpr ⟨start,ih (keep s e inv) next last⟩
    · have never : ∀ (fs : List ε) (t : σ), I t → ¬ P t → ¬ P (run step t fs) := by
        intro fs
        induction fs with
        | nil => exact fun _ _ h => h
        | cons f fs fih => exact fun t it h => fih _ (keep t f it) (lost t f it h)
      exact absurd last (never es _ (keep s e inv) next)

/-- A property of single steps that is G wherever P holds, where steps under G keep P. -/
theorem guardedIffCarried (carry : ∀ s e, P s → G s e → P (step s e)) (exact : ∀ s e, P s → (T s e ↔ G s e))
    {s : σ} (start : P s) (es : List ε) : Guarded step T s es ↔ Guarded step G s es := by
  induction es generalizing s with
  | nil => exact iff_of_true (guardedNil.mpr trivial) (guardedNil.mpr trivial)
  | cons e es ih =>
    rw [guardedCons,guardedCons,exact s e start]
    exact and_congr_right fun guard => ih (carry s e start guard)

/-- A property of single steps that the invariant makes equivalent to G. -/
theorem guardedCongr (keep : ∀ s e, I s → I (step s e)) (exact : ∀ s e, I s → (T s e ↔ G s e))
    {s : σ} (inv : I s) (es : List ε) : Guarded step T s es ↔ Guarded step G s es :=
  guardedIffCarried (fun s e inv _ => keep s e inv) exact inv es

theorem guardedIff (exact : ∀ s e, T s e ↔ G s e) (s : σ) (es : List ε) :
    Guarded step T s es ↔ Guarded step G s es :=
  guardedCongr (I := fun _ => True) (fun _ _ => id) (fun s e _ => exact s e) trivial es

end Rules

section Simulation
variable {τ : Type*} {abstract : τ → ε → τ} {R : σ → τ → Prop}

/-- What one step of two machines keeps, every run keeps. -/
theorem runSimulated (keep : ∀ s a e, R s a → R (step s e) (abstract a e)) {s : σ} {a : τ} (start : R s a)
    (es : List ε) : R (run step s es) (run abstract a es) := by
  induction es generalizing s a with
  | nil => exact start
  | cons e es ih => exact ih (keep s a e start)

end Simulation

end Foundation.Run

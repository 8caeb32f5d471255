import Mathlib.Data.List.Basic

/-!
# Runs of a stopping machine

A machine is a step function `step : σ → α → Except (Stop φ) σ`: an action either leads to a next
state, or is not possible in the state it is taken in (`disabled`), or ends the run with a fault
`f : φ` of the modelled program. `run` takes a list of actions, `Along` states a condition on the
history of actions (folded with `upd`) at each of them, and `Guarded` one on the state each of them
is taken in. What every step keeps, every run keeps: `run_keeps` and `run_guarded` for a property of
the state, `run_history` and `run_along` for a relation between the state and the history.
-/

namespace Machine

variable {σ α γ φ : Type*}

/-- Why a machine stops. -/
inductive Stop (φ : Type*) where
  | disabled
  | fault (f : φ)
  deriving DecidableEq, Repr

/-- Run a list of actions, stopping at the first one that does not step. -/
def run (step : σ → α → Except (Stop φ) σ) : σ → List α → Except (Stop φ) σ
  | s, [] => .ok s
  | s, a :: acts =>
    match step s a with
    | .ok s' => run step s' acts
    | .error e => .error e

/-- A step with a guard succeeds exactly where the guard holds. -/
theorem ite_ok_eq_ok {c : Prop} [Decidable c] {s s' : σ} {e : Stop φ} :
    (if c then Except.ok s else .error e) = .ok s' ↔ c ∧ s' = s := by
  by_cases h : c <;> simp [h, eq_comm]

/-- The state a list of actions leads to; the start if it does not run through. -/
def final (step : σ → α → Except (Stop φ) σ) (s : σ) (acts : List α) : σ :=
  match run step s acts with
  | .ok s' => s'
  | .error _ => s

section Run

variable {step : σ → α → Except (Stop φ) σ} {s s' : σ} {a : α} {acts : List α}

@[simp] theorem run_nil : run step s [] = .ok s := rfl

theorem run_cons_ok (h : step s a = .ok s') : run step s (a :: acts) = run step s' acts := by
  simp only [run, h]

theorem run_cons_error {e : Stop φ} (h : step s a = .error e) :
    run step s (a :: acts) = .error e := by
  simp only [run, h]

theorem run_cons_eq_ok {t : σ} :
    run step s (a :: acts) = .ok t ↔ ∃ s', step s a = .ok s' ∧ run step s' acts = .ok t := by
  cases h : step s a with
  | ok s' => simp [run_cons_ok h]
  | error e => simp [run_cons_error h]

theorem run_append_ok (h : run step s acts = .ok s') (acts' : List α) :
    run step s (acts ++ acts') = run step s' acts' := by
  induction acts generalizing s with
  | nil =>
    cases h
    rfl
  | cons a acts ih =>
    obtain ⟨s₁, h₁, h₂⟩ := run_cons_eq_ok.1 h
    rw [List.cons_append, run_cons_ok h₁, ih h₂]

theorem run_eq_ok_final (h : (run step s acts).isOk) :
    run step s acts = .ok (final step s acts) := by
  unfold final
  cases hrun : run step s acts with
  | ok s' => rfl
  | error e =>
    rw [hrun] at h
    cases h

/-- Where some step always uses up a measure and keeps `P`, some run uses it up. -/
theorem exists_run_measure_zero {P : σ → Prop} {μ : σ → Nat}
    (hstep : ∀ s, P s → 0 < μ s → ∃ a s', step s a = .ok s' ∧ μ s' < μ s ∧ P s') (hs : P s) :
    ∃ acts t, run step s acts = .ok t ∧ μ t = 0 ∧ P t := by
  induction hn : μ s using Nat.strongRecOn generalizing s with
  | ind n ih =>
    by_cases hzero : μ s = 0
    · exact ⟨[], s, rfl, hzero, hs⟩
    · obtain ⟨a, s', h, hless, hs'⟩ := hstep s hs (Nat.pos_of_ne_zero hzero)
      obtain ⟨acts, t, hrun, ht, hPt⟩ := ih (μ s') (hn ▸ hless) hs' rfl
      exact ⟨a :: acts, t, (run_cons_ok h).trans hrun, ht, hPt⟩

end Run

/-! ## Conditions on the history -/

/-- `C` holds of each action of the list, at the history of the actions before it. -/
def Along (upd : γ → α → γ) (C : γ → α → Prop) : γ → List α → Prop
  | _, [] => True
  | g, a :: acts => C g a ∧ Along upd C (upd g a) acts

section Along

variable {upd : γ → α → γ} {C D : γ → α → Prop} {g : γ} {a : α} {acts : List α}

instance Along.decidable [∀ g a, Decidable (C g a)] :
    ∀ (g : γ) (acts : List α), Decidable (Along upd C g acts)
  | _, [] => inferInstanceAs (Decidable True)
  | g, a :: acts =>
    have := Along.decidable (upd g a) acts
    inferInstanceAs (Decidable (C g a ∧ Along upd C (upd g a) acts))

theorem Along.and (hC : Along upd C g acts) (hD : Along upd D g acts) :
    Along upd (fun g a => C g a ∧ D g a) g acts := by
  induction acts generalizing g with
  | nil => trivial
  | cons a acts ih => exact ⟨⟨hC.1, hD.1⟩, ih hC.2 hD.2⟩

variable {step : σ → α → Except (Stop φ) σ} {s s' : σ}

/-- A relation between state and history that every admitted step keeps, every run of admitted
actions keeps. -/
theorem run_along {R : σ → γ → Prop}
    (hstep : ∀ s g a s', R s g → C g a → step s a = .ok s' → R s' (upd g a))
    (hrun : run step s acts = .ok s') (hC : Along upd C g acts) (hR : R s g) :
    R s' (acts.foldl upd g) := by
  induction acts generalizing s g with
  | nil => cases hrun; exact hR
  | cons a acts ih =>
    obtain ⟨s₁, h₁, h₂⟩ := run_cons_eq_ok.1 hrun
    exact ih h₂ hC.2 (hstep s g a s₁ hR hC.1 h₁)

/-- A relation between state and history that every step keeps, every run keeps. -/
theorem run_history {R : σ → γ → Prop}
    (hstep : ∀ s g a s', R s g → step s a = .ok s' → R s' (upd g a))
    (hrun : run step s acts = .ok s') (hR : R s g) : R s' (acts.foldl upd g) := by
  induction acts generalizing s g with
  | nil => cases hrun; exact hR
  | cons a acts ih =>
    obtain ⟨s₁, h₁, h₂⟩ := run_cons_eq_ok.1 hrun
    exact ih h₂ (hstep s g a s₁ hR h₁)

/-- A relation between the state and the actions so far that every step keeps. -/
theorem run_past {R : σ → List α → Prop}
    (hstep : ∀ s past a s', R s past → step s a = .ok s' → R s' (past ++ [a]))
    (hrun : run step s acts = .ok s') (hR : R s []) : R s' acts := by
  have hall : R s' (acts.foldl (fun past a => past ++ [a]) []) := run_history hstep hrun hR
  have hpast : acts.foldl (fun past a => past ++ [a]) [] = acts := by
    rw [List.foldl_append_eq_append, List.nil_append, ← List.flatMap_def, List.flatMap_singleton']
  rwa [hpast] at hall

/-- Where a step faults exactly if `C` fails, a run of possible actions is free of faults exactly
if `C` holds along it. -/
theorem run_no_fault_iff {R : σ → γ → Prop}
    (hstep : ∀ s g a s', R s g → step s a = .ok s' → R s' (upd g a))
    (hfault : ∀ s g a, R s g → step s a ≠ .error .disabled →
      ((∃ f, step s a = .error (.fault f)) ↔ ¬ C g a))
    (hpossible : run step s acts ≠ .error .disabled) (hR : R s g) :
    (∀ f, run step s acts ≠ .error (.fault f)) ↔ Along upd C g acts := by
  induction acts generalizing s g with
  | nil => simp [Along]
  | cons a acts ih =>
    cases h : step s a with
    | ok s' =>
      rw [run_cons_ok h] at hpossible ⊢
      have hC : C g a := by
        by_contra hC
        obtain ⟨f, hf⟩ := (hfault s g a hR (by simp [h])).2 hC
        simp [h] at hf
      rw [ih hpossible (hstep s g a s' hR h)]
      exact ⟨fun hrest => ⟨hC, hrest⟩, fun hall => hall.2⟩
    | error e =>
      rw [run_cons_error h] at hpossible ⊢
      cases e with
      | disabled => exact absurd rfl hpossible
      | fault f =>
        have hC : ¬ C g a := (hfault s g a hR (by simp [h])).1 ⟨f, h⟩
        exact ⟨fun hno => absurd rfl (hno f), fun hall => absurd hall.1 hC⟩

end Along

/-! ## Conditions on the state -/

/-- `C` holds of each action of the list, in the state it is taken in. -/
def Guarded (step : σ → α → Except (Stop φ) σ) (C : σ → α → Prop) : σ → List α → Prop
  | _, [] => True
  | s, a :: acts => C s a ∧
    match step s a with
    | .ok s' => Guarded step C s' acts
    | .error _ => True

section Guarded

variable {step : σ → α → Except (Stop φ) σ} {C : σ → α → Prop} {s s' : σ} {acts : List α}

instance Guarded.decidable [∀ s a, Decidable (C s a)] :
    ∀ (s : σ) (acts : List α), Decidable (Guarded step C s acts)
  | _, [] => inferInstanceAs (Decidable True)
  | s, a :: acts =>
    have : Decidable (match step s a with
        | .ok s' => Guarded step C s' acts
        | .error _ => True) :=
      match step s a with
      | .ok s' => Guarded.decidable s' acts
      | .error _ => inferInstanceAs (Decidable True)
    inferInstanceAs (Decidable (C s a ∧ _))

/-- What every admitted step keeps, every run of admitted actions keeps. -/
theorem run_guarded {P : σ → Prop} (hstep : ∀ s a s', P s → C s a → step s a = .ok s' → P s')
    (hrun : run step s acts = .ok s') (hC : Guarded step C s acts) (hs : P s) : P s' := by
  induction acts generalizing s with
  | nil => cases hrun; exact hs
  | cons a acts ih =>
    obtain ⟨s₁, h₁, h₂⟩ := run_cons_eq_ok.1 hrun
    obtain ⟨hadmitted, hrest⟩ := hC
    rw [h₁] at hrest
    exact ih h₂ hrest (hstep s a s₁ hs hadmitted h₁)

/-- Two conditions that agree wherever a run can be hold along the same runs. -/
theorem guarded_iff {D : σ → α → Prop} {I : σ → Prop}
    (hstep : ∀ s a s', I s → step s a = .ok s' → I s')
    (hiff : ∀ s a s', I s → step s a = .ok s' → (C s a ↔ D s a))
    (hrun : run step s acts = .ok s') (hs : I s) :
    Guarded step C s acts ↔ Guarded step D s acts := by
  induction acts generalizing s with
  | nil => exact Iff.rfl
  | cons a acts ih =>
    obtain ⟨s₁, h₁, h₂⟩ := run_cons_eq_ok.1 hrun
    have hhead := hiff s a s₁ hs h₁
    have htail := ih h₂ (hstep s a s₁ hs h₁)
    simp only [Guarded, h₁]
    exact and_congr hhead htail

/-- A condition that follows from another one wherever a run under this one can be. -/
theorem Guarded.imp {D : σ → α → Prop} {I : σ → Prop}
    (hstep : ∀ s a s', I s → C s a → step s a = .ok s' → I s')
    (himp : ∀ s a, I s → C s a → D s a) (h : Guarded step C s acts) (hs : I s) :
    Guarded step D s acts := by
  induction acts generalizing s with
  | nil => trivial
  | cons a acts ih =>
    obtain ⟨hC, hrest⟩ := h
    refine ⟨himp s a hs hC, ?_⟩
    cases hnext : step s a with
    | ok s' =>
      rw [hnext] at hrest
      exact ih hrest (hstep s a s' hs hC hnext)
    | error e => trivial

/-- A condition holds along a run if it does so along its parts. -/
theorem Guarded.append {acts' : List α} (h : Guarded step C s acts)
    (hrun : run step s acts = .ok s') (h' : Guarded step C s' acts') :
    Guarded step C s (acts ++ acts') := by
  induction acts generalizing s with
  | nil =>
    cases hrun
    exact h'
  | cons a acts ih =>
    obtain ⟨s₁, h₁, h₂⟩ := run_cons_eq_ok.1 hrun
    obtain ⟨hC, hrest⟩ := h
    simp only [List.cons_append, Guarded, h₁] at hrest ⊢
    exact ⟨hC, ih hrest h₂⟩

/-- A condition that holds of each action in whatever state it is taken. -/
theorem guarded_of_forall (h : ∀ s, ∀ a ∈ acts, C s a) : Guarded step C s acts := by
  induction acts generalizing s with
  | nil => trivial
  | cons a acts ih =>
    refine ⟨h s a List.mem_cons_self, ?_⟩
    cases step s a with
    | ok s' => exact ih fun s b hb => h s b (List.mem_cons_of_mem _ hb)
    | error e => trivial

/-- What every step keeps, every run keeps. -/
theorem run_keeps {P : σ → Prop} (hstep : ∀ s a s', P s → step s a = .ok s' → P s')
    (hrun : run step s acts = .ok s') (hs : P s) : P s' :=
  run_guarded (C := fun _ _ => True) (fun s a s' h _ => hstep s a s' h) hrun
    (guarded_of_forall fun _ _ _ => trivial) hs

end Guarded

/-- Where a step is possible exactly if its action satisfies `C`, whatever has been done before, a
run is possible exactly if all its actions do. -/
theorem exists_run_iff {step : σ → α → Except (Stop φ) σ} {I : σ → Prop} {C : α → Prop}
    (hI : ∀ s a s', I s → step s a = .ok s' → I s')
    (hstep : ∀ s a, I s → ((∃ s', step s a = .ok s') ↔ C a)) {s : σ} (hs : I s) (acts : List α) :
    (∃ t, run step s acts = .ok t) ↔ ∀ a ∈ acts, C a := by
  induction acts generalizing s with
  | nil => simp
  | cons a acts ih =>
    rw [List.forall_mem_cons, ← hstep s a hs]
    constructor
    · rintro ⟨t, ht⟩
      obtain ⟨s₁, h₁, h₂⟩ := run_cons_eq_ok.1 ht
      exact ⟨⟨s₁, h₁⟩, (ih (hI s a s₁ hs h₁)).1 ⟨t, h₂⟩⟩
    · rintro ⟨⟨s₁, h₁⟩, hrest⟩
      obtain ⟨t, ht⟩ := (ih (hI s a s₁ hs h₁)).2 hrest
      exact ⟨t, (run_cons_ok h₁).trans ht⟩

/-! ## Every state of a run -/

/-- `P` holds in every state a run passes through, the first and the last included. -/
def Throughout (step : σ → α → Except (Stop φ) σ) (P : σ → Prop) : σ → List α → Prop
  | s, [] => P s
  | s, a :: acts => P s ∧
    match step s a with
    | .ok s' => Throughout step P s' acts
    | .error _ => True

section Throughout

variable {step : σ → α → Except (Stop φ) σ} {P : σ → Prop} {C : σ → α → Prop} {s t : σ}
  {acts : List α}

instance Throughout.decidable [∀ s, Decidable (P s)] :
    ∀ (s : σ) (acts : List α), Decidable (Throughout step P s acts)
  | s, [] => inferInstanceAs (Decidable (P s))
  | s, a :: acts =>
    have : Decidable (match step s a with
        | .ok s' => Throughout step P s' acts
        | .error _ => True) :=
      match step s a with
      | .ok s' => Throughout.decidable s' acts
      | .error _ => inferInstanceAs (Decidable True)
    inferInstanceAs (Decidable (P s ∧ _))

theorem Throughout.head (h : Throughout step P s acts) : P s := by
  cases acts with
  | nil => exact h
  | cons a acts => exact h.1

/-- Where a step keeps `P` exactly if `C` holds of it, a run keeps `P` throughout exactly if `C`
holds along it. -/
theorem throughout_iff_guarded {I : σ → Prop}
    (hstep : ∀ s a s', I s → step s a = .ok s' → I s')
    (hiff : ∀ s a s', I s → P s → step s a = .ok s' → (P s' ↔ C s a))
    (hrun : run step s acts = .ok t) (hI : I s) (hP : P s) :
    Throughout step P s acts ↔ Guarded step C s acts := by
  induction acts generalizing s with
  | nil => exact iff_of_true hP trivial
  | cons a acts ih =>
    obtain ⟨s', hs', hrest⟩ := run_cons_eq_ok.1 hrun
    have hkeeps := hiff s a s' hI hP hs'
    simp only [Throughout, Guarded, hs', hP, true_and]
    by_cases hP' : P s'
    · rw [ih hrest (hstep s a s' hI hs') hP']
      exact ⟨fun h => ⟨hkeeps.1 hP', h⟩, fun h => h.2⟩
    · exact iff_of_false (fun h => hP' h.head) fun h => hP' (hkeeps.2 h.1)

end Throughout

end Machine

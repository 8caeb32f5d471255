import Mathlib.Data.List.Perm.Basic
import RMX2020.Machine.Run

/-!
# Logs

`emitted` is a log an observer could write without seeing the machine: each action contributes an
output that is computed from the history of the actions before it. A machine whose steps append
these outputs to a log of its own refines that observer: after a run the two logs are the same
(`run_emitted`), or the same up to order where a step may also reorder its log (`run_emitted_perm`).

One-way messages wait in a bag and are delivered in any order; delivering one appends its `effect`
to a log. `accounted` is the log together with what the bag still holds. Sending and logging add to
it, and delivering a message only reorders it (`accounted_deliver`), so whatever is said of it up to
order survives every schedule of deliveries.

A rate limiter keeps the time at which something last moved it, and lets the next thing through once
an interval has passed since. `Stamped` ties such a timestamp, 0 at the start, to the log of all
that has moved it, so that the test on the timestamp is a test on each entry of the log
(`Stamped.elapsed_iff`).
-/

namespace Machine

variable {σ α γ φ ε ε' μ : Type*}

/-- The outputs of the actions, each at the history of the actions before it. -/
def emitted (upd : γ → α → γ) (out : γ → α → List ε) : γ → List α → List ε
  | _, [] => []
  | g, a :: acts => out g a ++ emitted upd out (upd g a) acts

section Emitted

variable {upd : γ → α → γ} {out : γ → α → List ε} {g : γ} {acts : List α}

/-- A part of the outputs can be read off one by one. -/
theorem emitted_filterMap (f : ε → Option ε') :
    (emitted upd out g acts).filterMap f =
      emitted upd (fun g a => (out g a).filterMap f) g acts := by
  induction acts generalizing g with
  | nil => rfl
  | cons a acts ih =>
    simp only [emitted, List.filterMap_append]
    rw [ih]

/-- Outputs that need no history. -/
theorem emitted_toList (upd : γ → α → γ) (f : α → Option ε) (g : γ) (acts : List α) :
    emitted upd (fun _ a => (f a).toList) g acts = acts.filterMap f := by
  induction acts generalizing g with
  | nil => rfl
  | cons a acts ih =>
    rw [emitted, ih]
    cases h : f a <;> simp [h]

theorem emitted_append_perm {out₁ out₂ : γ → α → List ε} :
    (emitted upd (fun g a => out₁ g a ++ out₂ g a) g acts).Perm
      (emitted upd out₁ g acts ++ emitted upd out₂ g acts) := by
  induction acts generalizing g with
  | nil => exact List.Perm.nil
  | cons a acts ih =>
    simp only [emitted, List.append_assoc]
    refine List.Perm.append_left _ ?_
    have hswap := (ih (g := upd g a)).append_left (out₂ g a)
    exact hswap.trans (by
      rw [← List.append_assoc, ← List.append_assoc]
      exact List.perm_append_comm.append_right _)

variable {step : σ → α → Except (Stop φ) σ} {s s' : σ} {R : σ → γ → Prop}

/-- Where every step appends its output up to order, so does every run. -/
theorem run_emitted_perm (log : σ → List ε)
    (hstep : ∀ s g a s', R s g → step s a = .ok s' → R s' (upd g a))
    (hlog : ∀ s g a s', R s g → step s a = .ok s' → (log s').Perm (log s ++ out g a))
    (hrun : run step s acts = .ok s') (hR : R s g) :
    (log s').Perm (log s ++ emitted upd out g acts) := by
  induction acts generalizing s g with
  | nil =>
    cases hrun
    rw [emitted, List.append_nil]
  | cons a acts ih =>
    obtain ⟨s₁, h₁, h₂⟩ := run_cons_eq_ok.1 hrun
    have hrest := ih h₂ (hstep s g a s₁ hR h₁)
    rw [emitted, ← List.append_assoc]
    exact hrest.trans ((hlog s g a s₁ hR h₁).append_right _)

/-- Where every step appends its output, so does every run. -/
theorem run_emitted (log : σ → List ε)
    (hstep : ∀ s g a s', R s g → step s a = .ok s' → R s' (upd g a))
    (hlog : ∀ s g a s', R s g → step s a = .ok s' → log s' = log s ++ out g a)
    (hrun : run step s acts = .ok s') (hR : R s g) :
    log s' = log s ++ emitted upd out g acts := by
  induction acts generalizing s g with
  | nil =>
    cases hrun
    rw [emitted, List.append_nil]
  | cons a acts ih =>
    obtain ⟨s₁, h₁, h₂⟩ := run_cons_eq_ok.1 hrun
    rw [ih h₂ (hstep s g a s₁ hR h₁), hlog s g a s₁ hR h₁, emitted, List.append_assoc]

end Emitted

/-! ## Messages in flight -/

/-- The log and the effects of the messages still in flight. -/
def accounted (effect : μ → List ε) (inFlight : List μ) (log : List ε) : List ε :=
  log ++ inFlight.flatMap effect

section Accounted

variable {effect : μ → List ε} {inFlight : List μ} {log : List ε}

theorem accounted_send (m : μ) :
    accounted effect (inFlight ++ [m]) log = accounted effect inFlight log ++ effect m := by
  simp [accounted]

theorem accounted_deliver [DecidableEq μ] {m : μ} (hm : m ∈ inFlight) :
    (accounted effect (inFlight.erase m) (log ++ effect m)).Perm
      (accounted effect inFlight log) := by
  have hbag : (effect m ++ (inFlight.erase m).flatMap effect).Perm (inFlight.flatMap effect) := by
    rw [← List.flatMap_cons]
    exact (List.perm_cons_erase hm).symm.flatMap_right effect
  unfold accounted
  rw [List.append_assoc]
  exact hbag.append_left log

theorem accounted_log (new : List ε) :
    (accounted effect inFlight (log ++ new)).Perm (accounted effect inFlight log ++ new) := by
  unfold accounted
  rw [List.append_assoc, List.append_assoc]
  exact List.perm_append_comm.append_left log

end Accounted

/-! ## Timestamps -/

/-- The timestamp is the latest time in the log, and 0 before the first entry. -/
structure Stamped (time : μ → Int) (stamp : Int) (log : List μ) : Prop where
  nonneg : 0 ≤ stamp
  le : ∀ m ∈ log, time m ≤ stamp
  reached : stamp = 0 ∨ ∃ m ∈ log, time m = stamp

namespace Stamped

variable {time : μ → Int} {stamp now : Int} {log : List μ}

theorem nil : Stamped time 0 ([] : List μ) := by
  refine ⟨Int.le_refl 0, fun m hm => ?_, .inl rfl⟩
  cases hm

/-- Something moves the timestamp to its own time. -/
theorem push (h : Stamped time stamp log) (m : μ) (hm : stamp ≤ time m) :
    Stamped time (time m) (log ++ [m]) := by
  have hself : m ∈ log ++ [m] := List.mem_append_right _ (List.mem_singleton.2 rfl)
  refine ⟨Int.le_trans h.nonneg hm, fun m' hm' => ?_, .inr ⟨m, hself, rfl⟩⟩
  rcases List.mem_append.1 hm' with hold | hnew
  · exact Int.le_trans (h.le m' hold) hm
  · exact Int.le_of_eq (congrArg time (List.mem_singleton.1 hnew))

/-- An interval has passed since the timestamp exactly if it has since every entry of the log, and
since time 0. -/
theorem elapsed_iff (h : Stamped time stamp log) {interval : Int} :
    interval ≤ now - stamp ↔ interval ≤ now ∧ ∀ m ∈ log, interval ≤ now - time m := by
  constructor
  · intro hstamp
    have hnonneg := h.nonneg
    refine ⟨by omega, fun m hm => ?_⟩
    have hle := h.le m hm
    omega
  · rintro ⟨hzero, hall⟩
    rcases h.reached with rfl | ⟨m, hm, rfl⟩
    · rwa [Int.sub_zero]
    · exact hall m hm

end Stamped

end Machine

import RMX2020.Fingerprint.History

/-!
# The client the adapter answers

The relaying callbacks test `mClientCallback` before they use it. The replies that `cancel` and
`enumerate` make up themselves follow two pointers without a test: `mOplusClientCallback` is null
before the first `setNotify`, and the client inside it is null after `setNotify(null)`.
`no_null_use_iff` says exactly which sequences of calls and callbacks run into neither.
-/

namespace RMX2020.Fingerprint

open Machine

/-- The pending call, if the vendor's call returns `raw` now, has the adapter answer the client
itself. -/
def History.OwesAnswer (h : History) (raw : Oplus.RequestStatus) : Prop :=
  (h.pending = some .cancel ∧ h.cancelArrived = false) ∨
    (h.pending = some .enumerate ∧ OplusToAOSPRequestStatus raw = .SYS_OK ∧
      h.enumerateArrived = false)

instance (h : History) (raw : Oplus.RequestStatus) : Decidable (h.OwesAnswer raw) :=
  inferInstanceAs (Decidable (_ ∨ _))

/-- Where the adapter has to answer a client, the latest `setNotify` named one. -/
def ClientWhenAnswering (h : History) : Action → Prop
  | .reply (.status raw) => h.OwesAnswer raw → h.client.isSome
  | _ => True

theorem leave_cancel_fault_iff {a : BiometricsFingerprint} {raw : Oplus.RequestStatus} :
    (∃ e, HalCall.leave .cancel (.status raw) a = .error (.fault e)) ↔
      a.statics.receivedCancel = false ∧ a.client? = none := by
  rw [← BiometricsFingerprint.clientCallback_eq_error]
  simp only [HalCall.leave, HalCall.finish, BiometricsFingerprint.cancel]
  cases a.clientCallback <;> cases a.statics.receivedCancel <;> simp

theorem leave_enumerate_fault_iff {a : BiometricsFingerprint} {raw : Oplus.RequestStatus} :
    (∃ e, HalCall.leave .enumerate (.status raw) a = .error (.fault e)) ↔
      (OplusToAOSPRequestStatus raw = .SYS_OK ∧ a.statics.receivedEnumerate = false) ∧
        a.client? = none := by
  rw [← BiometricsFingerprint.clientCallback_eq_error]
  simp only [HalCall.leave, HalCall.finish, BiometricsFingerprint.enumerate]
  by_cases hown : OplusToAOSPRequestStatus raw = .SYS_OK ∧ a.statics.receivedEnumerate = false
  · simp only [hown, and_self, ↓reduceIte, true_and]
    cases a.clientCallback <;> simp
  · simp only [hown, ↓reduceIte, false_and, reduceCtorEq, exists_false]

/-- The code after the vendor's call uses a null pointer exactly where it answers a client that is
not there. -/
theorem leave_fault_iff {s : State} {h : History} {c : HalCall} {raw : Oplus.RequestStatus}
    (ht : Tracks s h) (hc : h.pending = some c) :
    (∃ e, c.leave (.status raw) s.adapter = .error (.fault e)) ↔
      h.OwesAnswer raw ∧ h.client = none := by
  unfold History.OwesAnswer
  rw [hc, ← ht.client, ← ht.canceled, ← ht.enumerated]
  cases c with
  | cancel => simp [leave_cancel_fault_iff]
  | enumerate => simp [leave_enumerate_fault_iff]
  | _ => simp [HalCall.leave, HalCall.finish, BiometricsFingerprint.enroll,
      BiometricsFingerprint.postEnroll, BiometricsFingerprint.remove,
      BiometricsFingerprint.setActiveGroup, BiometricsFingerprint.authenticate,
      BiometricsFingerprint.forwardStatus]

/-- A possible action faults exactly where the client it has to be answered to is missing. -/
theorem step_fault_iff {s : State} {h : History} {a : Action} (ht : Tracks s h)
    (hpossible : step s a ≠ .error .disabled) :
    (∃ e, step s a = .error (.fault e)) ↔ ¬ ClientWhenAnswering h a := by
  cases a with
  | reply v =>
    cases hp : s.pending with
    | none => simp [step, hp] at hpossible
    | some p =>
      obtain ⟨n, c⟩ := p
      have hpend : h.pending = some c := by rw [← ht.pending, hp]; rfl
      have hstep : (∃ e, step s (.reply v) = .error (.fault e)) ↔
          ∃ e, c.leave v s.adapter = .error (.fault e) := by
        rw [step_reply hp]
        cases hl : c.leave v s.adapter <;> simp
      rw [hstep]
      cases v with
      | status raw =>
        rw [leave_fault_iff ht hpend]
        simp only [ClientWhenAnswering, Classical.not_imp, Bool.not_eq_true,
          Option.isSome_eq_false_iff, Option.isNone_iff_eq_none]
      | number value =>
        cases c <;> simp [HalCall.leave, HalCall.finish, ClientWhenAnswering,
          BiometricsFingerprint.setNotify, BiometricsFingerprint.preEnroll,
          BiometricsFingerprint.getAuthenticatorId, BiometricsFingerprint.forward]
  | _ =>
    simp only [step, ClientWhenAnswering, not_true_eq_false, iff_false, not_exists]
    intro e
    split <;> simp

/-- **A sequence of calls and callbacks keeps off null pointers exactly if** whenever `cancel` or
`enumerate` has to answer the client itself, the latest `setNotify` named a client. -/
theorem no_null_use_iff (acts : List Action)
    (hpossible : run step State.init acts ≠ .error .disabled) :
    (∀ e, run step State.init acts ≠ .error (.fault e)) ↔
      Along History.record ClientWhenAnswering History.init acts :=
  run_no_fault_iff (fun _ _ _ _ ht hs => ht.step hs) (fun _ _ _ => step_fault_iff) hpossible
    Tracks.init

theorem no_null_use_cancel :
    let acts := [.call (.setNotify (some 0)), .reply (.number 7), .call .cancel,
      .reply (.status Oplus.RequestStatus.SYS_OK)]
    (∀ e, run step State.init acts ≠ .error (.fault e)) ↔
      Along History.record ClientWhenAnswering History.init acts :=
  no_null_use_iff _ (by decide)

/-- A `cancel` before the first `setNotify`, and one after `setNotify(null)`. -/
theorem null_use_reached :
    run step State.init [.call .cancel, .reply (.status Oplus.RequestStatus.SYS_OK)] =
        .error (.fault .mOplusClientCallback) ∧
      run step State.init [.call (.setNotify none), .reply (.number 7), .call .enumerate,
        .reply (.status Oplus.RequestStatus.SYS_OK)] = .error (.fault .mClientCallback) := by
  decide

end RMX2020.Fingerprint

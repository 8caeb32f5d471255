import RMX2020.Fingerprint.System

/-!
# The fallback enumeration

Where the vendor's `enumerate` returns `SYS_OK` and has sent no `onEnumerate`, the adapter sends the
fingers it knows, with a counter that runs down beside the loop and is narrowed to 32 bits by each
call. `fallback_enumeration`: the client then gets every known finger at its place, with as many
remaining as are still to come; in every other case the adapter sends nothing of its own.
-/

namespace RMX2020.Fingerprint

open Machine

/-- The events name the fingers in order, each with the number of those after it; without a finger
there is one event, of id 0. -/
structure WellCounted (deviceId : UInt64) (ids : List UInt32) (events : List ClientEvent) :
    Prop where
  unknown : ids = [] → events = [.onEnumerate deviceId 0 0 0]
  length : ids ≠ [] → events.length = ids.length
  entry : ∀ i finger, ids[i]? = some finger → ∃ remaining,
    events[i]? = some (.onEnumerate deviceId finger 0 remaining) ∧
      remaining.toNat + i + 1 = ids.length

section Countdown

variable {deviceId : UInt64} {ids : List UInt32}

theorem length_countdown : (countdown deviceId ids).length = ids.length := by
  induction ids with
  | nil => rfl
  | cons finger rest ih => rw [countdown, List.length_cons, ih, List.length_cons]

theorem countdown_get {i : Nat} {finger : UInt32} (h : ids[i]? = some finger) :
    (countdown deviceId ids)[i]? =
      some (.onEnumerate deviceId finger 0 (UInt32.ofNat (ids.length - 1 - i))) := by
  induction ids generalizing i with
  | nil => cases h
  | cons finger' rest ih =>
    rw [countdown, List.length_cons, Nat.add_sub_cancel]
    cases i with
    | zero =>
      cases h
      rfl
    | succ i =>
      have hrest : rest[i]? = some finger := h
      have hcount : rest.length - 1 - i = rest.length - (i + 1) := by omega
      rw [List.getElem?_cons_succ, ih hrest, hcount]

theorem fallback_wellCounted (hlen : ids.length < UInt32.size) :
    WellCounted deviceId ids (fallback deviceId ids) := by
  cases ids with
  | nil =>
    refine ⟨fun _ => rfl, fun hne => absurd rfl hne, fun i finger h => ?_⟩
    cases h
  | cons finger' rest =>
    refine ⟨fun hnil => ?_, fun _ => length_countdown, fun i finger h => ?_⟩
    · cases hnil
    · have hi : i < (finger' :: rest).length := (List.getElem?_eq_some_iff.1 h).1
      refine ⟨_, countdown_get h, ?_⟩
      rw [UInt32.toNat_ofNat_of_lt' (by omega)]
      omega

end Countdown

/-- **The fallback enumeration is complete and well counted**, in any state with a registered client
in which the vendor returns from `enumerate`: the adapter sends it exactly if the translated status
is `SYS_OK`, as it is for the vendor's `SYS_OK` alone, and no `onEnumerate` was received, and it
returns that status and changes nothing. -/
theorem fallback_enumeration {s : State} {n : Nat} {client : Client} (raw : Oplus.RequestStatus)
    (hpending : s.pending = some (n, .enumerate)) (hclient : s.adapter.client? = some client)
    (hlen : s.adapter.statics.knownFingers.length < UInt32.size) :
    let ret := OplusToAOSPRequestStatus raw
    let own := ret = .SYS_OK ∧ s.adapter.statics.receivedEnumerate = false
    (ret = .SYS_OK ↔ raw = Oplus.RequestStatus.SYS_OK) ∧
    ∃ s' events, step s (.reply (.status raw)) = .ok s' ∧
      s'.received = s.received ++ events.map (fun event => ⟨⟨client, event⟩, some n⟩) ∧
      (own → WellCounted s.adapter.statics.myDeviceId s.adapter.statics.knownFingers events) ∧
      (¬ own → events = []) ∧
      s'.completed = s.completed ++ [⟨n, .enumerate, some client, .status ret⟩] ∧
      s'.adapter = s.adapter := by
  intro ret own
  refine ⟨OplusToAOSPRequestStatus_ok_iff raw, ?_⟩
  have hcallback := BiometricsFingerprint.clientCallback_eq_ok.2 hclient
  have hleave : HalCall.leave .enumerate (.status raw) s.adapter =
      HalCall.finish BiometricsFingerprint.enumerate .status raw s.adapter := rfl
  rw [step_reply hpending, hleave, HalCall.finish, enumerate_leave hlen, hcallback]
  by_cases hown : own
  · rw [if_pos hown]
    refine ⟨_, fallback s.adapter.statics.myDeviceId s.adapter.statics.knownFingers, rfl, ?_,
      fun _ => fallback_wellCounted hlen, fun hnot => absurd hown hnot, ?_, rfl⟩
    · simp [State.finish]
    · simp [State.finish, hclient, ret]
  · rw [if_neg hown]
    refine ⟨_, [], rfl, ?_, fun h => absurd h hown, fun _ => rfl, ?_, rfl⟩
    · simp [State.finish]
    · simp [State.finish, hclient, ret]

/-- Fingers 7 and 9 are known, and the vendor returns without an `onEnumerate`. -/
def enumerating : State :=
  { adapter :=
      { statics := { myDeviceId := 5, knownFingers := [7, 9] }
        mOplusClientCallback := some ⟨some 0⟩ }
    pending := some (0, .enumerate) }

theorem fallback_enumeration_two :
    ∃ s' events, step enumerating (.reply (.status Oplus.RequestStatus.SYS_OK)) = .ok s' ∧
      s'.received = enumerating.received ++ events.map (fun event => ⟨⟨0, event⟩, some 0⟩) ∧
      WellCounted 5 [7, 9] events := by
  obtain ⟨-, s', events, hstep, hreceived, hown, -⟩ :=
    @fallback_enumeration enumerating 0 0 Oplus.RequestStatus.SYS_OK rfl rfl (by decide)
  exact ⟨s', events, hstep, hreceived, hown ⟨by decide, rfl⟩⟩

end RMX2020.Fingerprint

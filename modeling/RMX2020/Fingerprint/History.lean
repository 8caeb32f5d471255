import Mathlib.Data.Finset.Basic
import Mathlib.Data.Finset.Dedup
import RMX2020.Fingerprint.System

/-!
# What has happened so far

An abstract view of a run, read off its actions alone: which HAL call waits, which client the latest
`setNotify` named, what the vendor has sent while serving the call, what has been delivered since,
the last `onSyncTemplates`, the templates the vendor has announced as existing, the group of the
latest successful `setActiveGroup`, and who was sent an `ERROR_CANCELED` without being registered.
`Tracks` says which of it the adapter's own variables hold, and `run_tracks` that they hold it after
every run. Three of the fields, `announced`, `group` and `misaddressed`, have no counterpart in the
adapter.
-/

namespace RMX2020.Fingerprint

open Machine

structure History where
  pending : Option HalCall := none
  /-- The client of the latest `setNotify`, if that was not null. -/
  client : Option Client := none
  /-- What the vendor has sent while serving the pending call. -/
  served : List (OplusClientCallback × VendorCallback) := []
  /-- An `ERROR_CANCELED` was delivered since the latest `cancel()`. -/
  cancelArrived : Bool := false
  /-- An `onEnumerate` was delivered since the latest `enumerate()`. -/
  enumerateArrived : Bool := false
  /-- The last `onSyncTemplates` delivered. -/
  lastSync : Option (UInt64 × HidlVec UInt32) := none
  /-- The templates announced as existing: the last sync, then enrolments and removals. -/
  announced : Finset UInt32 := ∅
  /-- An enrolment or a removal was delivered since the last sync. -/
  changed : Bool := false
  /-- The group of the latest `setActiveGroup` that returned `SYS_OK`. -/
  group : Option UInt32 := none
  /-- The clients on whose objects an `ERROR_CANCELED` was sent while they were not registered. -/
  misaddressed : List Client := []

namespace VendorCallback

/-- The templates that exist once a callback has been delivered. -/
def announced (before : Finset UInt32) : VendorCallback → Finset UInt32
  | onSyncTemplates _ ids _ => ids.toList.toFinset
  | onEnrollResult _ f _ r => if r = 0 then insert f before else before
  | onRemoved _ f _ _ => before.erase f
  | _ => before

def changed (before : Bool) : VendorCallback → Bool
  | onSyncTemplates .. => false
  | onEnrollResult _ _ _ r => before || decide (r = 0)
  | onRemoved .. => true
  | _ => before

end VendorCallback

namespace History

def init : History := {}

def record (h : History) : Action → History
  | .call c =>
    { h with
      pending := some c
      client := match c with
        | .setNotify client => client
        | _ => h.client
      served := []
      cancelArrived := if c = .cancel then false else h.cancelArrived
      enumerateArrived := if c = .enumerate then false else h.enumerateArrived }
  | .send target m =>
    { h with
      served := if h.pending.isSome then h.served ++ [(target, m)] else h.served
      misaddressed := if m.isCanceled ∧ target.mClientCallback ≠ h.client then
          target.mClientCallback.toList ++ h.misaddressed
        else h.misaddressed }
  | .deliver t =>
    { h with
      cancelArrived := h.cancelArrived || t.callback.isCanceled
      enumerateArrived := h.enumerateArrived || t.callback.isEnumerate
      lastSync := t.callback.sync.or h.lastSync
      announced := t.callback.announced h.announced
      changed := t.callback.changed h.changed }
  | .reply v =>
    { h with
      pending := none
      group := match h.pending, v with
        | some (.setActiveGroup g _), .status raw =>
          if OplusToAOSPRequestStatus raw = .SYS_OK then some g else h.group
        | _, _ => h.group }

/-- The device id of the last sync; the adapter's static starts at 0. -/
def deviceId (h : History) : UInt64 := (h.lastSync.map Prod.fst).getD 0

/-- The finger ids of the last sync; none before the first. -/
def synced (h : History) : List UInt32 := (h.lastSync.map fun p => p.2.toList).getD []

theorem synced_length (h : History) : h.synced.length < UInt32.size := by
  unfold synced
  cases h.lastSync with
  | none => decide
  | some p => exact p.2.size_lt

end History

/-- The adapter's variables hold what the history says. -/
structure Tracks (s : State) (h : History) : Prop where
  pending : s.pending.map Prod.snd = h.pending
  client : s.adapter.client? = h.client
  canceled : s.adapter.statics.receivedCancel = h.cancelArrived
  enumerated : s.adapter.statics.receivedEnumerate = h.enumerateArrived
  deviceId : s.adapter.statics.myDeviceId = h.deviceId
  fingers : s.adapter.statics.knownFingers = h.synced

namespace Tracks

theorem init : Tracks State.init History.init := ⟨rfl, rfl, rfl, rfl, rfl, rfl⟩

theorem knownFingers_length {s : State} {h : History} (ht : Tracks s h) :
    s.adapter.statics.knownFingers.length < UInt32.size := by
  rw [ht.fingers]
  exact h.synced_length

variable {s s' : State} {h : History}

theorem call (ht : Tracks s h) (c : HalCall) : Tracks (s.begin c) (h.record (.call c)) := by
  refine ⟨rfl, ?_, ?_, ?_, ?_, ?_⟩
  · cases c <;> first | rfl | exact ht.client
  · cases c <;> first | rfl | exact ht.canceled
  · cases c <;> first | rfl | exact ht.enumerated
  · cases c <;> exact ht.deviceId
  · cases c <;> exact ht.fingers

theorem deliver (ht : Tracks s h) (t : Transaction) :
    Tracks (s.deliver t) (h.record (.deliver t)) := by
  have hstatics : (s.deliver t).adapter.statics =
      (t.target.receive s.adapter.statics t.callback).1 := rfl
  rw [OplusClientCallback.receive_fst] at hstatics
  refine ⟨ht.pending, ht.client, ?_, ?_, ?_, ?_⟩
  · simp only [hstatics, History.record, ht.canceled]
  · simp only [hstatics, History.record, ht.enumerated]
  · simp only [hstatics, History.record, History.deviceId, ht.deviceId]
    cases t.callback.sync <;> rfl
  · simp only [hstatics, History.record, History.synced, ht.fingers]
    cases t.callback.sync <;> rfl

/-- Every step keeps the adapter's variables and the history in step. -/
theorem step {a : Action} (ht : Tracks s h) (hs : step s a = .ok s') : Tracks s' (h.record a) := by
  cases a with
  | call c =>
    obtain ⟨-, rfl⟩ := step_call_eq_ok.1 hs
    exact ht.call c
  | send target m =>
    obtain ⟨-, rfl⟩ := step_send_eq_ok.1 hs
    exact ⟨ht.pending, ht.client, ht.canceled, ht.enumerated, ht.deviceId, ht.fingers⟩
  | deliver t =>
    obtain ⟨-, rfl⟩ := step_deliver_eq_ok.1 hs
    exact ht.deliver t
  | reply v =>
    obtain ⟨n, c, told, ret, -, -, rfl⟩ := step_reply_eq_ok.1 hs
    exact ⟨rfl, ht.client, ht.canceled, ht.enumerated, ht.deviceId, ht.fingers⟩

end Tracks

/-- **After every run** the adapter's variables hold what has happened in it. -/
theorem run_tracks {s : State} {acts : List Action} (hrun : run step State.init acts = .ok s) :
    Tracks s (acts.foldl History.record History.init) :=
  run_history (fun _ _ _ _ ht hs => ht.step hs) hrun Tracks.init

/-! ## What the vendor sends -/

/-- Everything the vendor has sent satisfies `P`: what is in flight, and what brought the last
sync. -/
structure Sent (P : VendorCallback → Prop) (s : State) (h : History) : Prop where
  inFlight : ∀ t ∈ s.inFlight, P t.callback
  lastSync : ∀ p ∈ h.lastSync, ∃ m, P m ∧ m.sync = some p

namespace Sent

variable {P : VendorCallback → Prop} {s s' : State} {h : History}

theorem init : Sent P State.init History.init := by
  constructor
  · intro t ht
    cases ht
  · intro p hp
    cases hp

theorem step {a : Action} (hi : Sent P s h) (hsend : ∀ target m, a = .send target m → P m)
    (hs : step s a = .ok s') : Sent P s' (h.record a) := by
  cases a with
  | call c =>
    obtain ⟨-, rfl⟩ := step_call_eq_ok.1 hs
    exact ⟨hi.inFlight, hi.lastSync⟩
  | send target m =>
    obtain ⟨-, rfl⟩ := step_send_eq_ok.1 hs
    refine ⟨fun t ht => ?_, hi.lastSync⟩
    rcases List.mem_append.1 ht with ht | ht
    · exact hi.inFlight t ht
    · rw [List.mem_singleton.1 ht]
      exact hsend target m rfl
  | deliver t =>
    obtain ⟨hmem, rfl⟩ := step_deliver_eq_ok.1 hs
    refine ⟨fun t' ht' => hi.inFlight t' (List.mem_of_mem_erase ht'), fun p hp => ?_⟩
    have hlast : p ∈ t.callback.sync.or h.lastSync := hp
    cases hsync : t.callback.sync with
    | none =>
      rw [hsync] at hlast
      exact hi.lastSync p hlast
    | some q =>
      rw [hsync] at hlast
      refine ⟨t.callback, hi.inFlight t hmem, ?_⟩
      rw [hsync]
      exact hlast
  | reply v =>
    obtain ⟨n, c, told, ret, -, -, rfl⟩ := step_reply_eq_ok.1 hs
    exact ⟨hi.inFlight, hi.lastSync⟩

end Sent

end RMX2020.Fingerprint

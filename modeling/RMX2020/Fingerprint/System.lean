import RMX2020.Machine.Run
import RMX2020.Machine.Log
import RMX2020.Fingerprint.Adapter

/-!
# The adapter between the framework and the vendor

The adapter as a machine: the framework calls a HAL method (one at a time, the pool has one thread),
the vendor sends one-way callbacks to callback objects it was given, each of them is delivered at
any later step and in any order, and the vendor's call returns with any value. `step` runs the
adapter's code at each of these actions.

Three fields are bookkeeping that no code reads: a transaction and a client's receipt carry the
number of the HAL call they belong to (`during`), and `completed` records what each call returned.
-/

namespace RMX2020.Fingerprint

open Machine

/-- A call of the framework on the HAL. -/
inductive HalCall where
  | setNotify (clientCallback : Option Client)
  | preEnroll
  | enroll (hat : Vector UInt8 69) (gid timeoutSec : UInt32)
  | postEnroll
  | getAuthenticatorId
  | cancel
  | enumerate
  | remove (gid fid : UInt32)
  | setActiveGroup (gid : UInt32) (storePath : String)
  | authenticate (operationId : UInt64) (gid : UInt32)
  deriving DecidableEq

/-- What the vendor's service returns. -/
inductive VendorReply where
  | number (value : UInt64)
  | status (req : Oplus.RequestStatus)
  deriving DecidableEq

/-- What a HAL call returns to the framework. -/
inductive HalReply where
  | number (value : UInt64)
  | status (ret : RequestStatus)
  deriving DecidableEq

namespace HalCall

def enter : HalCall → BiometricsFingerprint → BiometricsFingerprint
  | setNotify c => (BiometricsFingerprint.setNotify c).enter
  | preEnroll => BiometricsFingerprint.preEnroll.enter
  | enroll hat gid t => (BiometricsFingerprint.enroll hat gid t).enter
  | postEnroll => BiometricsFingerprint.postEnroll.enter
  | getAuthenticatorId => BiometricsFingerprint.getAuthenticatorId.enter
  | cancel => BiometricsFingerprint.cancel.enter
  | enumerate => BiometricsFingerprint.enumerate.enter
  | remove gid fid => (BiometricsFingerprint.remove gid fid).enter
  | setActiveGroup gid path => (BiometricsFingerprint.setActiveGroup gid path).enter
  | authenticate op gid => (BiometricsFingerprint.authenticate op gid).enter

def request : HalCall → BiometricsFingerprint → VendorRequest
  | setNotify c => (BiometricsFingerprint.setNotify c).request
  | preEnroll => BiometricsFingerprint.preEnroll.request
  | enroll hat gid t => (BiometricsFingerprint.enroll hat gid t).request
  | postEnroll => BiometricsFingerprint.postEnroll.request
  | getAuthenticatorId => BiometricsFingerprint.getAuthenticatorId.request
  | cancel => BiometricsFingerprint.cancel.request
  | enumerate => BiometricsFingerprint.enumerate.request
  | remove gid fid => (BiometricsFingerprint.remove gid fid).request
  | setActiveGroup gid path => (BiometricsFingerprint.setActiveGroup gid path).request
  | authenticate op gid => (BiometricsFingerprint.authenticate op gid).request

/-- Finish a method whose vendor call returned `value`. -/
def finish {ρ τ : Type} (method : Method ρ τ) (wrap : τ → HalReply) (value : ρ)
    (a : BiometricsFingerprint) : Except (Stop NullUse) (List ClientCall × HalReply) :=
  match method.leave value a with
  | .ok (told, ret) => .ok (told, wrap ret)
  | .error e => .error (.fault e)

/-- The code after the vendor's call. A reply of the other type is not one the interface allows. -/
def leave : HalCall → VendorReply → BiometricsFingerprint →
    Except (Stop NullUse) (List ClientCall × HalReply)
  | setNotify c, .number v => finish (BiometricsFingerprint.setNotify c) .number v
  | preEnroll, .number v => finish BiometricsFingerprint.preEnroll .number v
  | enroll hat gid t, .status req => finish (BiometricsFingerprint.enroll hat gid t) .status req
  | postEnroll, .status req => finish BiometricsFingerprint.postEnroll .status req
  | getAuthenticatorId, .number v => finish BiometricsFingerprint.getAuthenticatorId .number v
  | cancel, .status req => finish BiometricsFingerprint.cancel .status req
  | enumerate, .status req => finish BiometricsFingerprint.enumerate .status req
  | remove gid fid, .status req => finish (BiometricsFingerprint.remove gid fid) .status req
  | setActiveGroup gid path, .status req =>
    finish (BiometricsFingerprint.setActiveGroup gid path) .status req
  | authenticate op gid, .status req =>
    finish (BiometricsFingerprint.authenticate op gid) .status req
  | _, _ => fun _ => .error .disabled

end HalCall

/-- A one-way call of the vendor on a callback object, on its way. -/
structure Transaction where
  target : OplusClientCallback
  callback : VendorCallback
  /-- The HAL call the vendor was serving when it sent this, if any. -/
  during : Option Nat
  deriving DecidableEq

/-- A call a client has received. -/
structure Receipt where
  call : ClientCall
  /-- The HAL call it belongs to, if any. -/
  during : Option Nat
  deriving DecidableEq

/-- A HAL call that has returned, with the client that was registered then. -/
structure Completed where
  number : Nat
  call : HalCall
  client : Option Client
  reply : HalReply
  deriving DecidableEq

structure State where
  adapter : BiometricsFingerprint := {}
  /-- The callback objects the vendor has been given. -/
  handed : List OplusClientCallback := []
  /-- The HAL call that waits for the vendor, with its number. -/
  pending : Option (Nat × HalCall) := none
  begun : Nat := 0
  inFlight : List Transaction := []
  received : List Receipt := []
  completed : List Completed := []
  deriving DecidableEq

inductive Action where
  | call (c : HalCall)
  | send (target : OplusClientCallback) (m : VendorCallback)
  | deliver (t : Transaction)
  | reply (v : VendorReply)
  deriving DecidableEq

namespace State

/-- The freshly constructed adapter. -/
def init : State := {}

def begin (s : State) (c : HalCall) : State :=
  let a := c.enter s.adapter
  { s with
    adapter := a
    handed := match c.request a with
      | .setNotify (some cb) => s.handed ++ [cb]
      | _ => s.handed
    pending := some (s.begun, c)
    begun := s.begun + 1 }

/-- The number of the call the vendor is serving. -/
def current (s : State) : Option Nat := s.pending.map Prod.fst

def send (s : State) (target : OplusClientCallback) (m : VendorCallback) : State :=
  { s with inFlight := s.inFlight ++ [⟨target, m, s.current⟩] }

def deliver (s : State) (t : Transaction) : State :=
  let (statics, told) := t.target.receive s.adapter.statics t.callback
  { s with
    adapter := { s.adapter with statics := statics }
    inFlight := s.inFlight.erase t
    received := s.received ++ told.map fun call => ⟨call, t.during⟩ }

def finish (s : State) (n : Nat) (c : HalCall) (told : List ClientCall) (ret : HalReply) : State :=
  { s with
    pending := none
    received := s.received ++ told.map fun call => ⟨call, some n⟩
    completed := s.completed ++ [⟨n, c, s.adapter.client?, ret⟩] }

end State

def step (s : State) : Action → Except (Stop NullUse) State
  | .call c => if s.pending = none then .ok (s.begin c) else .error .disabled
  | .send target m => if target ∈ s.handed then .ok (s.send target m) else .error .disabled
  | .deliver t => if t ∈ s.inFlight then .ok (s.deliver t) else .error .disabled
  | .reply v =>
    match s.pending with
    | none => .error .disabled
    | some (n, c) =>
      match c.leave v s.adapter with
      | .ok (told, ret) => .ok (s.finish n c told ret)
      | .error e => .error e

/-! ## What the code after the vendor's call tells the client -/

/-- `Told a c ret told`: in state `a` the call `c` returns `ret` and makes the calls `told`. -/
inductive Told (a : BiometricsFingerprint) : HalCall → HalReply → List ClientCall → Prop where
  | forwarded {c : HalCall} {ret : HalReply} : c ≠ .cancel → c ≠ .enumerate → Told a c ret []
  | cancelReceived {ret : HalReply} : a.statics.receivedCancel = true → Told a .cancel ret []
  | cancelOwn {ret : HalReply} {client : Client} : a.statics.receivedCancel = false →
      a.client? = some client →
      Told a .cancel ret [⟨client, .onError a.statics.myDeviceId .ERROR_CANCELED 0⟩]
  | enumerateFailed {ret : RequestStatus} : ret ≠ .SYS_OK → Told a .enumerate (.status ret) []
  | enumerateReceived : a.statics.receivedEnumerate = true →
      Told a .enumerate (.status .SYS_OK) []
  | enumerateOwn {client : Client} : a.statics.receivedEnumerate = false →
      a.client? = some client → Told a .enumerate (.status .SYS_OK)
        ((fallback a.statics.myDeviceId a.statics.knownFingers).map (ClientCall.mk client))

namespace HalCall

variable {a : BiometricsFingerprint} {told : List ClientCall} {ret : HalReply}

theorem finish_eq_ok {ρ τ : Type} {method : Method ρ τ} {wrap : τ → HalReply} {value : ρ} :
    finish method wrap value a = .ok (told, ret) ↔
      ∃ r, method.leave value a = .ok (told, r) ∧ ret = wrap r := by
  unfold finish
  cases method.leave value a with
  | error e => simp
  | ok p => simp [Prod.ext_iff, and_assoc, eq_comm]

theorem leave_told_cancel {raw : Oplus.RequestStatus}
    (h : HalCall.leave .cancel (.status raw) a = .ok (told, ret)) : Told a .cancel ret told := by
  obtain ⟨r, hr, rfl⟩ := finish_eq_ok.1 h
  simp only [BiometricsFingerprint.cancel] at hr
  split at hr
  · next hflag =>
    cases hc : a.clientCallback with
    | error e =>
      rw [hc] at hr
      cases hr
    | ok client =>
      rw [hc] at hr
      cases hr
      exact .cancelOwn hflag (BiometricsFingerprint.clientCallback_eq_ok.1 hc)
  · next hflag =>
    cases hr
    exact .cancelReceived (by simpa using hflag)

theorem leave_told_enumerate {raw : Oplus.RequestStatus}
    (hlen : a.statics.knownFingers.length < UInt32.size)
    (h : HalCall.leave .enumerate (.status raw) a = .ok (told, ret)) :
    Told a .enumerate ret told ∧ ret = .status (OplusToAOSPRequestStatus raw) := by
  obtain ⟨r, hr, rfl⟩ := finish_eq_ok.1 h
  rw [enumerate_leave hlen] at hr
  split at hr
  · next hown =>
    cases hc : a.clientCallback with
    | error e =>
      rw [hc] at hr
      cases hr
    | ok client =>
      rw [hc] at hr
      cases hr
      rw [hown.1]
      exact ⟨.enumerateOwn hown.2 (BiometricsFingerprint.clientCallback_eq_ok.1 hc), rfl⟩
  · next hown =>
    cases hr
    refine ⟨?_, rfl⟩
    by_cases hok : OplusToAOSPRequestStatus raw = .SYS_OK
    · rw [hok]
      have hflag : a.statics.receivedEnumerate ≠ false := fun hf => hown ⟨hok, hf⟩
      exact .enumerateReceived (by simpa using hflag)
    · exact .enumerateFailed hok

theorem leave_told {c : HalCall} {v : VendorReply}
    (hlen : a.statics.knownFingers.length < UInt32.size) (h : c.leave v a = .ok (told, ret)) :
    Told a c ret told := by
  cases c with
  | cancel =>
    cases v with
    | number n => cases h
    | status raw => exact leave_told_cancel h
  | enumerate =>
    cases v with
    | number n => cases h
    | status raw => exact (leave_told_enumerate hlen h).1
  | _ =>
    cases v <;> cases h
    exact .forwarded (by simp) (by simp)

end HalCall

/-! ## What each action does -/

section Steps

variable {s s' : State}

theorem step_call_eq_ok {c : HalCall} :
    step s (.call c) = .ok s' ↔ s.pending = none ∧ s' = s.begin c := ite_ok_eq_ok

theorem step_send_eq_ok {target : OplusClientCallback} {m : VendorCallback} :
    step s (.send target m) = .ok s' ↔ target ∈ s.handed ∧ s' = s.send target m := ite_ok_eq_ok

theorem step_deliver_eq_ok {t : Transaction} :
    step s (.deliver t) = .ok s' ↔ t ∈ s.inFlight ∧ s' = s.deliver t := ite_ok_eq_ok

theorem step_reply {v : VendorReply} {n : Nat} {c : HalCall} (hp : s.pending = some (n, c)) :
    step s (.reply v) = match c.leave v s.adapter with
      | .ok (told, ret) => .ok (s.finish n c told ret)
      | .error e => .error e := by
  simp only [step, hp]

theorem step_reply_eq_ok {v : VendorReply} :
    step s (.reply v) = .ok s' ↔ ∃ n c told ret, s.pending = some (n, c) ∧
      c.leave v s.adapter = .ok (told, ret) ∧ s' = s.finish n c told ret := by
  cases hp : s.pending with
  | none => simp [step, hp]
  | some p =>
    obtain ⟨n, c⟩ := p
    rw [step_reply hp]
    cases hl : c.leave v s.adapter with
    | error e => simp [hl]
    | ok r =>
      obtain ⟨told, ret⟩ := r
      constructor
      · intro h
        exact ⟨n, c, told, ret, rfl, hl, (Except.ok.inj h).symm⟩
      · rintro ⟨n', c', told', ret', hnc, hl', rfl⟩
        cases hnc
        rw [hl] at hl'
        cases hl'
        rfl

@[simp] theorem deliver_inFlight (t : Transaction) :
    (s.deliver t).inFlight = s.inFlight.erase t := rfl

@[simp] theorem deliver_received (t : Transaction) : (s.deliver t).received =
    s.received ++ (t.target.told t.callback).map fun call => ⟨call, t.during⟩ := by
  simp [State.deliver]

end Steps

end RMX2020.Fingerprint

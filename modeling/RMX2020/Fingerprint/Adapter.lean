import RMX2020.Fingerprint.Callback

/-!
# The adapter

`BiometricsFingerprint` serves the framework's fingerprint HAL by calling the vendor's. Each of its
methods makes exactly one call to the vendor, and the vendor can run callbacks in the adapter before
that call returns, so a method is given as the code before the call (`enter`), the call itself
(`request`) and the code after it (`leave`). The code on either side of the call runs without a
callback in between: `service.cpp` configures a pool of one thread.

`cancel` and `enumerate` are the only methods with code of their own: they clear a flag before the
call, and answer the client themselves if the flag is still clear after it. The others forward.
-/

namespace RMX2020.Fingerprint

/-- The null pointers a method can run into. -/
inductive NullUse where
  | mOplusClientCallback
  | mClientCallback
  deriving DecidableEq, Repr

/-- The adapter object, with the statics of its file. `mOplusBiometricsFingerprint` is left out:
the constructor exits the process if it is null, and nothing writes it later. -/
structure BiometricsFingerprint where
  statics : Statics := {}
  mOplusClientCallback : Option OplusClientCallback := none
  deriving DecidableEq

/-- The calls the adapter makes on the vendor's service. -/
inductive VendorRequest where
  | setNotify (clientCallback : Option OplusClientCallback)
  | preEnroll
  | enroll (hat : Vector UInt8 69) (gid timeoutSec : UInt32)
  | postEnroll
  | getAuthenticatorId
  | cancel
  | enumerate
  | remove (gid fid : UInt32)
  | setActiveGroup (gid : UInt32) (storePath : String)
  | authenticate (operationId : UInt64) (gid : UInt32)
  deriving DecidableEq

/-- A method around its one call to the vendor: `ρ` is what the vendor returns, `τ` what the method
returns. -/
structure Method (ρ τ : Type) where
  enter : BiometricsFingerprint → BiometricsFingerprint := id
  request : BiometricsFingerprint → VendorRequest
  leave : ρ → BiometricsFingerprint → Except NullUse (List ClientCall × τ)

namespace BiometricsFingerprint

/-- The target of `mOplusClientCallback->mClientCallback->...`. -/
def clientCallback (a : BiometricsFingerprint) : Except NullUse Client :=
  match a.mOplusClientCallback with
  | none => .error .mOplusClientCallback
  | some cb =>
    match cb.mClientCallback with
    | none => .error .mClientCallback
    | some client => .ok client

/-- `return mOplusBiometricsFingerprint->request(...)`. -/
def forward (req : VendorRequest) : Method UInt64 UInt64 where
  request _ := req
  leave value _ := .ok ([], value)

/-- `return OplusToAOSPRequestStatus(mOplusBiometricsFingerprint->request(...))`. -/
def forwardStatus (req : VendorRequest) : Method Oplus.RequestStatus RequestStatus where
  request _ := req
  leave raw _ := .ok ([], OplusToAOSPRequestStatus raw)

def setNotify (clientCallback : Option Client) : Method UInt64 UInt64 where
  enter a := { a with mOplusClientCallback := some ⟨clientCallback⟩ }
  request a := .setNotify a.mOplusClientCallback
  leave value _ := .ok ([], value)

def preEnroll : Method UInt64 UInt64 := forward .preEnroll

def enroll (hat : Vector UInt8 69) (gid timeoutSec : UInt32) :
    Method Oplus.RequestStatus RequestStatus := forwardStatus (.enroll hat gid timeoutSec)

def postEnroll : Method Oplus.RequestStatus RequestStatus := forwardStatus .postEnroll

def getAuthenticatorId : Method UInt64 UInt64 := forward .getAuthenticatorId

def cancel : Method Oplus.RequestStatus RequestStatus where
  enter a := { a with statics := { a.statics with receivedCancel := false } }
  request _ := .cancel
  leave raw a :=
    let ret := OplusToAOSPRequestStatus raw
    if a.statics.receivedCancel = false then
      match a.clientCallback with
      | .error e => .error e
      | .ok client => .ok ([⟨client, .onError a.statics.myDeviceId .ERROR_CANCELED 0⟩], ret)
    else .ok ([], ret)

/-- `for(auto finger: knownFingers) ...->onEnumerate(myDeviceId, finger, 0, --nFingers)`: the
counter is a `size_t`, narrowed to 32 bits by the call. -/
def enumerateKnown (myDeviceId : UInt64) : List UInt32 → UInt64 → List ClientEvent
  | [], _ => []
  | finger :: rest, nFingers =>
    .onEnumerate myDeviceId finger 0 (nFingers - 1).toUInt32 ::
      enumerateKnown myDeviceId rest (nFingers - 1)

def enumerate : Method Oplus.RequestStatus RequestStatus where
  enter a := { a with statics := { a.statics with receivedEnumerate := false } }
  request _ := .enumerate
  leave raw a :=
    let ret := OplusToAOSPRequestStatus raw
    if ret = .SYS_OK ∧ a.statics.receivedEnumerate = false then
      match a.clientCallback with
      -- both branches of the source call the client at once, with nothing in between
      | .error e => .error e
      | .ok client =>
        let nFingers := UInt64.ofNat a.statics.knownFingers.length
        let events :=
          if 0 < nFingers then enumerateKnown a.statics.myDeviceId a.statics.knownFingers nFingers
          else [.onEnumerate a.statics.myDeviceId 0 0 0]
        .ok (events.map (ClientCall.mk client), ret)
    else .ok ([], ret)

def remove (gid fid : UInt32) : Method Oplus.RequestStatus RequestStatus :=
  forwardStatus (.remove gid fid)

def setActiveGroup (gid : UInt32) (storePath : String) :
    Method Oplus.RequestStatus RequestStatus := forwardStatus (.setActiveGroup gid storePath)

def authenticate (operationId : UInt64) (gid : UInt32) :
    Method Oplus.RequestStatus RequestStatus := forwardStatus (.authenticate operationId gid)

end BiometricsFingerprint

/-! ## The adapter's own replies -/

/-- The client the adapter has registered, if neither pointer is null. -/
def BiometricsFingerprint.client? (a : BiometricsFingerprint) : Option Client :=
  a.mOplusClientCallback.bind OplusClientCallback.mClientCallback

theorem BiometricsFingerprint.clientCallback_eq_ok {a : BiometricsFingerprint} {client : Client} :
    a.clientCallback = .ok client ↔ a.client? = some client := by
  unfold clientCallback client?
  cases a.mOplusClientCallback with
  | none => simp
  | some cb => cases h : cb.mClientCallback <;> simp [h]

theorem BiometricsFingerprint.clientCallback_eq_error {a : BiometricsFingerprint} :
    (∃ e, a.clientCallback = .error e) ↔ a.client? = none := by
  unfold clientCallback client?
  cases a.mOplusClientCallback with
  | none => simp
  | some cb => cases h : cb.mClientCallback <;> simp [h]

/-- An enumeration of `ids` counted down to zero, as a client should see it. -/
def countdown (deviceId : UInt64) : List UInt32 → List ClientEvent
  | [] => []
  | finger :: rest =>
    .onEnumerate deviceId finger 0 (UInt32.ofNat rest.length) :: countdown deviceId rest

/-- The fallback list of `enumerate`: the known fingers, or one call with finger id 0. -/
def fallback (deviceId : UInt64) : List UInt32 → List ClientEvent
  | [] => [.onEnumerate deviceId 0 0 0]
  | ids => countdown deviceId ids

theorem mem_countdown {deviceId : UInt64} {ids : List UInt32} {e : ClientEvent}
    (h : e ∈ countdown deviceId ids) : ∃ f r, e = .onEnumerate deviceId f 0 r := by
  induction ids with
  | nil => cases h
  | cons f rest ih =>
    rcases List.mem_cons.1 h with rfl | h
    · exact ⟨f, _, rfl⟩
    · exact ih h

theorem mem_fallback {deviceId : UInt64} {ids : List UInt32} {e : ClientEvent}
    (h : e ∈ fallback deviceId ids) : ∃ f r, e = .onEnumerate deviceId f 0 r := by
  cases ids with
  | nil => exact ⟨0, 0, List.mem_singleton.1 h⟩
  | cons f rest => exact mem_countdown h

theorem enumerateKnown_eq (deviceId : UInt64) (ids : List UInt32) :
    BiometricsFingerprint.enumerateKnown deviceId ids (UInt64.ofNat ids.length) =
      countdown deviceId ids := by
  induction ids with
  | nil => rfl
  | cons finger rest ih =>
    have hcount : UInt64.ofNat (finger :: rest).length - 1 = UInt64.ofNat rest.length := by
      rw [List.length_cons, UInt64.ofNat_add]
      exact UInt64.add_sub_cancel _ _
    simp only [BiometricsFingerprint.enumerateKnown, countdown, hcount, UInt64.toUInt32_ofNat']
    rw [ih]

/-- What `enumerate` does after the vendor's call, with the two special cases of the source read as
one list. -/
theorem enumerate_leave {a : BiometricsFingerprint} {raw : Oplus.RequestStatus}
    (hlen : a.statics.knownFingers.length < UInt32.size) :
    BiometricsFingerprint.enumerate.leave raw a =
      if OplusToAOSPRequestStatus raw = .SYS_OK ∧ a.statics.receivedEnumerate = false then
        match a.clientCallback with
        | .error e => .error e
        | .ok client => .ok ((fallback a.statics.myDeviceId a.statics.knownFingers).map
            (ClientCall.mk client), OplusToAOSPRequestStatus raw)
      else .ok ([], OplusToAOSPRequestStatus raw) := by
  have hevents : (if 0 < UInt64.ofNat a.statics.knownFingers.length then
      BiometricsFingerprint.enumerateKnown a.statics.myDeviceId a.statics.knownFingers
        (UInt64.ofNat a.statics.knownFingers.length)
      else [.onEnumerate a.statics.myDeviceId 0 0 0]) =
      fallback a.statics.myDeviceId a.statics.knownFingers := by
    rw [enumerateKnown_eq]
    cases hids : a.statics.knownFingers with
    | nil => rfl
    | cons finger rest =>
      rw [hids] at hlen
      have hsize : (finger :: rest).length < UInt64.size := Nat.lt_trans hlen (by decide)
      have hpos : 0 < UInt64.ofNat (finger :: rest).length := by
        rw [UInt64.lt_iff_toNat_lt, UInt64.toNat_ofNat_of_lt' hsize]
        exact Nat.succ_pos _
      rw [if_pos hpos]
      rfl
  simp only [BiometricsFingerprint.enumerate, hevents]

end RMX2020.Fingerprint

import RMX2020.Fingerprint.Types

/-!
# The callback object given to the vendor

`class OplusClientCallback` and the static variables of `BiometricsFingerprint.cpp` that its methods
write. A method takes the statics and gives them back with the calls it makes on the client; all
client calls are one-way, so a call is an entry of a list and has no result.

`relayed_trace`: whatever is delivered to a callback object, its client gets the image of that
sequence, in order. The image of a code depends on the translation tables, and `failure_kept_iff`
says which codes the two of them with a reassuring default keep apart from success.
-/

namespace RMX2020.Fingerprint

/-- The static variables of `BiometricsFingerprint.cpp`, shared by every callback object. -/
structure Statics where
  receivedCancel : Bool := false
  receivedEnumerate : Bool := false
  myDeviceId : UInt64 := 0
  knownFingers : List UInt32 := []
  deriving DecidableEq

/-- A call made on a client. -/
structure ClientCall where
  client : Client
  event : ClientEvent
  deriving DecidableEq

/-- `class OplusClientCallback`. Its one field is set by the constructor and never written again,
so a reference to an object is modelled by the object. -/
structure OplusClientCallback where
  mClientCallback : Option Client
  deriving DecidableEq

namespace OplusClientCallback

/-- `if(mClientCallback != nullptr) mClientCallback->event(...)`. -/
def relay (cb : OplusClientCallback) (event : ClientEvent) : List ClientCall :=
  match cb.mClientCallback with
  | none => []
  | some client => [⟨client, event⟩]

variable (cb : OplusClientCallback) (g : Statics)

def onEnrollResult (deviceId : UInt64) (fingerId groupId remaining : UInt32) :
    Statics × List ClientCall :=
  (g, cb.relay (.onEnrollResult deviceId fingerId groupId remaining))

def onAcquired (deviceId : UInt64) (acquiredInfo : Oplus.FingerprintAcquiredInfo)
    (vendorCode : Int32) : Statics × List ClientCall :=
  (g, cb.relay
    (.onAcquired deviceId (OplusToAOSPFingerprintAcquiredInfo acquiredInfo) vendorCode))

def onAuthenticated (deviceId : UInt64) (fingerId groupId : UInt32) (token : HidlVec UInt8) :
    Statics × List ClientCall :=
  (g, cb.relay (.onAuthenticated deviceId fingerId groupId token))

def onError (deviceId : UInt64) (error : Oplus.FingerprintError) (vendorCode : Int32) :
    Statics × List ClientCall :=
  let g' := if error = Oplus.FingerprintError.ERROR_CANCELED then { g with receivedCancel := true }
    else g
  (g', cb.relay (.onError deviceId (OplusToAOSPFingerprintError error) vendorCode))

def onRemoved (deviceId : UInt64) (fingerId groupId remaining : UInt32) :
    Statics × List ClientCall :=
  (g, cb.relay (.onRemoved deviceId fingerId groupId remaining))

def onEnumerate (deviceId : UInt64) (fingerId groupId remaining : UInt32) :
    Statics × List ClientCall :=
  ({ g with receivedEnumerate := true },
    cb.relay (.onEnumerate deviceId fingerId groupId remaining))

/-- The only callback that writes `myDeviceId` and `knownFingers`; the client is not told. -/
def onSyncTemplates (deviceId : UInt64) (fingerId : HidlVec UInt32) (_remaining : UInt32) :
    Statics × List ClientCall :=
  ({ g with myDeviceId := deviceId, knownFingers := fingerId.toList }, [])

/-- The dispatch of a received transaction. The callbacks of the last line return `Void()`. -/
def receive : VendorCallback → Statics × List ClientCall
  | .onEnrollResult d f gr r => cb.onEnrollResult g d f gr r
  | .onAcquired d info code => cb.onAcquired g d info code
  | .onAuthenticated d f gr token => cb.onAuthenticated g d f gr token
  | .onError d error code => cb.onError g d error code
  | .onRemoved d f gr r => cb.onRemoved g d f gr r
  | .onEnumerate d f gr r => cb.onEnumerate g d f gr r
  | .onSyncTemplates d ids r => onSyncTemplates g d ids r
  | .onTouchUp _ | .onTouchDown _ | .onFingerprintCmd .. | .onImageInfoAcquired ..
  | .onMonitorEventTriggered .. | .onEngineeringInfoUpdated .. | .onUIReady _ => (g, [])

/-- A sequence of transactions delivered to one object. -/
def receiveAll : Statics → List VendorCallback → Statics × List ClientCall
  | g, [] => (g, [])
  | g, m :: ms =>
    let (g', told) := cb.receive g m
    let (g'', rest) := receiveAll g' ms
    (g'', told ++ rest)

end OplusClientCallback

/-! ## What a client is told of a vendor callback -/

namespace VendorCallback

/-- The client event a callback stands for; `none` for the callbacks a client never hears of. -/
def image : VendorCallback → Option ClientEvent
  | onEnrollResult d f g r => some (.onEnrollResult d f g r)
  | onAcquired d info code => some (.onAcquired d (OplusToAOSPFingerprintAcquiredInfo info) code)
  | onAuthenticated d f g token => some (.onAuthenticated d f g token)
  | onError d error code => some (.onError d (OplusToAOSPFingerprintError error) code)
  | onRemoved d f g r => some (.onRemoved d f g r)
  | onEnumerate d f g r => some (.onEnumerate d f g r)
  | _ => none

/-- An `onError(ERROR_CANCELED)`. -/
def isCanceled : VendorCallback → Bool
  | onError _ error _ => error = Oplus.FingerprintError.ERROR_CANCELED
  | _ => false

def isEnumerate : VendorCallback → Bool
  | onEnumerate .. => true
  | _ => false

/-- The device id and the finger ids of an `onSyncTemplates`. -/
def sync : VendorCallback → Option (UInt64 × HidlVec UInt32)
  | onSyncTemplates d ids _ => some (d, ids)
  | _ => none

/-- A code that is not success is not told as success. -/
def FailureKept : VendorCallback → Prop
  | onError _ error _ => OplusToAOSPFingerprintError error = .ERROR_NO_ERROR →
      error = Oplus.FingerprintError.ERROR_NO_ERROR
  | onAcquired _ info _ => OplusToAOSPFingerprintAcquiredInfo info = .ACQUIRED_GOOD →
      info = Oplus.FingerprintAcquiredInfo.ACQUIRED_GOOD
  | _ => True

/-- The code of the callback, if it has one, is an enumerator of `types.hal`. -/
def Enumerated : VendorCallback → Prop
  | onError _ error _ => error ∈ Oplus.FingerprintError.enumerators
  | onAcquired _ info _ => info ∈ Oplus.FingerprintAcquiredInfo.enumerators
  | _ => True

theorem failure_kept_iff (m : VendorCallback) : m.FailureKept ↔ m.Enumerated := by
  cases m with
  | onError d error code =>
    simp only [FailureKept, Enumerated, OplusToAOSPFingerprintError_no_error_iff]
    constructor
    · intro h
      by_contra hnot
      have hzero := h (.inr hnot)
      subst hzero
      exact hnot List.mem_cons_self
    · rintro hlisted (hzero | hnot)
      · exact hzero
      · exact absurd hlisted hnot
  | onAcquired d info code =>
    simp only [FailureKept, Enumerated, OplusToAOSPFingerprintAcquiredInfo_good_iff]
    constructor
    · intro h
      by_contra hnot
      have hgood := h (.inr hnot)
      subst hgood
      exact hnot List.mem_cons_self
    · rintro hlisted (hgood | hnot)
      · exact hgood
      · exact absurd hlisted hnot
  | _ => exact Iff.rfl

end VendorCallback

namespace OplusClientCallback

/-- What a delivered callback has the object call. -/
def told (cb : OplusClientCallback) (m : VendorCallback) : List ClientCall :=
  m.image.toList.flatMap cb.relay

theorem told_some (client : Client) (m : VendorCallback) :
    told ⟨some client⟩ m = m.image.toList.map (ClientCall.mk client) := by
  unfold told
  cases m.image with
  | none => rfl
  | some event => rfl

/-- What an object tells its client depends on the callback alone, not on the statics. -/
@[simp] theorem receive_snd (cb : OplusClientCallback) (g : Statics) (m : VendorCallback) :
    (cb.receive g m).2 = cb.told m := by
  cases m <;> simp [receive, told, VendorCallback.image, onEnrollResult, onAcquired,
    onAuthenticated, onError, onRemoved, onEnumerate, onSyncTemplates]

theorem receiveAll_snd (cb : OplusClientCallback) (g : Statics) (ms : List VendorCallback) :
    (cb.receiveAll g ms).2 = ms.flatMap cb.told := by
  induction ms generalizing g with
  | nil => rfl
  | cons m ms ih =>
    simp only [receiveAll, receive_snd, List.flatMap_cons]
    rw [ih]

/-- The client's trace is the order-preserving image of what is delivered to its callback object. -/
theorem relayed_trace (client : Client) (g : Statics) (ms : List VendorCallback) :
    (receiveAll ⟨some client⟩ g ms).2 =
      (ms.filterMap VendorCallback.image).map (ClientCall.mk client) := by
  rw [receiveAll_snd]
  induction ms with
  | nil => rfl
  | cons m ms ih =>
    rw [List.flatMap_cons, ih, told_some]
    cases h : m.image with
    | none => simp [h]
    | some event => simp [h]

/-- **Relaying keeps failures apart from success exactly on the enumerators.** Whatever the vendor
sends, the client's trace is its image; but a code outside `types.hal` is told as no error, or as a
good image. The status table has no such default. -/
theorem relay_faithful_iff (client : Client) (g : Statics) (ms : List VendorCallback)
    (req : Oplus.RequestStatus) :
    ((receiveAll ⟨some client⟩ g ms).2 =
        (ms.filterMap VendorCallback.image).map (ClientCall.mk client) ∧
      (∀ m ∈ ms, m.FailureKept) ∧
      (OplusToAOSPRequestStatus req = .SYS_OK → req = Oplus.RequestStatus.SYS_OK)) ↔
    ∀ m ∈ ms, m.Enumerated := by
  have hstatus := (OplusToAOSPRequestStatus_ok_iff req).1
  constructor
  · intro h m hm
    exact (VendorCallback.failure_kept_iff m).1 (h.2.1 m hm)
  · intro h
    refine ⟨relayed_trace client g ms, fun m hm => ?_, hstatus⟩
    exact (VendorCallback.failure_kept_iff m).2 (h m hm)

/-- Error 9 and acquired info 7 have no enumerator; the client is told of no error and of a good
image. -/
theorem failure_told_as_success :
    (receiveAll ⟨some 0⟩ {} [.onError 1 9 0, .onAcquired 1 7 0]).2 =
        [⟨0, .onError 1 .ERROR_NO_ERROR 0⟩, ⟨0, .onAcquired 1 .ACQUIRED_GOOD 0⟩] ∧
      ¬ (∀ error, OplusToAOSPFingerprintError error = .ERROR_NO_ERROR →
        error = Oplus.FingerprintError.ERROR_NO_ERROR) ∧
      ¬ (∀ info, OplusToAOSPFingerprintAcquiredInfo info = .ACQUIRED_GOOD →
        info = Oplus.FingerprintAcquiredInfo.ACQUIRED_GOOD) := by
  refine ⟨by decide, fun h => ?_, fun h => ?_⟩
  · exact absurd (h 9 (by decide)) (by decide)
  · exact absurd (h 7 (by decide)) (by decide)

/-! ### The statics -/

/-- The statics after a callback, all four at once. -/
theorem receive_fst (cb : OplusClientCallback) (g : Statics) (m : VendorCallback) :
    (cb.receive g m).1 =
      { receivedCancel := g.receivedCancel || m.isCanceled
        receivedEnumerate := g.receivedEnumerate || m.isEnumerate
        myDeviceId := (m.sync.map Prod.fst).getD g.myDeviceId
        knownFingers := (m.sync.map fun p => p.2.toList).getD g.knownFingers } := by
  cases m with
  | onError d error code =>
    by_cases h : error = Oplus.FingerprintError.ERROR_CANCELED <;>
      simp [receive, onError, h, VendorCallback.isCanceled, VendorCallback.isEnumerate,
        VendorCallback.sync]
  | _ => simp [receive, onEnrollResult, onAcquired, onAuthenticated, onRemoved, onEnumerate,
      onSyncTemplates, VendorCallback.isCanceled, VendorCallback.isEnumerate, VendorCallback.sync]

end OplusClientCallback

end RMX2020.Fingerprint

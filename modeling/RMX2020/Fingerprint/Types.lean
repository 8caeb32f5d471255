import Mathlib.Data.List.Basic

/-!
# The types of the two fingerprint interfaces

`IBiometricsFingerprintClientCallback.hal` and `types.hal` of `vendor.oplus.hardware`, and the
types of `android.hardware.biometrics.fingerprint@2.1` they are translated to. An enumeration of
the vendor travels as an int32, and a vendor blob can put any int32 there, so the vendor's
enumerations are `Int32` with the enumerators as named values; those the adapter hands on are
inductive types.
-/

namespace RMX2020.Fingerprint

/-- `hidl_vec<T>`: its length is a 32-bit number. -/
structure HidlVec (α : Type) where
  toList : List α
  size_lt : toList.length < UInt32.size
  deriving DecidableEq

/-- A remote `IBiometricsFingerprintClientCallback`, by the identity of its binder. -/
abbrev Client := Nat

/-! ## `vendor.oplus.hardware.biometrics.fingerprint@2.1` -/

namespace Oplus

abbrev RequestStatus := Int32

namespace RequestStatus

def SYS_UNKNOWN : RequestStatus := 1
def SYS_OK : RequestStatus := 0
def SYS_ENOENT : RequestStatus := -2
def SYS_EINTR : RequestStatus := -4
def SYS_EIO : RequestStatus := -5
def SYS_EAGAIN : RequestStatus := -11
def SYS_ENOMEM : RequestStatus := -12
def SYS_EACCES : RequestStatus := -13
def SYS_EFAULT : RequestStatus := -14
def SYS_EBUSY : RequestStatus := -16
def SYS_EINVAL : RequestStatus := -22
def SYS_ENOSPC : RequestStatus := -28
def SYS_ETIMEDOUT : RequestStatus := -110

end RequestStatus

abbrev FingerprintError := Int32

namespace FingerprintError

def ERROR_NO_ERROR : FingerprintError := 0
def ERROR_HW_UNAVAILABLE : FingerprintError := 1
def ERROR_UNABLE_TO_PROCESS : FingerprintError := 2
def ERROR_TIMEOUT : FingerprintError := 3
def ERROR_NO_SPACE : FingerprintError := 4
def ERROR_CANCELED : FingerprintError := 5
def ERROR_UNABLE_TO_REMOVE : FingerprintError := 6
def ERROR_LOCKOUT : FingerprintError := 7
def ERROR_VENDOR : FingerprintError := 8

/-- The enumerators of `types.hal`. -/
def enumerators : List FingerprintError :=
  [ERROR_NO_ERROR, ERROR_HW_UNAVAILABLE, ERROR_UNABLE_TO_PROCESS, ERROR_TIMEOUT, ERROR_NO_SPACE,
    ERROR_CANCELED, ERROR_UNABLE_TO_REMOVE, ERROR_LOCKOUT, ERROR_VENDOR]

end FingerprintError

abbrev FingerprintAcquiredInfo := Int32

namespace FingerprintAcquiredInfo

def ACQUIRED_GOOD : FingerprintAcquiredInfo := 0
def ACQUIRED_PARTIAL : FingerprintAcquiredInfo := 1
def ACQUIRED_INSUFFICIENT : FingerprintAcquiredInfo := 2
def ACQUIRED_IMAGER_DIRTY : FingerprintAcquiredInfo := 3
def ACQUIRED_TOO_SLOW : FingerprintAcquiredInfo := 4
def ACQUIRED_TOO_FAST : FingerprintAcquiredInfo := 5
def ACQUIRED_VENDOR : FingerprintAcquiredInfo := 6

/-- The enumerators of `types.hal`. -/
def enumerators : List FingerprintAcquiredInfo :=
  [ACQUIRED_GOOD, ACQUIRED_PARTIAL, ACQUIRED_INSUFFICIENT, ACQUIRED_IMAGER_DIRTY,
    ACQUIRED_TOO_SLOW, ACQUIRED_TOO_FAST, ACQUIRED_VENDOR]

end FingerprintAcquiredInfo

end Oplus

/-- The calls of the vendor's `IBiometricsFingerprintClientCallback`, all of them one-way.
`onUIReady` is a method of the adapter's callback class only;
`IBiometricsFingerprintClientCallback.hal` does not declare it. -/
inductive VendorCallback where
  | onEnrollResult (deviceId : UInt64) (fingerId groupId remaining : UInt32)
  | onAcquired (deviceId : UInt64) (acquiredInfo : Oplus.FingerprintAcquiredInfo)
      (vendorCode : Int32)
  | onAuthenticated (deviceId : UInt64) (fingerId groupId : UInt32) (token : HidlVec UInt8)
  | onError (deviceId : UInt64) (error : Oplus.FingerprintError) (vendorCode : Int32)
  | onRemoved (deviceId : UInt64) (fingerId groupId remaining : UInt32)
  | onEnumerate (deviceId : UInt64) (fingerId groupId remaining : UInt32)
  | onTouchUp (deviceId : UInt64)
  | onTouchDown (deviceId : UInt64)
  | onSyncTemplates (deviceId : UInt64) (fingerId : HidlVec UInt32) (remaining : UInt32)
  | onFingerprintCmd (deviceId : Int32) (groupId : HidlVec UInt32) (remaining : UInt32)
  | onImageInfoAcquired (type quality matchScore : UInt32)
  | onMonitorEventTriggered (type : UInt32) (data : String)
  | onEngineeringInfoUpdated (length : UInt32) (keys : HidlVec UInt32) (values : HidlVec String)
  | onUIReady (deviceId : Int64)
  deriving DecidableEq

/-! ## `android.hardware.biometrics.fingerprint@2.1` -/

inductive RequestStatus where
  | SYS_UNKNOWN | SYS_OK | SYS_ENOENT | SYS_EINTR | SYS_EIO | SYS_EAGAIN | SYS_ENOMEM
  | SYS_EACCES | SYS_EFAULT | SYS_EBUSY | SYS_EINVAL | SYS_ENOSPC | SYS_ETIMEDOUT
  deriving DecidableEq, Repr

inductive FingerprintError where
  | ERROR_NO_ERROR | ERROR_HW_UNAVAILABLE | ERROR_UNABLE_TO_PROCESS | ERROR_TIMEOUT
  | ERROR_NO_SPACE | ERROR_CANCELED | ERROR_UNABLE_TO_REMOVE | ERROR_LOCKOUT | ERROR_VENDOR
  deriving DecidableEq, Repr

inductive FingerprintAcquiredInfo where
  | ACQUIRED_GOOD | ACQUIRED_PARTIAL | ACQUIRED_INSUFFICIENT | ACQUIRED_IMAGER_DIRTY
  | ACQUIRED_TOO_SLOW | ACQUIRED_TOO_FAST | ACQUIRED_VENDOR
  deriving DecidableEq, Repr

/-- The calls of the framework's `IBiometricsFingerprintClientCallback`. -/
inductive ClientEvent where
  | onEnrollResult (deviceId : UInt64) (fingerId groupId remaining : UInt32)
  | onAcquired (deviceId : UInt64) (acquiredInfo : FingerprintAcquiredInfo) (vendorCode : Int32)
  | onAuthenticated (deviceId : UInt64) (fingerId groupId : UInt32) (token : HidlVec UInt8)
  | onError (deviceId : UInt64) (error : FingerprintError) (vendorCode : Int32)
  | onRemoved (deviceId : UInt64) (fingerId groupId remaining : UInt32)
  | onEnumerate (deviceId : UInt64) (fingerId groupId remaining : UInt32)
  deriving DecidableEq

/-! ## The translations -/

/-- `switch (value) { case k: return v; ... default: return otherwise; }` over raw values. -/
def switch {β : Type} (cases : List (Int32 × β)) (otherwise : β) (value : Int32) : β :=
  (cases.lookup value).getD otherwise

theorem switch_mem_or_default {β : Type} (cases : List (Int32 × β)) (otherwise : β)
    (value : Int32) :
    (value, switch cases otherwise value) ∈ cases ∨
      value ∉ cases.map Prod.fst ∧ switch cases otherwise value = otherwise := by
  induction cases with
  | nil => exact .inr ⟨List.not_mem_nil, rfl⟩
  | cons entry rest ih =>
    obtain ⟨key, result⟩ := entry
    by_cases h : value = key
    · subst h
      have hhit : switch ((value, result) :: rest) otherwise value = result := by simp [switch]
      rw [hhit]
      exact .inl List.mem_cons_self
    · have hskip :
          switch ((key, result) :: rest) otherwise value = switch rest otherwise value := by
        simp [switch, List.lookup_cons, beq_false_of_ne h]
      rw [hskip]
      rcases ih with hmem | ⟨hnot, hdefault⟩
      · exact .inl (List.mem_cons_of_mem _ hmem)
      · refine .inr ⟨?_, hdefault⟩
        simpa only [List.map_cons, List.mem_cons, not_or] using ⟨h, hnot⟩

theorem switch_of_not_mem {β : Type} {cases : List (Int32 × β)} {otherwise : β} {value : Int32}
    (h : value ∉ cases.map Prod.fst) : switch cases otherwise value = otherwise := by
  rcases switch_mem_or_default cases otherwise value with hmem | ⟨-, hdefault⟩
  · exact absurd (List.mem_map_of_mem hmem) h
  · exact hdefault

section Tables

/-- `BiometricsFingerprint::OplusToAOSPRequestStatus`. -/
def OplusToAOSPRequestStatus (req : Oplus.RequestStatus) : RequestStatus :=
  switch
    [(Oplus.RequestStatus.SYS_UNKNOWN, RequestStatus.SYS_UNKNOWN),
     (Oplus.RequestStatus.SYS_OK, RequestStatus.SYS_OK),
     (Oplus.RequestStatus.SYS_ENOENT, RequestStatus.SYS_ENOENT),
     (Oplus.RequestStatus.SYS_EINTR, RequestStatus.SYS_EINTR),
     (Oplus.RequestStatus.SYS_EIO, RequestStatus.SYS_EIO),
     (Oplus.RequestStatus.SYS_EAGAIN, RequestStatus.SYS_EAGAIN),
     (Oplus.RequestStatus.SYS_ENOMEM, RequestStatus.SYS_ENOMEM),
     (Oplus.RequestStatus.SYS_EACCES, RequestStatus.SYS_EACCES),
     (Oplus.RequestStatus.SYS_EFAULT, RequestStatus.SYS_EFAULT),
     (Oplus.RequestStatus.SYS_EBUSY, RequestStatus.SYS_EBUSY),
     (Oplus.RequestStatus.SYS_EINVAL, RequestStatus.SYS_EINVAL),
     (Oplus.RequestStatus.SYS_ENOSPC, RequestStatus.SYS_ENOSPC),
     (Oplus.RequestStatus.SYS_ETIMEDOUT, RequestStatus.SYS_ETIMEDOUT)]
    .SYS_UNKNOWN req

open Oplus.FingerprintAcquiredInfo in
/-- `OplusClientCallback::OplusToAOSPFingerprintAcquiredInfo`. -/
def OplusToAOSPFingerprintAcquiredInfo (info : Oplus.FingerprintAcquiredInfo) :
    FingerprintAcquiredInfo :=
  switch
    [(ACQUIRED_GOOD, .ACQUIRED_GOOD), (ACQUIRED_PARTIAL, .ACQUIRED_PARTIAL),
      (ACQUIRED_INSUFFICIENT, .ACQUIRED_INSUFFICIENT),
      (ACQUIRED_IMAGER_DIRTY, .ACQUIRED_IMAGER_DIRTY), (ACQUIRED_TOO_SLOW, .ACQUIRED_TOO_SLOW),
      (ACQUIRED_TOO_FAST, .ACQUIRED_TOO_FAST), (ACQUIRED_VENDOR, .ACQUIRED_VENDOR)]
    .ACQUIRED_GOOD info

open Oplus.FingerprintError in
/-- `OplusClientCallback::OplusToAOSPFingerprintError`. -/
def OplusToAOSPFingerprintError (error : Oplus.FingerprintError) : FingerprintError :=
  switch
    [(ERROR_NO_ERROR, .ERROR_NO_ERROR), (ERROR_HW_UNAVAILABLE, .ERROR_HW_UNAVAILABLE),
      (ERROR_UNABLE_TO_PROCESS, .ERROR_UNABLE_TO_PROCESS), (ERROR_TIMEOUT, .ERROR_TIMEOUT),
      (ERROR_NO_SPACE, .ERROR_NO_SPACE), (ERROR_CANCELED, .ERROR_CANCELED),
      (ERROR_UNABLE_TO_REMOVE, .ERROR_UNABLE_TO_REMOVE), (ERROR_LOCKOUT, .ERROR_LOCKOUT),
      (ERROR_VENDOR, .ERROR_VENDOR)]
    .ERROR_NO_ERROR error

end Tables

theorem OplusToAOSPRequestStatus_ok_iff (req : Oplus.RequestStatus) :
    OplusToAOSPRequestStatus req = .SYS_OK ↔ req = Oplus.RequestStatus.SYS_OK := by
  constructor
  · intro h
    unfold OplusToAOSPRequestStatus at h
    rcases switch_mem_or_default _ _ req with hmem | ⟨-, hdefault⟩
    · rw [h] at hmem
      simpa using hmem
    · rw [h] at hdefault
      cases hdefault
  · rintro rfl
    rfl

/-- The default branch reports an error without an enumerator as no error. -/
theorem OplusToAOSPFingerprintError_no_error_iff (error : Oplus.FingerprintError) :
    OplusToAOSPFingerprintError error = .ERROR_NO_ERROR ↔
      error = Oplus.FingerprintError.ERROR_NO_ERROR ∨
        error ∉ Oplus.FingerprintError.enumerators := by
  constructor
  · intro h
    unfold OplusToAOSPFingerprintError at h
    rcases switch_mem_or_default _ _ error with hmem | ⟨hnot, -⟩
    · rw [h] at hmem
      exact .inl (by simpa using hmem)
    · exact .inr hnot
  · rintro (rfl | h)
    · rfl
    · exact switch_of_not_mem h

theorem OplusToAOSPFingerprintError_canceled_iff (error : Oplus.FingerprintError) :
    OplusToAOSPFingerprintError error = .ERROR_CANCELED ↔
      error = Oplus.FingerprintError.ERROR_CANCELED := by
  constructor
  · intro h
    unfold OplusToAOSPFingerprintError at h
    rcases switch_mem_or_default _ _ error with hmem | ⟨-, hdefault⟩
    · rw [h] at hmem
      simpa using hmem
    · rw [h] at hdefault
      cases hdefault
  · rintro rfl
    rfl

/-- The default branch reports an acquired info without an enumerator as a good image. -/
theorem OplusToAOSPFingerprintAcquiredInfo_good_iff (info : Oplus.FingerprintAcquiredInfo) :
    OplusToAOSPFingerprintAcquiredInfo info = .ACQUIRED_GOOD ↔
      info = Oplus.FingerprintAcquiredInfo.ACQUIRED_GOOD ∨
        info ∉ Oplus.FingerprintAcquiredInfo.enumerators := by
  constructor
  · intro h
    unfold OplusToAOSPFingerprintAcquiredInfo at h
    rcases switch_mem_or_default _ _ info with hmem | ⟨hnot, -⟩
    · rw [h] at hmem
      exact .inl (by simpa using hmem)
    · exact .inr hnot
  · rintro (rfl | h)
    · rfl
    · exact switch_of_not_mem h

end RMX2020.Fingerprint

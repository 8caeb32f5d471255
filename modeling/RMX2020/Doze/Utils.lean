import Mathlib.Logic.Function.Basic

/-!
# Settings and services

`Utils.kt`, over what it uses of Android: the secure settings and the default shared preferences of
each user, the foreground user, and the system's record of each user's `DozeService`. A function
that takes a `Context` in the source takes the context's user here. Settings writes succeed.
-/

namespace RMX2020.Doze

/-- A user of the device. -/
abbrev UserId := Nat

/-- The keys of `Settings.Secure` in use. -/
inductive SecureKey where
  | DOZE_ENABLED
  | DOZE_ALWAYS_ON
  deriving DecidableEq

/-- What the users have stored, and who is in the foreground. -/
structure Settings where
  secure : UserId → SecureKey → Option Int
  /-- The default shared preferences. -/
  preferences : UserId → String → Option String
  /-- The user that `UserHandle.CURRENT` and `USER_CURRENT` stand for. -/
  currentUser : UserId

/-- A call of the system on a service of this process, by its main handler. -/
inductive ServiceCall where
  | onCreate
  | onDestroy
  deriving DecidableEq

/-- The system's record of a user's `DozeService`, and the calls the process has yet to run. -/
structure ServiceRecord where
  started : Bool := false
  pending : List ServiceCall := []
  deriving DecidableEq

structure Android where
  settings : Settings
  dozeService : UserId → ServiceRecord

namespace Settings

def getInt (w : Settings) (user : UserId) (key : SecureKey) (default : Int) : Int :=
  (w.secure user key).getD default

def putInt (w : Settings) (user : UserId) (key : SecureKey) (value : Int) : Settings :=
  let stored := Function.update (w.secure user) key (some value)
  { w with secure := Function.update w.secure user stored }

def getString (w : Settings) (user : UserId) (key default : String) : String :=
  (w.preferences user key).getD default

def putString (w : Settings) (user : UserId) (key value : String) : Settings :=
  let stored := Function.update (w.preferences user) key (some value)
  { w with preferences := Function.update w.preferences user stored }

end Settings

/-- One user, who has stored the given pick-up type and nothing else. -/
def storedPickUp (type : String) : Settings :=
  { secure := fun _ _ => none, preferences := fun _ _ => some type, currentUser := 0 }

namespace ServiceRecord

/-- The system creates a service that is not running. -/
def start (r : ServiceRecord) : ServiceRecord :=
  if r.started then r else { started := true, pending := r.pending ++ [.onCreate] }

def stop (r : ServiceRecord) : ServiceRecord :=
  if r.started then { started := false, pending := r.pending ++ [.onDestroy] } else r

/-- Started exactly if it is to be. -/
theorem started_ite (r : ServiceRecord) (c : Bool) :
    (if c then r.start else r.stop).started = c := by
  unfold start stop
  cases c <;> cases hs : r.started <;> simp [hs]

/-- Where starting or stopping leaves no call to run, the service was as it is to be. -/
theorem pending_ite_eq_nil {r : ServiceRecord} {c : Bool}
    (h : (if c then r.start else r.stop).pending = []) : r.pending = [] ∧ r.started = c := by
  unfold start stop at h
  cases c <;> cases hs : r.started <;> simp [hs] at h ⊢ <;> exact h

end ServiceRecord

namespace Utils

def GESTURE_PICK_UP_KEY : String := "gesture_pick_up_type"

/-- `startServiceAsUser(..., UserHandle.CURRENT)`. -/
def startService (w : Android) : Android :=
  let user := w.settings.currentUser
  { w with dozeService := Function.update w.dozeService user (w.dozeService user).start }

/-- `stopServiceAsUser(..., UserHandle.CURRENT)`. -/
def stopService (w : Android) : Android :=
  let user := w.settings.currentUser
  { w with dozeService := Function.update w.dozeService user (w.dozeService user).stop }

def isDozeEnabled (context : UserId) (w : Settings) : Bool :=
  w.getInt context .DOZE_ENABLED 1 != 0

def enableDoze (context : UserId) (enable : Bool) (w : Settings) : Settings :=
  w.putInt context .DOZE_ENABLED (if enable then 1 else 0)

/-- `putIntForUser(..., UserHandle.USER_CURRENT)`. -/
def enableAlwaysOn (enable : Bool) (w : Settings) : Settings :=
  w.putInt w.currentUser .DOZE_ALWAYS_ON (if enable then 1 else 0)

/-- `getIntForUser(..., UserHandle.USER_CURRENT)`. -/
def isAlwaysOnEnabled (w : Settings) : Bool := w.getInt w.currentUser .DOZE_ALWAYS_ON 0 != 0

def isPickUpEnabled (context : UserId) (w : Settings) : Bool :=
  w.getString context GESTURE_PICK_UP_KEY "0" != "0"

def isPickUpSetToWake (context : UserId) (w : Settings) : Bool :=
  w.getString context GESTURE_PICK_UP_KEY "0" == "2"

def areGesturesEnabled (context : UserId) (w : Settings) : Bool := isPickUpEnabled context w

def checkDozeService (context : UserId) (w : Android) : Android :=
  if isDozeEnabled context w.settings && !isAlwaysOnEnabled w.settings &&
      areGesturesEnabled context w.settings then
    startService w
  else
    stopService w

/-! ## What the handlers read back -/

section ReadBack

variable (context : UserId) (w : Settings)

@[simp] theorem enableDoze_currentUser (enable : Bool) :
    (enableDoze context enable w).currentUser = w.currentUser := rfl

@[simp] theorem isDozeEnabled_enableDoze (enable : Bool) :
    isDozeEnabled context (enableDoze context enable w) = enable := by
  cases enable <;> simp [isDozeEnabled, enableDoze, Settings.getInt, Settings.putInt]

@[simp] theorem isAlwaysOnEnabled_enableDoze (enable : Bool) :
    isAlwaysOnEnabled (enableDoze context enable w) = isAlwaysOnEnabled w := by
  by_cases hu : w.currentUser = context <;>
    simp [isAlwaysOnEnabled, enableDoze, Settings.getInt, Settings.putInt, Function.update, hu]

@[simp] theorem isDozeEnabled_enableAlwaysOn (enable : Bool) :
    isDozeEnabled context (enableAlwaysOn enable w) = isDozeEnabled context w := by
  by_cases hu : context = w.currentUser <;>
    simp [isDozeEnabled, enableAlwaysOn, Settings.getInt, Settings.putInt, Function.update, hu]

@[simp] theorem isAlwaysOnEnabled_enableAlwaysOn (enable : Bool) :
    isAlwaysOnEnabled (enableAlwaysOn enable w) = enable := by
  cases enable <;> simp [isAlwaysOnEnabled, enableAlwaysOn, Settings.getInt, Settings.putInt]

end ReadBack

/-! ## The decision -/

/-- A user's settings ask for the service: doze is enabled, always-on display is off and the pick-up
type is not "0". -/
def wanted (user : UserId) (w : Settings) : Bool :=
  isDozeEnabled user w && w.getInt user .DOZE_ALWAYS_ON 0 == 0 &&
    w.getString user GESTURE_PICK_UP_KEY "0" != "0"

/-- In the foreground user's own context, the check reads what that user's settings ask for. -/
theorem wanted_eq {user : UserId} {w : Settings} (h : w.currentUser = user) :
    wanted user w =
      (isDozeEnabled user w && !isAlwaysOnEnabled w && areGesturesEnabled user w) := by
  subst h
  simp only [wanted, isAlwaysOnEnabled, areGesturesEnabled, isPickUpEnabled, bne, Bool.not_not]

@[simp] theorem checkDozeService_settings (context : UserId) (w : Android) :
    (checkDozeService context w).settings = w.settings := by
  unfold checkDozeService
  split <;> rfl

/-- What a check does to the system's record of the foreground user's service. -/
theorem checkDozeService_record (context : UserId) (w : Android) :
    (checkDozeService context w).dozeService w.settings.currentUser =
      if isDozeEnabled context w.settings && !isAlwaysOnEnabled w.settings &&
          areGesturesEnabled context w.settings then
        (w.dozeService w.settings.currentUser).start
      else (w.dozeService w.settings.currentUser).stop := by
  unfold checkDozeService
  split
  · simp only [startService, Function.update_self]
  · simp only [stopService, Function.update_self]

/-- A check leaves the foreground user's service started exactly if it decided so. -/
theorem checkDozeService_started (context : UserId) (w : Android) :
    ((checkDozeService context w).dozeService w.settings.currentUser).started =
      (isDozeEnabled context w.settings && !isAlwaysOnEnabled w.settings &&
        areGesturesEnabled context w.settings) := by
  rw [checkDozeService_record, ServiceRecord.started_ite]

end Utils

end RMX2020.Doze

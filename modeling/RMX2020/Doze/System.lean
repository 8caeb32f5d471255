import RMX2020.Machine.Run
import RMX2020.Doze.DozeService
import RMX2020.Doze.DozeSettingsFragment

/-!
# The doze package on the device

The package as a machine, for a single user: the boot broadcast, what the user does on the settings
screen, and everything that happens later: the checks posted to the main handler, the system's calls
on the service, the display going on and off, the broadcasts to the receiver and the tasks of each
sensor's executor. Each of these queues runs in order; between them any order is possible. The
system may also kill the process, and then creates a started service anew (`START_STICKY`).
-/

namespace RMX2020.Doze

open Machine Utils

structure State where
  android : Android
  /-- The settings screen, if it has been opened. -/
  fragment : Option DozeSettingsFragment := none
  /-- The checks posted to the main handler. -/
  posted : Nat := 0
  displayOn : Bool
  live : Option DozeService := none
  /-- Instances that have been destroyed; their executors run on. -/
  destroyed : List DozeService := []

inductive Action where
  | bootCompleted
  | openSettings
  | mainSwitch (isChecked : Bool)
  | changeAlwaysOn (newValue : Bool)
  | changePickUp (newValue : String)
  | runPosted
  | runServiceCall
  | toggleDisplay
  | deliverBroadcast
  | runTask (elapsedRealtime : Int)
  | runDestroyedTask (index : Nat) (elapsedRealtime : Int)
  | killProcess
  deriving DecidableEq

namespace State

/-- A device that has just started: whatever the users have stored, no service runs. -/
def boot (settings : Settings) (displayOn : Bool) : State :=
  { android := { settings := settings, dozeService := fun _ => {} }, displayOn := displayOn }

/-- The one user. -/
def user (s : State) : UserId := s.android.settings.currentUser

/-- The system's record of the service. -/
def service (s : State) : ServiceRecord := s.android.dozeService s.user

/-- The stored pick-up type. -/
def pickUpType (s : State) : String := s.android.settings.getString s.user GESTURE_PICK_UP_KEY "0"

def check (s : State) : State := { s with android := checkDozeService s.user s.android }

def openSettings (device : Device) (s : State) : State :=
  { s with fragment := some (.onCreatePreferences device s.user s.android.settings) }

def mainSwitch (isChecked : Bool) (f : DozeSettingsFragment) (s : State) : State :=
  let (f, w) := f.onCheckedChanged s.user isChecked s.android
  { s with fragment := some f, android := w }

/-- A preference changes: its handler runs and posts a check, then it takes the value. -/
def change (c : PreferenceChange) (f : DozeSettingsFragment) (s : State) : State :=
  let w := DozeSettingsFragment.onPreferenceChange c s.android.settings
  let (f, w) := f.accept s.user c w
  { s with
    fragment := some f
    android := { s.android with settings := w }
    posted := s.posted + 1 }

def runPosted (s : State) : State := { s.check with posted := s.posted - 1 }

/-- The process runs the oldest of the system's calls on the service. -/
def runServiceCall (device : Device) (s : State) (call : ServiceCall) (rest : List ServiceCall) :
    State :=
  let record := { s.service with pending := rest }
  let s := { s with android := { s.android with
    dozeService := Function.update s.android.dozeService s.user record } }
  match call with
  | .onCreate => { s with live := some (.onCreate device) }
  | .onDestroy =>
    { s with live := none, destroyed := s.destroyed ++ s.live.toList.map DozeService.onDestroy }

/-- The display changes, and the system broadcasts it to the receiver, if there is one. -/
def toggleDisplay (s : State) : State :=
  let intent := if s.displayOn then .ACTION_SCREEN_OFF else .ACTION_SCREEN_ON
  { s with displayOn := !s.displayOn, live := s.live.map fun d => d.send intent }

/-- The process dies, and its handler, executors and registrations with it. A started service is
created again. -/
def killProcess (s : State) : State :=
  let record := { s.service with pending := if s.service.started then [.onCreate] else [] }
  { s with
    android := { s.android with
      dozeService := Function.update s.android.dozeService s.user record }
    fragment := none
    posted := 0
    live := none
    destroyed := [] }

end State

def step (device : Device) (s : State) : Action → Except (Stop Empty) State
  | .bootCompleted => .ok s.check
  | .openSettings => .ok (s.openSettings device)
  | .mainSwitch isChecked =>
    match s.fragment with
    | none => .error .disabled
    | some f => .ok (s.mainSwitch isChecked f)
  | .changeAlwaysOn newValue =>
    match s.fragment with
    | none => .error .disabled
    | some f =>
      if f.alwaysOnShown ∧ f.alwaysOnDisplayPreference.isEnabled then
        .ok (s.change (.alwaysOnDisplay newValue) f) else .error .disabled
  | .changePickUp newValue =>
    match s.fragment with
    | none => .error .disabled
    | some f =>
      if f.pickUpPreference.isSome then
        .ok (s.change (.gesturePickUpType newValue) f) else .error .disabled
  | .runPosted => if 0 < s.posted then .ok s.runPosted else .error .disabled
  | .runServiceCall =>
    match s.service.pending with
    | [] => .error .disabled
    | call :: rest => .ok (s.runServiceCall device call rest)
  | .toggleDisplay => .ok s.toggleDisplay
  | .deliverBroadcast =>
    match s.live with
    | none => .error .disabled
    | some d => .ok { s with live := some (d.receiveNext s.user s.android.settings) }
  | .runTask elapsedRealtime =>
    match s.live with
    | none => .error .disabled
    | some d => .ok { s with live := some (d.runTask elapsedRealtime) }
  | .runDestroyedTask index elapsedRealtime =>
    .ok { s with destroyed := s.destroyed.modify index (DozeService.runTask elapsedRealtime) }
  | .killProcess => .ok s.killProcess

/-! ## What each action does -/

/-- `Stepped device s a s'`: action `a` is possible in `s` and leads to `s'`. -/
inductive Stepped (device : Device) (s : State) : Action → State → Prop where
  | bootCompleted : Stepped device s .bootCompleted s.check
  | openSettings : Stepped device s .openSettings (s.openSettings device)
  | mainSwitch {f : DozeSettingsFragment} (isChecked : Bool) : s.fragment = some f →
      Stepped device s (.mainSwitch isChecked) (s.mainSwitch isChecked f)
  | changeAlwaysOn {f : DozeSettingsFragment} (newValue : Bool) : s.fragment = some f →
      f.alwaysOnDisplayPreference.isEnabled = true →
      Stepped device s (.changeAlwaysOn newValue) (s.change (.alwaysOnDisplay newValue) f)
  | changePickUp {f : DozeSettingsFragment} (newValue : String) : s.fragment = some f →
      Stepped device s (.changePickUp newValue) (s.change (.gesturePickUpType newValue) f)
  | runPosted : 0 < s.posted → Stepped device s .runPosted s.runPosted
  | runServiceCall {call : ServiceCall} {rest : List ServiceCall} :
      s.service.pending = call :: rest →
      Stepped device s .runServiceCall (s.runServiceCall device call rest)
  | toggleDisplay : Stepped device s .toggleDisplay s.toggleDisplay
  | deliverBroadcast {d : DozeService} : s.live = some d → Stepped device s .deliverBroadcast
      { s with live := some (d.receiveNext s.user s.android.settings) }
  | runTask {d : DozeService} (elapsedRealtime : Int) : s.live = some d →
      Stepped device s (.runTask elapsedRealtime)
        { s with live := some (d.runTask elapsedRealtime) }
  | runDestroyedTask (index : Nat) (elapsedRealtime : Int) :
      Stepped device s (.runDestroyedTask index elapsedRealtime)
        { s with destroyed := s.destroyed.modify index (DozeService.runTask elapsedRealtime) }
  | killProcess : Stepped device s .killProcess s.killProcess

theorem stepped_of_step {device : Device} {s s' : State} {a : Action}
    (h : step device s a = .ok s') : Stepped device s a s' := by
  cases a with
  | bootCompleted =>
    cases h
    exact .bootCompleted
  | openSettings =>
    cases h
    exact .openSettings
  | mainSwitch isChecked =>
    cases hf : s.fragment with
    | none => simp [step, hf] at h
    | some f =>
      simp only [step, hf] at h
      cases h
      exact .mainSwitch isChecked hf
  | changeAlwaysOn newValue =>
    cases hf : s.fragment with
    | none => simp [step, hf] at h
    | some f =>
      simp only [step, hf] at h
      obtain ⟨hc, rfl⟩ := ite_ok_eq_ok.1 h
      exact .changeAlwaysOn newValue hf hc.2
  | changePickUp newValue =>
    cases hf : s.fragment with
    | none => simp [step, hf] at h
    | some f =>
      simp only [step, hf] at h
      obtain ⟨-, rfl⟩ := ite_ok_eq_ok.1 h
      exact .changePickUp newValue hf
  | runPosted =>
    obtain ⟨hc, rfl⟩ := ite_ok_eq_ok.1 h
    exact .runPosted hc
  | runServiceCall =>
    cases hp : s.service.pending with
    | nil => simp [step, hp] at h
    | cons call rest =>
      simp only [step, hp] at h
      cases h
      exact .runServiceCall hp
  | toggleDisplay =>
    cases h
    exact .toggleDisplay
  | deliverBroadcast =>
    cases hd : s.live with
    | none => simp [step, hd] at h
    | some d =>
      simp only [step, hd] at h
      cases h
      exact .deliverBroadcast hd
  | runTask elapsedRealtime =>
    cases hd : s.live with
    | none => simp [step, hd] at h
    | some d =>
      simp only [step, hd] at h
      cases h
      exact .runTask elapsedRealtime hd
  | runDestroyedTask index elapsedRealtime =>
    cases h
    exact .runDestroyedTask index elapsedRealtime
  | killProcess =>
    cases h
    exact .killProcess

/-! ## What the actions change -/

section Frame

variable {s s' : State}

theorem user_of_settings (h : s'.android.settings = s.android.settings) : s'.user = s.user := by
  unfold State.user
  rw [h]

theorem pickUpType_of_settings (h : s'.android.settings = s.android.settings) :
    s'.pickUpType = s.pickUpType := by
  unfold State.pickUpType State.user
  rw [h]

theorem isPickUpEnabled_iff (s : State) :
    isPickUpEnabled s.user s.android.settings = true ↔ s.pickUpType ≠ "0" := by
  simp [isPickUpEnabled, State.pickUpType]

theorem wanted_iff (s : State) : wanted s.user s.android.settings = true ↔
    isDozeEnabled s.user s.android.settings ∧ isAlwaysOnEnabled s.android.settings = false ∧
      s.pickUpType ≠ "0" := by
  rw [@wanted_eq s.user s.android.settings rfl]
  simp [areGesturesEnabled, isPickUpEnabled_iff, and_assoc]

theorem check_settings (s : State) : s.check.android.settings = s.android.settings :=
  checkDozeService_settings _ _

theorem settings_of_check (h : s'.android = s.check.android) :
    s'.android.settings = s.android.settings := by
  rw [h, check_settings]

/-- What a check does to the service. -/
theorem service_of_check (h : s'.android = s.check.android) : s'.service =
    if wanted s.user s.android.settings then s.service.start else s.service.stop := by
  unfold State.service
  rw [user_of_settings (settings_of_check h), h, State.check, State.user,
    checkDozeService_record, wanted_eq rfl]

section Actions

variable (device : Device) (s : State)

theorem mainSwitch_settings (isChecked : Bool) (f : DozeSettingsFragment) :
    (s.mainSwitch isChecked f).android.settings = switched s.user isChecked s.android.settings :=
  onCheckedChanged_settings _ _ _

theorem mainSwitch_user (isChecked : Bool) (f : DozeSettingsFragment) :
    (s.mainSwitch isChecked f).user = s.user := by
  unfold State.user
  rw [mainSwitch_settings, switched_currentUser]

/-- The switch checks before it turns always-on display off, with what is stored until then. -/
theorem mainSwitch_service (isChecked : Bool) (f : DozeSettingsFragment) :
    (s.mainSwitch isChecked f).service =
      if isChecked && !isAlwaysOnEnabled s.android.settings &&
          areGesturesEnabled s.user s.android.settings then
        s.service.start
      else s.service.stop := by
  have hrecord := checkDozeService_record s.user
    { s.android with settings := enableDoze s.user isChecked s.android.settings }
  have hdozeService : (s.mainSwitch isChecked f).android.dozeService = (checkDozeService s.user
      { s.android with
        settings := enableDoze s.user isChecked s.android.settings }).dozeService := by
    cases isChecked <;> rfl
  simp only [isDozeEnabled_enableDoze, isAlwaysOnEnabled_enableDoze, enableDoze_currentUser]
    at hrecord
  unfold State.service
  rw [mainSwitch_user, hdozeService]
  exact hrecord

theorem mainSwitch_pickUpType (isChecked : Bool) (f : DozeSettingsFragment) :
    (s.mainSwitch isChecked f).pickUpType = s.pickUpType := by
  unfold State.pickUpType State.user
  rw [mainSwitch_settings, switched_currentUser]
  cases isChecked <;> rfl

theorem change_pickUpType (f : DozeSettingsFragment) (newValue : String) :
    (s.change (.gesturePickUpType newValue) f).pickUpType = newValue := by
  simp [State.pickUpType, State.change, State.user, DozeSettingsFragment.accept,
    DozeSettingsFragment.onPreferenceChange, Settings.getString, Settings.putString]

theorem runServiceCall_settings (call : ServiceCall) (rest : List ServiceCall) :
    (s.runServiceCall device call rest).android.settings = s.android.settings := by
  cases call <;> rfl

theorem runServiceCall_service (call : ServiceCall) (rest : List ServiceCall) :
    (s.runServiceCall device call rest).service = { s.service with pending := rest } := by
  cases call <;> simp [State.runServiceCall, State.service, State.user]

theorem runServiceCall_fragment (call : ServiceCall) (rest : List ServiceCall) :
    (s.runServiceCall device call rest).fragment = s.fragment := by
  cases call <;> rfl

theorem runServiceCall_posted (call : ServiceCall) (rest : List ServiceCall) :
    (s.runServiceCall device call rest).posted = s.posted := by
  cases call <;> rfl

theorem killProcess_service : s.killProcess.service =
    { s.service with pending := if s.service.started then [.onCreate] else [] } := by
  simp [State.killProcess, State.service, State.user]

end Actions

end Frame

end RMX2020.Doze

import RMX2020.Doze.PickupSensor
import RMX2020.Doze.Utils

/-!
# The settings screen

`DozeSettingsFragment`: the main switch, the always-on switch and the pick-up list, as the fragment
sets them up when it is opened and changes them when the user does. The always-on handler stores the
value itself; the pick-up value is stored by the preference once the handler has returned. Both
handlers leave the check of the service to a task posted to the main handler, while the main switch
checks at once.
-/

namespace RMX2020.Doze

open Utils

/-- `alwaysOnDisplayPreference`; `isEnabled` is the flag the fragment sets. -/
structure SwitchPreference where
  isEnabled : Bool
  isChecked : Bool
  deriving DecidableEq

/-- `pickUpPreference`; `isEnabled` is the flag the fragment sets. -/
structure ListPreference where
  isEnabled : Bool
  deriving DecidableEq

structure DozeSettingsFragment where
  /-- `switchBar.isChecked`. -/
  switchBar : Bool
  alwaysOnDisplayPreference : SwitchPreference
  /-- Whether the always-on preference is on the screen. -/
  alwaysOnShown : Bool
  /-- Null when its category is not on the screen. -/
  pickUpPreference : Option ListPreference
  deriving DecidableEq

/-- A change the user makes to a preference, with its new value. -/
inductive PreferenceChange where
  | alwaysOnDisplay (newValue : Bool)
  | gesturePickUpType (newValue : String)
  deriving DecidableEq

namespace DozeSettingsFragment

def onCreatePreferences (device : Device) (context : UserId) (w : Settings) :
    DozeSettingsFragment :=
  let dozeEnabled := isDozeEnabled context w
  { switchBar := dozeEnabled
    alwaysOnDisplayPreference := ⟨dozeEnabled, isAlwaysOnEnabled w⟩
    pickUpPreference :=
      -- the category is removed, and the preference with it, if the device names no sensor type
      if device.pickupSensorType.isEmpty then none else some ⟨dozeEnabled⟩
    alwaysOnShown := device.alwaysOnAvailable }

/-- What the handler stores; it posts one check in either case, and accepts the change. -/
def onPreferenceChange (change : PreferenceChange) (w : Settings) : Settings :=
  match change with
  | .alwaysOnDisplay newValue => enableAlwaysOn newValue w
  | .gesturePickUpType _ => w

/-- What the preference does with an accepted change. The always-on preference is not persistent. -/
def accept (context : UserId) (change : PreferenceChange) (f : DozeSettingsFragment)
    (w : Settings) : DozeSettingsFragment × Settings :=
  match change with
  | .alwaysOnDisplay newValue =>
    ({ f with alwaysOnDisplayPreference := { f.alwaysOnDisplayPreference with
        isChecked := newValue } }, w)
  | .gesturePickUpType newValue => (f, w.putString context GESTURE_PICK_UP_KEY newValue)

def onCheckedChanged (context : UserId) (isChecked : Bool) (f : DozeSettingsFragment)
    (w : Android) : DozeSettingsFragment × Android :=
  let w := { w with settings := enableDoze context isChecked w.settings }
  let w := checkDozeService context w
  let f := { f with switchBar := isChecked }
  let (f, w) :=
    if !isChecked then
      ({ f with alwaysOnDisplayPreference := { f.alwaysOnDisplayPreference with
          isChecked := false } }, { w with settings := enableAlwaysOn false w.settings })
    else (f, w)
  ({ f with
      alwaysOnDisplayPreference := { f.alwaysOnDisplayPreference with isEnabled := isChecked }
      pickUpPreference := f.pickUpPreference.map fun _ => ⟨isChecked⟩ }, w)

/-- Whether the pick-up list can be used: its category depends on the always-on switch, if that is
on the screen, which disables its dependents while it is checked or itself disabled. -/
def pickUpUsable (f : DozeSettingsFragment) : Bool :=
  f.pickUpPreference.any (·.isEnabled) &&
    !(f.alwaysOnShown &&
      (f.alwaysOnDisplayPreference.isChecked || !f.alwaysOnDisplayPreference.isEnabled))

end DozeSettingsFragment

/-! ## What the main switch stores -/

section Switched

variable {user : UserId} {w : Settings}

/-- The settings the main switch leaves. -/
def switched (user : UserId) (isChecked : Bool) (w : Settings) : Settings :=
  if isChecked then enableDoze user true w else enableAlwaysOn false (enableDoze user false w)

@[simp] theorem switched_currentUser (isChecked : Bool) :
    (switched user isChecked w).currentUser = w.currentUser := by
  cases isChecked <;> rfl

@[simp] theorem isDozeEnabled_switched (isChecked : Bool) :
    isDozeEnabled user (switched user isChecked w) = isChecked := by
  cases isChecked <;> simp [switched]

theorem isAlwaysOnEnabled_switched (isChecked : Bool) :
    isAlwaysOnEnabled (switched user isChecked w) = (isChecked && isAlwaysOnEnabled w) := by
  cases isChecked <;> simp [switched]

theorem wanted_switched (hcurrent : w.currentUser = user) (isChecked : Bool) :
    wanted user (switched user isChecked w) =
      (isChecked && !isAlwaysOnEnabled w && areGesturesEnabled user w) := by
  rw [wanted_eq (switched_currentUser isChecked |>.trans hcurrent), isDozeEnabled_switched,
    isAlwaysOnEnabled_switched]
  cases isChecked <;> rfl

theorem onCheckedChanged_settings (isChecked : Bool) (f : DozeSettingsFragment) (a : Android) :
    (f.onCheckedChanged user isChecked a).2.settings = switched user isChecked a.settings := by
  cases isChecked <;> simp [DozeSettingsFragment.onCheckedChanged, switched]

end Switched

/-! ## What the screen shows -/

/-- The screen shows what is stored. -/
structure Shows (f : DozeSettingsFragment) (user : UserId) (w : Settings) : Prop where
  switchBar : f.switchBar = isDozeEnabled user w
  checked : f.alwaysOnDisplayPreference.isChecked = isAlwaysOnEnabled w
  alwaysOnEnabled : f.alwaysOnDisplayPreference.isEnabled = isDozeEnabled user w
  pickUpEnabled : ∀ p ∈ f.pickUpPreference, p.isEnabled = isDozeEnabled user w

section Shows

variable {user : UserId} {w : Settings} {f : DozeSettingsFragment}

theorem shows_onCreatePreferences (device : Device) :
    Shows (.onCreatePreferences device user w) user w := by
  refine ⟨rfl, rfl, rfl, fun p hp => ?_⟩
  simp only [DozeSettingsFragment.onCreatePreferences] at hp
  split at hp
  · cases hp
  · cases hp
    rfl

theorem shows_onCheckedChanged (hf : Shows f user w) (isChecked : Bool) (a : Android)
    (ha : a.settings = w) :
    Shows (f.onCheckedChanged user isChecked a).1 user (switched user isChecked w) := by
  subst ha
  refine ⟨?_, ?_, ?_, ?_⟩
  · rw [isDozeEnabled_switched]
    cases isChecked <;> rfl
  · rw [isAlwaysOnEnabled_switched, ← hf.checked]
    cases isChecked <;> rfl
  · rw [isDozeEnabled_switched]
    cases isChecked <;> rfl
  · intro p hp
    rw [isDozeEnabled_switched]
    have hmap : p ∈ f.pickUpPreference.map fun _ => (⟨isChecked⟩ : ListPreference) := by
      cases isChecked <;> exact hp
    obtain ⟨q, -, rfl⟩ := Option.map_eq_some_iff.1 hmap
    rfl

theorem shows_accept (hf : Shows f user w) (c : PreferenceChange) :
    Shows (f.accept user c (DozeSettingsFragment.onPreferenceChange c w)).1 user
      (f.accept user c (DozeSettingsFragment.onPreferenceChange c w)).2 := by
  cases c with
  | gesturePickUpType newValue =>
    exact ⟨hf.switchBar, hf.checked, hf.alwaysOnEnabled, hf.pickUpEnabled⟩
  | alwaysOnDisplay newValue =>
    have hdoze := isDozeEnabled_enableAlwaysOn user w newValue
    refine ⟨?_, (isAlwaysOnEnabled_enableAlwaysOn w newValue).symm, ?_, fun p hp => ?_⟩
    · exact hf.switchBar.trans hdoze.symm
    · exact hf.alwaysOnEnabled.trans hdoze.symm
    · exact (hf.pickUpEnabled p hp).trans hdoze.symm

/-- Of a screen that shows what is stored, the pick-up list can be used while doze is on and
always-on display is not. -/
theorem Shows.pickUpUsable (hf : Shows f user w) : f.pickUpUsable =
    (f.pickUpPreference.isSome && isDozeEnabled user w &&
      !(f.alwaysOnShown && isAlwaysOnEnabled w)) := by
  unfold DozeSettingsFragment.pickUpUsable
  rw [hf.checked, hf.alwaysOnEnabled]
  cases hp : f.pickUpPreference with
  | none => rfl
  | some p =>
    have henabled := hf.pickUpEnabled p hp
    cases hdoze : isDozeEnabled user w <;> simp [henabled, hdoze]

end Shows

end RMX2020.Doze

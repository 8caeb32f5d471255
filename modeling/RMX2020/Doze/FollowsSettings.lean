import RMX2020.Doze.System

/-!
# The service follows the settings

Each handler that changes a setting has the service checked again: the main switch at once, before
it turns always-on display off, the other two by a posted task that runs after the new value is
stored. `Consistent` holds after every event, and `service_follows_settings` reads off it what is
true whenever no check is waiting: the service is started exactly if the settings ask for it, and
the switches show what is stored.
-/

namespace RMX2020.Doze

open Machine Utils

/-- The service is as the settings ask, unless a check is waiting, and the screen shows them. -/
structure Consistent (s : State) : Prop where
  due : s.posted = 0 → s.service.started = wanted s.user s.android.settings
  shows : ∀ f ∈ s.fragment, Shows f s.user s.android.settings

/-- Always-on display is on only while doze is. -/
def AlwaysOnNeedsDoze (user : UserId) (w : Settings) : Prop :=
  isAlwaysOnEnabled w → isDozeEnabled user w

/-! ## Every event -/

namespace Consistent

variable {device : Device} {s s' : State} {a : Action}

/-- An event that leaves the settings, the screen, the checks and the service's state alone. -/
theorem of_same (hc : Consistent s) (hsettings : s'.android.settings = s.android.settings)
    (hfragment : s'.fragment = s.fragment) (hposted : s'.posted = s.posted)
    (hservice : s'.service.started = s.service.started) : Consistent s' := by
  have huser := user_of_settings hsettings
  constructor
  · rw [hposted, hservice, huser, hsettings]
    exact hc.due
  · rw [hfragment, huser, hsettings]
    exact hc.shows

/-- An event that checks the service and leaves the screen alone. -/
theorem of_check (hshows : ∀ f ∈ s.fragment, Shows f s.user s.android.settings)
    (handroid : s'.android = s.check.android) (hfragment : s'.fragment = s.fragment) :
    Consistent s' := by
  have hsettings := settings_of_check handroid
  have huser := user_of_settings hsettings
  constructor
  · intro _
    rw [service_of_check handroid, huser, hsettings]
    exact ServiceRecord.started_ite _ _
  · rw [hfragment, huser, hsettings]
    exact hshows

theorem mainSwitch (hc : Consistent s) {f : DozeSettingsFragment} (hf : s.fragment = some f)
    (isChecked : Bool) : Consistent (s.mainSwitch isChecked f) := by
  have hsettings := mainSwitch_settings s isChecked f
  have huser := mainSwitch_user s isChecked f
  constructor
  · intro _
    rw [mainSwitch_service, ServiceRecord.started_ite, huser, hsettings]
    exact (wanted_switched rfl isChecked).symm
  · intro f' hf'
    rw [huser, hsettings]
    cases hf'
    exact shows_onCheckedChanged (hc.shows f hf) isChecked s.android rfl

theorem change (hc : Consistent s) {f : DozeSettingsFragment} (hf : s.fragment = some f)
    (c : PreferenceChange) : Consistent (s.change c f) := by
  constructor
  · intro hposted
    cases hposted
  · intro f' hf'
    cases hf'
    have huser : (s.change c f).user = s.user := by cases c <;> rfl
    rw [huser]
    exact shows_accept (hc.shows f hf) c

theorem step (hc : Consistent s) (hkill : a ≠ .killProcess)
    (hs : Doze.step device s a = .ok s') : Consistent s' := by
  cases stepped_of_step hs with
  | bootCompleted => exact of_check hc.shows rfl rfl
  | openSettings =>
    refine ⟨hc.due, fun f hf => ?_⟩
    cases hf
    exact shows_onCreatePreferences device
  | mainSwitch isChecked hf => exact hc.mainSwitch hf isChecked
  | changeAlwaysOn newValue hf _ => exact hc.change hf _
  | changePickUp newValue hf => exact hc.change hf _
  | runPosted _ => exact of_check hc.shows rfl rfl
  | runServiceCall _ =>
    refine hc.of_same ?_ ?_ ?_ ?_
    · rw [runServiceCall_settings]
    · rw [runServiceCall_fragment]
    · rw [runServiceCall_posted]
    · rw [runServiceCall_service]
  | killProcess => exact absurd rfl hkill
  | _ => exact hc.of_same rfl rfl rfl rfl

/-- No check is lost with the process if none is waiting. -/
theorem killProcess (hc : Consistent s) (hposted : s.posted = 0) : Consistent s.killProcess where
  due _ := by
    rw [killProcess_service]
    exact hc.due hposted
  shows f hf := by cases hf

end Consistent

/-- Always-on display cannot be turned on while doze is off: its switch is disabled then. -/
theorem alwaysOnNeedsDoze_step {device : Device} {s s' : State} {a : Action} (hc : Consistent s)
    (h : AlwaysOnNeedsDoze s.user s.android.settings) (hs : step device s a = .ok s') :
    AlwaysOnNeedsDoze s'.user s'.android.settings := by
  cases stepped_of_step hs with
  | bootCompleted =>
    have hsettings := check_settings s
    rw [user_of_settings hsettings, hsettings]
    exact h
  | runPosted _ =>
    have hsettings : s.runPosted.android.settings = s.android.settings := check_settings s
    rw [user_of_settings hsettings, hsettings]
    exact h
  | mainSwitch isChecked hf =>
    rw [mainSwitch_user, mainSwitch_settings]
    intro hon
    rw [isAlwaysOnEnabled_switched, Bool.and_eq_true] at hon
    exact (isDozeEnabled_switched isChecked).trans hon.1
  | changeAlwaysOn newValue hf henabled =>
    intro _
    rw [(hc.shows _ hf).alwaysOnEnabled] at henabled
    exact (isDozeEnabled_enableAlwaysOn _ _ newValue).trans henabled
  | @runServiceCall call rest _ =>
    have hsettings := runServiceCall_settings device s call rest
    rw [user_of_settings hsettings, hsettings]
    exact h
  | _ => exact h

/-- **The service follows the settings.** After the boot broadcast and any events but the death of
the process: with no check waiting, the service is started exactly if doze is enabled, always-on
display is off and the pick-up type is not "0"; always-on display is never on while doze is off, if
it was not to begin with; and the switches show what is stored. -/
theorem service_follows_settings {device : Device} {settings : Settings} {displayOn : Bool}
    {acts : List Action} {s : State} (hkill : Action.killProcess ∉ acts)
    (hrun : run (step device) (.boot settings displayOn) (.bootCompleted :: acts) = .ok s) :
    (s.posted = 0 → (s.service.started ↔ isDozeEnabled s.user s.android.settings ∧
        ¬ isAlwaysOnEnabled s.android.settings ∧ s.pickUpType ≠ "0")) ∧
      (AlwaysOnNeedsDoze settings.currentUser settings →
        AlwaysOnNeedsDoze s.user s.android.settings) ∧
      ∀ f ∈ s.fragment, Shows f s.user s.android.settings := by
  have hfirst : step device (.boot settings displayOn) .bootCompleted =
    .ok (State.boot settings displayOn).check := rfl
  rw [run_cons_ok hfirst] at hrun
  have hboot : Consistent (State.boot settings displayOn).check :=
    Consistent.of_check (fun f hf => by cases hf) rfl rfl
  have hall : Consistent s ∧ (AlwaysOnNeedsDoze settings.currentUser settings →
      AlwaysOnNeedsDoze s.user s.android.settings) := by
    refine run_guarded (P := fun s => Consistent s ∧ (AlwaysOnNeedsDoze _ settings →
        AlwaysOnNeedsDoze s.user s.android.settings)) ?_ hrun
      (guarded_of_forall fun _ _ ha => ne_of_mem_of_not_mem ha hkill) ⟨hboot, ?_⟩
    · rintro s a s' ⟨hc, haod⟩ hne hs
      exact ⟨hc.step hne hs, fun h => alwaysOnNeedsDoze_step hc (haod h) hs⟩
    · intro h
      have hsettings := check_settings (.boot settings displayOn)
      rw [user_of_settings hsettings, hsettings]
      exact h
  refine ⟨fun hposted => ?_, hall.2, hall.1.shows⟩
  rw [hall.1.due hposted, wanted_iff, Bool.not_eq_true]

theorem service_follows_settings_pickUp :
    let acts := [.openSettings, .changePickUp "1", .runPosted, .mainSwitch false]
    let s := final (step pickUpDevice) (.boot (storedPickUp "0") true) (.bootCompleted :: acts)
    (s.posted = 0 → (s.service.started ↔ isDozeEnabled s.user s.android.settings ∧
        ¬ isAlwaysOnEnabled s.android.settings ∧ s.pickUpType ≠ "0")) ∧
      (AlwaysOnNeedsDoze (storedPickUp "0").currentUser (storedPickUp "0") →
        AlwaysOnNeedsDoze s.user s.android.settings) ∧
      ∀ f ∈ s.fragment, Shows f s.user s.android.settings :=
  @service_follows_settings pickUpDevice (storedPickUp "0") true
    [.openSettings, .changePickUp "1", .runPosted, .mainSwitch false] _ (by decide) (by rfl)

end RMX2020.Doze

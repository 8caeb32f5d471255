import RMX2020.Doze.FollowsSettings

/-!
# The instances of the service

What holds of the service's instances after every run, however the events fall: what the broadcasts
on their way say, when an instance exists, and which listeners can be registered (`Sound`, kept by
every step: `Sound.step`).
-/

namespace RMX2020.Doze

open Machine Utils

/-- Whether a call of the system leaves the service existing. -/
def creates : ServiceCall → Bool
  | .onCreate => true
  | .onDestroy => false

theorem drained_start {alive : Bool} {r : ServiceRecord}
    (h : drained creates alive r.pending = r.started) (c : Bool) :
    drained creates alive (if c then r.start else r.stop).pending =
      (if c then r.start else r.stop).started := by
  unfold ServiceRecord.start ServiceRecord.stop
  cases c <;> cases hs : r.started <;> simp [hs, creates] at h ⊢ <;> exact h

/-- What is true of the instances and the queues after every run. -/
structure Sound (s : State) : Prop where
  /-- The last broadcast on its way to the instance says how the display is. -/
  knows : ∀ d ∈ s.live, ∀ i ∈ d.broadcasts.getLast?, DozeService.tells i = s.displayOn
  listens : ∀ d ∈ s.live, d.listening → d.pickupSensor.sensor.isSome
  /-- Once the system's calls have run, the service exists exactly if it is started. -/
  lifecycle : drained creates s.live.isSome s.service.pending = s.service.started
  doze : s.service.started → isDozeEnabled s.user s.android.settings
  destroyed : ∀ d ∈ s.destroyed, d.listening = false
  /-- A listener that outlives its pick-up type is about to go with its service. -/
  stale : ∀ d ∈ s.live, d.listening → s.pickUpType = "0" → 0 < s.posted ∨ s.service.started = false

/-- With no call of the system to run, an instance exists only while the service is started. -/
theorem Sound.started_of_live {s : State} (hs : Sound s) {d : DozeService} (hd : s.live = some d)
    (hpending : s.service.pending = []) : s.service.started = true := by
  have hlife := hs.lifecycle
  rw [hpending, drained_nil, hd] at hlife
  exact hlife.symm

namespace Sound

variable {device : Device} {s s' : State} {a : Action}

theorem boot (settings : Settings) (displayOn : Bool) : Sound (.boot settings displayOn) := by
  refine ⟨?_, ?_, rfl, ?_, ?_, ?_⟩
  · intro d hd
    cases hd
  · intro d hd
    cases hd
  · intro h
    cases h
  · intro d hd
    cases hd
  · intro d hd
    cases hd

/-- A step that checks the service: `c` is what the check decides. -/
theorem of_check (hs : Sound s) {c : Bool} (hlive : s'.live = s.live)
    (hdisplay : s'.displayOn = s.displayOn) (hdestroyed : s'.destroyed = s.destroyed)
    (htype : s'.pickUpType = s.pickUpType)
    (hservice : s'.service = if c then s.service.start else s.service.stop)
    (hdoze : c = true → isDozeEnabled s'.user s'.android.settings)
    (hpickUp : c = true → s.pickUpType ≠ "0") : Sound s' := by
  have hstarted : s'.service.started = c := by
    rw [hservice]
    exact ServiceRecord.started_ite _ _
  refine ⟨?_, ?_, ?_, ?_, ?_, ?_⟩
  · rw [hlive, hdisplay]
    exact hs.knows
  · rw [hlive]
    exact hs.listens
  · rw [hlive, hservice]
    exact drained_start hs.lifecycle c
  · rw [hstarted]
    exact hdoze
  · rw [hdestroyed]
    exact hs.destroyed
  · intro d _ _ hzero
    right
    rw [hstarted]
    by_contra hc
    rw [Bool.not_eq_false] at hc
    exact hpickUp hc (htype ▸ hzero)

theorem check (hs : Sound s) (hlive : s'.live = s.live) (hdisplay : s'.displayOn = s.displayOn)
    (hdestroyed : s'.destroyed = s.destroyed) (handroid : s'.android = s.check.android) :
    Sound s' := by
  have hsettings := settings_of_check handroid
  refine hs.of_check hlive hdisplay hdestroyed (pickUpType_of_settings hsettings)
    (service_of_check handroid) (fun hc => ?_) (fun hc => ?_)
  · rw [user_of_settings hsettings, hsettings]
    exact ((wanted_iff s).1 hc).1
  · exact ((wanted_iff s).1 hc).2.2

theorem mainSwitch (hs : Sound s) (isChecked : Bool) (f : DozeSettingsFragment) :
    Sound (s.mainSwitch isChecked f) := by
  refine hs.of_check rfl rfl rfl (mainSwitch_pickUpType s isChecked f)
    (mainSwitch_service s isChecked f) (fun hc => ?_) (fun hc => ?_)
  · simp only [Bool.and_eq_true] at hc
    rw [mainSwitch_user, mainSwitch_settings]
    exact (isDozeEnabled_switched isChecked).trans hc.1.1
  · simp only [Bool.and_eq_true] at hc
    exact (isPickUpEnabled_iff s).1 hc.2

theorem change (hs : Sound s) (f : DozeSettingsFragment) (c : PreferenceChange) :
    Sound (s.change c f) := by
  refine ⟨hs.knows, hs.listens, ?_, ?_, hs.destroyed, ?_⟩
  · cases c <;> exact hs.lifecycle
  · intro hstarted
    cases c with
    | alwaysOnDisplay newValue =>
      exact (isDozeEnabled_enableAlwaysOn _ _ newValue).trans (hs.doze hstarted)
    | gesturePickUpType newValue => exact hs.doze hstarted
  · intro d _ _ _
    exact .inl (Nat.succ_pos _)

theorem runServiceCall (hs : Sound s) {call : ServiceCall} {rest : List ServiceCall}
    (hpending : s.service.pending = call :: rest) :
    Sound (s.runServiceCall device call rest) := by
  have hlife := hs.lifecycle
  have hsettings := runServiceCall_settings device s call rest
  have hservice := runServiceCall_service device s call rest
  have hdoze : (s.runServiceCall device call rest).service.started →
      isDozeEnabled (s.runServiceCall device call rest).user
        (s.runServiceCall device call rest).android.settings := by
    rw [hservice, user_of_settings hsettings, hsettings]
    exact hs.doze
  rw [hpending, drained_cons] at hlife
  cases call with
  | onCreate =>
    refine ⟨?_, ?_, ?_, hdoze, hs.destroyed, ?_⟩
    · intro d hd i hi
      cases hd
      cases hi
    · intro d hd hlisten
      cases hd
      cases hlisten
    · rw [hservice]
      exact hlife
    · intro d hd hlisten
      cases hd
      cases hlisten
  | onDestroy =>
    refine ⟨?_, ?_, ?_, hdoze, ?_, ?_⟩
    · intro d hd
      cases hd
    · intro d hd
      cases hd
    · rw [hservice]
      exact hlife
    · intro d hd
      rcases List.mem_append.1 hd with hd | hd
      · exact hs.destroyed d hd
      · obtain ⟨d₀, hd₀, rfl⟩ := List.mem_map.1 hd
        have hlistens := hs.listens d₀ (Option.mem_toList.1 hd₀)
        rw [DozeService.listening_onDestroy]
        cases hl : d₀.listening with
        | false => exact Bool.and_false _
        | true => simp [hlistens hl]
    · intro d hd
      cases hd

theorem toggleDisplay (hs : Sound s) : Sound s.toggleDisplay := by
  refine ⟨?_, ?_, ?_, hs.doze, hs.destroyed, ?_⟩
  · intro d hd i hi
    obtain ⟨d₀, hd₀, rfl⟩ := Option.map_eq_some_iff.1 hd
    simp only [DozeService.send, List.getLast?_concat, Option.mem_some_iff] at hi
    subst hi
    unfold State.toggleDisplay
    cases s.displayOn <;> rfl
  · intro d hd
    obtain ⟨d₀, hd₀, rfl⟩ := Option.map_eq_some_iff.1 hd
    exact hs.listens d₀ hd₀
  · have hsome : s.toggleDisplay.live.isSome = s.live.isSome := Option.isSome_map
    rw [hsome]
    exact hs.lifecycle
  · intro d hd
    obtain ⟨d₀, hd₀, rfl⟩ := Option.map_eq_some_iff.1 hd
    exact hs.stale d₀ hd₀

/-- A step that replaces the live instance and leaves the rest alone. -/
theorem of_live (hs : Sound s) {d d' : DozeService} (hd : s.live = some d)
    (hknows : ∀ i ∈ d'.broadcasts.getLast?, i ∈ d.broadcasts.getLast?)
    (hlistens : d'.listening → d'.pickupSensor.sensor.isSome)
    (hstale : d'.listening → s.pickUpType = "0" → d.listening) :
    Sound { s with live := some d' } := by
  refine ⟨?_, ?_, ?_, hs.doze, hs.destroyed, ?_⟩
  · intro d₁ hd₁ i hi
    cases hd₁
    exact hs.knows d hd i (hknows i hi)
  · intro d₁ hd₁
    cases hd₁
    exact hlistens
  · have hlife := hs.lifecycle
    rw [hd] at hlife
    exact hlife
  · intro d₁ hd₁ hlisten hzero
    cases hd₁
    exact hs.stale d hd (hstale hlisten hzero) hzero

theorem deliverBroadcast (hs : Sound s) {d : DozeService} (hd : s.live = some d) :
    Sound { s with live := some (d.receiveNext s.user s.android.settings) } := by
  have hlistens := hs.listens d hd
  unfold DozeService.receiveNext
  cases hb : d.broadcasts with
  | nil => exact hs.of_live hd (fun _ hi => hi) hlistens fun hlisten _ => hlisten
  | cons intent rest =>
    refine hs.of_live hd ?_ ?_ ?_
    · intro i hi
      rw [DozeService.broadcasts_onReceive] at hi
      rw [hb]
      cases rest with
      | nil => cases hi
      | cons j rest => simpa using hi
    · rw [DozeService.listening_onReceive, DozeService.sensor_onReceive]
      cases hsome : d.pickupSensor.sensor.isSome with
      | true => simp
      | false =>
        have hoff : d.listening = false := by
          by_contra hl
          rw [Bool.not_eq_false] at hl
          exact absurd (hlistens hl) (by simp [hsome])
        have hoff' : { d with broadcasts := rest }.listening = false := hoff
        simp [hoff']
    · intro hlisten hzero
      have hdisabled : isPickUpEnabled s.user s.android.settings = false := by
        by_contra hp
        rw [Bool.not_eq_false] at hp
        exact (isPickUpEnabled_iff s).1 hp hzero
      rw [DozeService.listening_onReceive, hdisabled] at hlisten
      exact hlisten

/-- **Every step keeps what holds of the instances and the queues.** -/
theorem step (hs : Sound s) (h : Doze.step device s a = .ok s') : Sound s' := by
  cases stepped_of_step h with
  | bootCompleted => exact hs.check rfl rfl rfl rfl
  | openSettings => exact ⟨hs.knows, hs.listens, hs.lifecycle, hs.doze, hs.destroyed, hs.stale⟩
  | mainSwitch isChecked _ => exact hs.mainSwitch isChecked _
  | changeAlwaysOn newValue _ _ => exact hs.change _ _
  | changePickUp newValue _ => exact hs.change _ _
  | runPosted _ => exact hs.check rfl rfl rfl rfl
  | runServiceCall hpending => exact hs.runServiceCall hpending
  | toggleDisplay => exact hs.toggleDisplay
  | deliverBroadcast hd => exact hs.deliverBroadcast hd
  | runTask elapsedRealtime hd =>
    refine hs.of_live hd (fun _ hi => hi) ?_ ?_
    · rw [DozeService.listening_runTask]
      simpa [DozeService.runTask] using hs.listens _ hd
    · rw [DozeService.listening_runTask]
      exact fun hlisten _ => hlisten
  | runDestroyedTask index elapsedRealtime =>
    refine ⟨hs.knows, hs.listens, hs.lifecycle, hs.doze, ?_, hs.stale⟩
    intro d hd
    obtain ⟨j, hj⟩ := List.mem_iff_getElem?.1 hd
    rw [List.getElem?_modify] at hj
    obtain ⟨d₀, hd₀, rfl⟩ := Option.map_eq_some_iff.1 hj
    have hoff := hs.destroyed d₀ (List.mem_of_getElem? hd₀)
    split
    · rw [DozeService.listening_runTask]
      exact hoff
    · exact hoff
  | killProcess =>
    refine ⟨?_, ?_, ?_, ?_, ?_, ?_⟩
    · intro d hd
      cases hd
    · intro d hd
      cases hd
    · rw [killProcess_service]
      cases s.service.started <;> rfl
    · rw [killProcess_service]
      exact hs.doze
    · intro d hd
      cases hd
    · intro d hd
      cases hd

end Sound

end RMX2020.Doze

import RMX2020.Doze.Instances

/-!
# The pick-up listener

The service registers and unregisters the pick-up listener on screen broadcasts, and only if a
pick-up type is chosen at the moment one is delivered. An instance created with the display off has
seen no broadcast, and one that saw its last broadcast while the type was "0" has not acted on it.
`HowStays` lists the ways in which a step leaves an instance with nothing under way for it; from it
follow `pickup_not_dead` and `sensor_not_leaked`, each for the runs without the steps that go wrong.
-/

namespace RMX2020.Doze

open Machine Utils

/-- Nothing is under way for the live instance: no broadcast, no call of the system, and no check
that would stop it. -/
structure Stays (s : State) (d : DozeService) : Prop where
  live : s.live = some d
  broadcasts : d.broadcasts = []
  pending : s.service.pending = []
  kept : wanted s.user s.android.settings = true ∨ s.posted = 0

/-- A change of a preference, with which the settings ask for the service. -/
def State.WantedBy (s : State) : Action → Prop
  | .changeAlwaysOn newValue =>
    isDozeEnabled s.user s.android.settings ∧ newValue = false ∧ s.pickUpType ≠ "0"
  | .changePickUp newValue =>
    isDozeEnabled s.user s.android.settings ∧ isAlwaysOnEnabled s.android.settings = false ∧
      newValue ≠ "0"
  | _ => False

instance (s : State) : ∀ a, Decidable (s.WantedBy a)
  | .changeAlwaysOn newValue => inferInstanceAs (Decidable (_ ∧ newValue = false ∧ _))
  | .changePickUp newValue => inferInstanceAs (Decidable (_ ∧ _ ∧ newValue ≠ "0"))
  | .bootCompleted | .openSettings | .mainSwitch _ | .runPosted | .runServiceCall | .toggleDisplay
  | .deliverBroadcast | .runTask _ | .runDestroyedTask .. | .killProcess =>
    inferInstanceAs (Decidable False)

/-- How a step from `s` to `s'` leaves the live instance `d'` with nothing under way for it. -/
inductive HowStays (device : Device) (s : State) (a : Action) (s' : State) (d' : DozeService) :
    Prop where
  /-- It was so before. -/
  | kept {d : DozeService} : Stays s d → d'.listening = d.listening →
      d'.pickupSensor.sensor = d.pickupSensor.sensor → s'.pickUpType = s.pickUpType →
      HowStays device s a s' d'
  /-- It has been created. -/
  | created : a = .runServiceCall → s.service.pending = [.onCreate] → d' = .onCreate device →
      s'.pickUpType = s.pickUpType →
      wanted s.user s.android.settings = true ∨ s.posted = 0 → HowStays device s a s' d'
  /-- It has received the last broadcast. -/
  | received {d : DozeService} {intent : ScreenIntent} : s.live = some d →
      DozeService.tells intent = s.displayOn →
      d' = { d with broadcasts := [] }.onReceive s.user s.android.settings intent →
      s'.pickUpType = s.pickUpType → HowStays device s a s' d'
  /-- A change of a preference keeps it. -/
  | wanted : s.WantedBy a → s.live = some d' → d'.broadcasts = [] → s.service.pending = [] →
      HowStays device s a s' d'

section HowStays

variable {device : Device} {s s' : State} {a : Action} {d' : DozeService}

/-- A step that checks the service, deciding `c`, and leaves the instance alone. -/
theorem howStays_of_check (hs : Sound s) {c : Bool} (hlive : s'.live = s.live)
    (htype : s'.pickUpType = s.pickUpType)
    (hservice : s'.service = if c then s.service.start else s.service.stop)
    (hwanted : s.service.started = true → c = true → wanted s.user s.android.settings = true)
    (hstays : Stays s' d') : HowStays device s a s' d' := by
  have hd : s.live = some d' := hlive ▸ hstays.live
  have hpending := hstays.pending
  rw [hservice] at hpending
  obtain ⟨hpending, hstarted⟩ := ServiceRecord.pending_ite_eq_nil hpending
  have htrue := hs.started_of_live hd hpending
  have hstay : Stays s d' :=
    ⟨hd, hstays.broadcasts, hpending, .inl (hwanted htrue (hstarted.symm.trans htrue))⟩
  exact .kept hstay rfl rfl htype

theorem howStays_check (hs : Sound s) (hlive : s'.live = s.live)
    (handroid : s'.android = s.check.android) (hstays : Stays s' d') :
    HowStays device s a s' d' := by
  exact howStays_of_check hs hlive (pickUpType_of_settings (settings_of_check handroid))
    (service_of_check handroid) (fun _ hc => hc) hstays

theorem howStays_mainSwitch (hs : Sound s) {isChecked : Bool} {f : DozeSettingsFragment}
    (hstays : Stays (s.mainSwitch isChecked f) d') :
    HowStays device s a (s.mainSwitch isChecked f) d' := by
  refine howStays_of_check hs rfl (mainSwitch_pickUpType s isChecked f)
    (mainSwitch_service s isChecked f) (fun hstarted hc => ?_) hstays
  simp only [Bool.and_eq_true, Bool.not_eq_true'] at hc
  exact (wanted_iff s).2 ⟨hs.doze hstarted, hc.1.2, (isPickUpEnabled_iff s).1 hc.2⟩

/-- A change of a preference posts a check, so the instance stays only if it is wanted. -/
theorem howStays_change {f : DozeSettingsFragment} {c : PreferenceChange}
    (hby : wanted (s.change c f).user (s.change c f).android.settings = true → s.WantedBy a)
    (hstays : Stays (s.change c f) d') : HowStays device s a (s.change c f) d' := by
  have hwanted : wanted (s.change c f).user (s.change c f).android.settings = true := by
    rcases hstays.kept with hkept | hposted
    · exact hkept
    · cases hposted
  have hpending : s.service.pending = [] := by
    have h := hstays.pending
    cases c <;> exact h
  exact .wanted (hby hwanted) hstays.live hstays.broadcasts hpending

theorem howStays_runServiceCall {call : ServiceCall} {rest : List ServiceCall}
    (hpending : s.service.pending = call :: rest)
    (hstays : Stays (s.runServiceCall device call rest) d') :
    HowStays device s .runServiceCall (s.runServiceCall device call rest) d' := by
  have hsettings := runServiceCall_settings device s call rest
  have hrest := hstays.pending
  rw [runServiceCall_service] at hrest
  cases call with
  | onDestroy => cases hstays.live
  | onCreate =>
    have hrest' : rest = [] := hrest
    subst hrest'
    have hd' : d' = .onCreate device := (Option.some.inj hstays.live).symm
    have hkept := hstays.kept
    rw [user_of_settings hsettings, hsettings] at hkept
    exact .created rfl hpending hd' (pickUpType_of_settings hsettings) hkept

theorem howStays_deliverBroadcast (hs : Sound s) {d : DozeService} (hd : s.live = some d)
    (hstays : Stays { s with live := some (d.receiveNext s.user s.android.settings) } d') :
    HowStays device s a { s with live := some (d.receiveNext s.user s.android.settings) } d' := by
  have hd' : d' = d.receiveNext s.user s.android.settings := (Option.some.inj hstays.live).symm
  unfold DozeService.receiveNext at hd'
  cases hb : d.broadcasts with
  | nil =>
    rw [hb] at hd'
    subst hd'
    exact .kept ⟨hd, hb, hstays.pending, hstays.kept⟩ rfl rfl rfl
  | cons intent rest =>
    rw [hb] at hd'
    have hrest : rest = [] := by
      have h := hstays.broadcasts
      rw [hd', DozeService.broadcasts_onReceive] at h
      exact h
    subst hrest
    refine .received hd (hs.knows d hd intent ?_) hd' rfl
    rw [hb]
    rfl

/-- **How an instance comes to have nothing under way.** -/
theorem howStays (hs : Sound s) (h : step device s a = .ok s') (hstays : Stays s' d') :
    HowStays device s a s' d' := by
  cases stepped_of_step h with
  | bootCompleted => exact howStays_check hs rfl rfl hstays
  | openSettings =>
    exact .kept ⟨hstays.live, hstays.broadcasts, hstays.pending, hstays.kept⟩ rfl rfl rfl
  | mainSwitch isChecked _ => exact howStays_mainSwitch hs hstays
  | changeAlwaysOn newValue _ _ =>
    refine howStays_change (fun hwanted => ?_) hstays
    have hiff := (wanted_iff _).1 hwanted
    refine ⟨?_, ?_, hiff.2.2⟩
    · rw [← isDozeEnabled_enableAlwaysOn s.user s.android.settings newValue]
      exact hiff.1
    · rw [← isAlwaysOnEnabled_enableAlwaysOn s.android.settings newValue]
      exact hiff.2.1
  | changePickUp newValue _ =>
    refine howStays_change (fun hwanted => ?_) hstays
    have hiff := (wanted_iff _).1 hwanted
    refine ⟨hiff.1, hiff.2.1, ?_⟩
    rw [← change_pickUpType s _ newValue]
    exact hiff.2.2
  | runPosted _ => exact howStays_check hs rfl rfl hstays
  | runServiceCall hpending => exact howStays_runServiceCall hpending hstays
  | toggleDisplay =>
    obtain ⟨d, hd, rfl⟩ := Option.map_eq_some_iff.1 hstays.live
    exact absurd hstays.broadcasts (by simp [DozeService.send])
  | deliverBroadcast hd => exact howStays_deliverBroadcast hs hd hstays
  | runTask elapsedRealtime hd =>
    have hd' := Option.some.inj hstays.live
    subst hd'
    exact .kept ⟨hd, hstays.broadcasts, hstays.pending, hstays.kept⟩
      (DozeService.listening_runTask _ _) (PickupSensor.sensor_runTask _ _) rfl
  | runDestroyedTask index elapsedRealtime =>
    exact .kept ⟨hstays.live, hstays.broadcasts, hstays.pending, hstays.kept⟩ rfl rfl rfl
  | killProcess => cases hstays.live

/-- The display has not just changed: the instance would have been told. -/
theorem displayOn_of_stays (h : step device s a = .ok s') (hstays : Stays s' d') :
    s'.displayOn = s.displayOn := by
  cases stepped_of_step h with
  | toggleDisplay =>
    obtain ⟨d, hd, rfl⟩ := Option.map_eq_some_iff.1 hstays.live
    exact absurd hstays.broadcasts (by simp [DozeService.send])
  | @runServiceCall call rest _ => cases call <;> rfl
  | _ => rfl

end HowStays

/-- All queues have run dry. -/
structure State.Drained (s : State) : Prop where
  posted : s.posted = 0
  pending : s.service.pending = []
  live : ∀ d ∈ s.live, d.broadcasts = [] ∧ d.pickupSensor.executorService = []
  destroyed : ∀ d ∈ s.destroyed, d.pickupSensor.executorService = []

instance (s : State) : Decidable s.Drained :=
  decidable_of_iff (s.posted = 0 ∧ s.service.pending = [] ∧
      (∀ d ∈ s.live, d.broadcasts = [] ∧ d.pickupSensor.executorService = []) ∧
      ∀ d ∈ s.destroyed, d.pickupSensor.executorService = [])
    ⟨fun h => ⟨h.1, h.2.1, h.2.2.1, h.2.2.2⟩, fun h => ⟨h.posted, h.pending, h.live, h.destroyed⟩⟩

theorem State.Drained.stays {s : State} (h : s.Drained) {d : DozeService} (hd : s.live = some d) :
    Stays s d := ⟨hd, (h.live d hd).1, h.pending, .inr h.posted⟩

theorem State.Drained.registered {s : State} (h : s.Drained) {d : DozeService}
    (hd : s.live = some d) : d.pickupSensor.registered = d.listening :=
  (PickupSensor.willBeRegistered_of_idle (h.live d hd).2).symm

/-! ## The gesture is not dead -/

/-- With all queues drained, the display off and a pick-up type chosen, the live instance's listener
is registered. -/
def NotDead (s : State) : Prop :=
  s.Drained → ∀ d ∈ s.live, s.displayOn = false → s.pickUpType ≠ "0" →
    d.pickupSensor.sensor.isSome → d.pickupSensor.registered = true

instance (s : State) : Decidable (NotDead s) := inferInstanceAs (Decidable (s.Drained → _))

/-- No instance is created, to stay, while the display is off and a pick-up type is chosen. -/
def CreatedInLight (device : Device) (s : State) (a : Action) : Prop :=
  a = .runServiceCall → s.service.pending = [.onCreate] →
    (wanted s.user s.android.settings = true ∨ s.posted = 0) → s.displayOn = false →
      s.pickUpType ≠ "0" → getSensor device device.pickupSensorType = none

instance (device : Device) (s : State) (a : Action) : Decidable (CreatedInLight device s a) :=
  inferInstanceAs (Decidable (a = .runServiceCall → _))

/-- No change of a preference keeps an instance that was told of the display going off without
acting on it. -/
def KeptListening (s : State) (a : Action) : Prop :=
  s.WantedBy a → ∀ d ∈ s.live, d.broadcasts = [] → s.service.pending = [] → s.displayOn = false →
    d.pickupSensor.sensor.isSome → d.listening = true

instance (s : State) (a : Action) : Decidable (KeptListening s a) :=
  inferInstanceAs (Decidable (s.WantedBy a → _))

/-- The display going off is not missed. -/
def NoneMissed (device : Device) (s : State) (a : Action) : Prop :=
  CreatedInLight device s a ∧ KeptListening s a

instance (device : Device) (s : State) (a : Action) : Decidable (NoneMissed device s a) :=
  inferInstanceAs (Decidable (_ ∧ _))

/-- An instance with nothing under way listens while the display is off and a type is chosen. -/
def Listens (s : State) : Prop :=
  ∀ d, Stays s d → s.displayOn = false → s.pickUpType ≠ "0" → d.pickupSensor.sensor.isSome →
    d.listening = true

theorem Listens.step {device : Device} {s s' : State} {a : Action} (hs : Sound s) (hi : Listens s)
    (hmissed : NoneMissed device s a) (h : Doze.step device s a = .ok s') : Listens s' := by
  intro d' hstays hoff htype hsensor
  rw [displayOn_of_stays h hstays] at hoff
  cases howStays hs h hstays with
  | kept hstay hlisten hsame htype' =>
    rw [hlisten]
    rw [hsame] at hsensor
    rw [htype'] at htype
    exact hi _ hstay hoff htype hsensor
  | created ha hpending hd' htype' hkept =>
    subst hd'
    rw [htype'] at htype
    have hnone := hmissed.1 ha hpending hkept hoff htype
    have hsome : (getSensor device device.pickupSensorType).isSome := hsensor
    rw [hnone] at hsome
    cases hsome
  | received hd htells hd' htype' =>
    rw [htype'] at htype
    rw [hd', DozeService.sensor_onReceive] at hsensor
    rw [hd', DozeService.listening_onReceive, (isPickUpEnabled_iff s).2 htype, htells, hoff]
    simp [hsensor]
  | wanted hby hd hbroadcasts hpending =>
    exact hmissed.2 hby d' hd hbroadcasts hpending hoff hsensor

/-- **The pick-up gesture is not dead**, in every run without a step that misses the display going
off. -/
theorem pickup_not_dead {device : Device} {settings : Settings} {displayOn : Bool}
    {acts : List Action} {s : State}
    (hmissed : Guarded (step device) (NoneMissed device) (.boot settings displayOn) acts)
    (hrun : run (step device) (.boot settings displayOn) acts = .ok s) : NotDead s := by
  have hall : Sound s ∧ Listens s := by
    refine run_guarded (P := fun s => Sound s ∧ Listens s) ?_ hrun hmissed
      ⟨Sound.boot settings displayOn, fun d hstays => by cases hstays.live⟩
    rintro s a s' ⟨hs, hi⟩ hmissed h
    exact ⟨hs.step h, hi.step hs hmissed h⟩
  intro hdrained d hd hoff htype hsensor
  rw [hdrained.registered hd]
  exact hall.2 d (hdrained.stays hd) hoff htype hsensor

/-- The service is created at boot, and the display then goes off. -/
def createdThenOff : List Action :=
  [.bootCompleted, .runServiceCall, .toggleDisplay, .deliverBroadcast, .runTask 0]

theorem pickup_not_dead_created :
    NotDead (final (step pickUpDevice) (.boot (storedPickUp "1") true) createdThenOff) :=
  @pickup_not_dead pickUpDevice (storedPickUp "1") true createdThenOff _ (by decide) rfl

/-- A service created while the display is off does not hear of it; and one that ignored the
broadcast, because the type was "0" for a moment, is not told again. -/
theorem dead_when_display_off_missed :
    let dark := State.boot (storedPickUp "1") false
    let ignored : List Action := [.bootCompleted, .runServiceCall, .openSettings, .changePickUp "0",
      .toggleDisplay, .deliverBroadcast, .changePickUp "1", .runPosted, .runPosted]
    (∃ s, run (step pickUpDevice) dark [.bootCompleted, .runServiceCall] = .ok s ∧ ¬ NotDead s) ∧
      ∃ s, run (step pickUpDevice) (.boot (storedPickUp "1") true) ignored = .ok s ∧
        ¬ NotDead s := by
  intro dark ignored
  refine ⟨⟨final (step pickUpDevice) dark [.bootCompleted, .runServiceCall], rfl, by decide⟩, ?_⟩
  exact ⟨final (step pickUpDevice) (.boot (storedPickUp "1") true) ignored, rfl, by decide⟩

/-! ## The sensor is not leaked -/

/-- With all queues drained, a registered listener is the live instance's, the display is off and a
pick-up type is chosen. -/
def NotLeaked (s : State) : Prop :=
  s.Drained → (∀ d ∈ s.destroyed, d.pickupSensor.registered = false) ∧
    ∀ d ∈ s.live, d.pickupSensor.registered = true → s.displayOn = false ∧ s.pickUpType ≠ "0"

instance (s : State) : Decidable (NotLeaked s) := inferInstanceAs (Decidable (s.Drained → _))

/-- No change of a preference keeps an instance that was told of the display coming on without
acting on it. -/
def KeptSilent (s : State) (a : Action) : Prop :=
  s.WantedBy a → ∀ d ∈ s.live, d.broadcasts = [] → s.service.pending = [] → s.displayOn = true →
    d.listening = false

instance (s : State) (a : Action) : Decidable (KeptSilent s a) :=
  inferInstanceAs (Decidable (s.WantedBy a → _))

/-- An instance with nothing under way does not listen while the display is on. -/
def Silent (s : State) : Prop := ∀ d, Stays s d → s.displayOn = true → d.listening = false

theorem Silent.step {device : Device} {s s' : State} {a : Action} (hs : Sound s) (hi : Silent s)
    (hstranded : KeptSilent s a) (h : Doze.step device s a = .ok s') : Silent s' := by
  intro d' hstays hon
  rw [displayOn_of_stays h hstays] at hon
  cases howStays hs h hstays with
  | kept hstay hlisten _ _ =>
    rw [hlisten]
    exact hi _ hstay hon
  | created _ _ hd' _ _ =>
    rw [hd']
    rfl
  | received hd htells hd' htype' =>
    by_contra hlisten
    rw [Bool.not_eq_false] at hlisten
    by_cases hzero : s.pickUpType = "0"
    · -- the broadcast was ignored, but then the service is about to go
      have hs' := hs.step h
      have hstarted := hs'.started_of_live hstays.live hstays.pending
      rcases hs'.stale d' hstays.live hlisten (htype'.trans hzero) with hposted | hstopped
      · rcases hstays.kept with hwanted | hnone
        · exact ((wanted_iff s').1 hwanted).2.2 (htype'.trans hzero)
        · omega
      · rw [hstarted] at hstopped
        cases hstopped
    · rw [hd', DozeService.listening_onReceive, (isPickUpEnabled_iff s).2 hzero, htells,
        hon] at hlisten
      simp only [if_true, Bool.and_eq_true, Bool.not_eq_true'] at hlisten
      have hsome := hs.listens _ hd hlisten.2
      rw [hlisten.1] at hsome
      cases hsome
  | wanted hby hd hbroadcasts hpending =>
    exact hstranded hby d' hd hbroadcasts hpending hon

/-- **The pick-up sensor is not leaked**, in every run without a step that strands a listener. -/
theorem sensor_not_leaked {device : Device} {settings : Settings} {displayOn : Bool}
    {acts : List Action} {s : State}
    (hstranded : Guarded (step device) KeptSilent (.boot settings displayOn) acts)
    (hrun : run (step device) (.boot settings displayOn) acts = .ok s) : NotLeaked s := by
  have hall : Sound s ∧ Silent s := by
    refine run_guarded (P := fun s => Sound s ∧ Silent s) ?_ hrun hstranded
      ⟨Sound.boot settings displayOn, fun d hstays => by cases hstays.live⟩
    rintro s a s' ⟨hs, hi⟩ hstranded h
    exact ⟨hs.step h, hi.step hs hstranded h⟩
  intro hdrained
  constructor
  · intro d hd
    rw [← PickupSensor.willBeRegistered_of_idle (hdrained.destroyed d hd)]
    exact hall.1.destroyed d hd
  · intro d hd hregistered
    rw [hdrained.registered hd] at hregistered
    constructor
    · by_contra hon
      rw [Bool.not_eq_false] at hon
      rw [hall.2 d (hdrained.stays hd) hon] at hregistered
      cases hregistered
    · intro hzero
      have hstarted := hall.1.started_of_live hd hdrained.pending
      rcases hall.1.stale d hd hregistered hzero with hposted | hstopped
      · rw [hdrained.posted] at hposted
        exact absurd hposted (Nat.lt_irrefl 0)
      · rw [hstarted] at hstopped
        cases hstopped

/-- Then the main switch is turned off. -/
def thenSwitchedOff : List Action :=
  createdThenOff ++ [.openSettings, .mainSwitch false, .runServiceCall, .runDestroyedTask 0 1]

theorem sensor_not_leaked_stopped :
    NotLeaked (final (step pickUpDevice) (.boot (storedPickUp "1") true) thenSwitchedOff) :=
  @sensor_not_leaked pickUpDevice (storedPickUp "1") true thenSwitchedOff _ (by decide)
    (run_eq_ok_final (by decide))

/-- Then the display comes on while the type is "0" for a moment. -/
def thenIgnoredOn : List Action :=
  createdThenOff ++ [.openSettings, .changePickUp "0", .toggleDisplay, .deliverBroadcast,
    .changePickUp "1", .runPosted, .runPosted]

/-- The listener is not unregistered, and the type is chosen again before a check has stopped the
service. -/
theorem leaked_when_display_on_ignored :
    ∃ s, run (step pickUpDevice) (.boot (storedPickUp "1") true) thenIgnoredOn = .ok s ∧
      ¬ NotLeaked s :=
  ⟨_, run_eq_ok_final (by decide), by decide⟩

end RMX2020.Doze

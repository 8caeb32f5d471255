import RMX2020.Doze.Listener
import RMX2020.Doze.PickupEvents

/-!
# The gesture on the device

The package together with what its listeners do: an event of the pick-up sensor is delivered to a
listener that is registered, be it the live instance's or one of a destroyed instance whose executor
has not got to its `disable` yet. Each listener limits its own rate only. `device_rate_limited`: all
listeners together keep the interval, across restarts of the service and of the process, in every
run where no event comes while a destroyed instance has a task to run. `acts_when_wanted`: with
nothing under way, only a wanted service acts, in the way the pick-up type says, if the process has
not died while a check of the settings was waiting.
-/

namespace RMX2020.Doze

open Machine Utils
open PickupSensor (MIN_PULSE_INTERVAL_MS)

variable {V : Type} [BEq V]

/-- An instance with a listener. -/
inductive Listener where
  | live
  | destroyed (index : Nat)
  deriving DecidableEq

namespace State

/-- Every instance of the process. -/
def instances (s : State) : List DozeService := s.live.toList ++ s.destroyed

def listener (s : State) : Listener → Option DozeService
  | .live => s.live
  | .destroyed index => s.destroyed[index]?

def setListener (s : State) (d : DozeService) : Listener → State
  | .live => { s with live := some d }
  | .destroyed index => { s with destroyed := s.destroyed.set index d }

end State

/-- The reading of the clock a task takes when it is run. -/
def Action.reading : Action → Option Int
  | .runTask elapsedRealtime | .runDestroyedTask _ elapsedRealtime => some elapsedRealtime
  | _ => none

/-- The package, the latest reading of the clock, and all actions with their times. -/
structure Watched where
  system : State
  clock : Int := 0
  log : List (Int × PickupAction) := []

inductive WatchedAction (V : Type) where
  | system (a : Action)
  | sensorChanged (l : Listener) (value : V) (elapsedRealtime elapsedRealtime' : Int)

namespace Watched

def boot (settings : Settings) (displayOn : Bool) : Watched :=
  { system := .boot settings displayOn }

def sensorChanged (s : Watched) (sensorValue : V) (l : Listener) (d : DozeService) (value : V)
    (elapsedRealtime elapsedRealtime' : Int) : Watched :=
  let (sensor, action) := d.pickupSensor.onSensorChanged sensorValue s.system.user
    s.system.android.settings value elapsedRealtime elapsedRealtime'
  { system := s.system.setListener { d with pickupSensor := sensor } l
    clock := elapsedRealtime'
    log := s.log ++ action.toList.map fun action => (elapsedRealtime', action) }

/-- The clock does not go back, and only a registered listener gets events. -/
def step (device : Device) (sensorValue : V) (s : Watched) :
    WatchedAction V → Except (Stop Empty) Watched
  | .system a =>
    if ∀ t ∈ a.reading, s.clock ≤ t then
      match Doze.step device s.system a with
      | .ok system => .ok { s with system := system, clock := a.reading.getD s.clock }
      | .error e => .error e
    else .error .disabled
  | .sensorChanged l value elapsedRealtime elapsedRealtime' =>
    match s.system.listener l with
    | none => .error .disabled
    | some d =>
      if d.pickupSensor.registered ∧ s.clock ≤ elapsedRealtime ∧
          elapsedRealtime ≤ elapsedRealtime' then
        .ok (s.sensorChanged sensorValue l d value elapsedRealtime elapsedRealtime')
      else .error .disabled

section Steps

variable {device : Device} {sensorValue : V} {s s' : Watched}

theorem system_of_step {a : Action} (h : step device sensorValue s (.system a) = .ok s') :
    (∀ t ∈ a.reading, s.clock ≤ t) ∧ ∃ system, Doze.step device s.system a = .ok system ∧
      s' = { s with system := system, clock := a.reading.getD s.clock } := by
  simp only [step] at h
  split at h
  · next hclock =>
    refine ⟨hclock, ?_⟩
    cases hs : Doze.step device s.system a with
    | ok system =>
      rw [hs] at h
      exact ⟨system, rfl, (Except.ok.inj h).symm⟩
    | error e =>
      rw [hs] at h
      cases h
  · cases h

theorem step_sensorChanged_eq_ok {l : Listener} {value : V} {t t' : Int} :
    step device sensorValue s (.sensorChanged l value t t') = .ok s' ↔
      ∃ d, s.system.listener l = some d ∧
        (d.pickupSensor.registered = true ∧ s.clock ≤ t ∧ t ≤ t') ∧
        s' = s.sensorChanged sensorValue l d value t t' := by
  simp only [step]
  cases hd : s.system.listener l with
  | none => simp
  | some d => simp only [ite_ok_eq_ok, Option.some.injEq, exists_eq_left']

end Steps

end Watched

/-! ## The timestamps of the registered listeners -/

namespace PickupSensor

/-- The timestamp, while the listener is registered. -/
def stamp? (p : PickupSensor) : Option Int := if p.registered then some p.entryTimestamp else none

@[simp] theorem stamp?_create (device : Device) : (create device).stamp? = none := rfl

@[simp] theorem stamp?_enable (p : PickupSensor) : p.enable.stamp? = p.stamp? := by
  unfold enable
  split <;> rfl

@[simp] theorem stamp?_disable (p : PickupSensor) : p.disable.stamp? = p.stamp? := by
  unfold disable
  split <;> rfl

/-- What an event does to the timestamp, and how long it was since when it is acted on. -/
theorem onSensorChanged_moves (p : PickupSensor) (sensorValue : V) (context : UserId)
    (w : Settings) (value : V) (t t' : Int) : ∃ e action,
      p.onSensorChanged sensorValue context w value t t' =
          ({ p with entryTimestamp := e }, action) ∧
        (e = p.entryTimestamp ∧ action = none ∨
          e = t' ∧ MIN_PULSE_INTERVAL_MS ≤ t - p.entryTimestamp) := by
  obtain ⟨-, h⟩ | ⟨hpassed, -, action, h⟩ | ⟨hpassed, -, h⟩ :=
    p.onSensorChanged_cases sensorValue context w value t t'
  · exact ⟨p.entryTimestamp, none, h, .inl ⟨rfl, rfl⟩⟩
  · exact ⟨t', some action, h, .inr ⟨rfl, hpassed⟩⟩
  · exact ⟨t', none, h, .inr ⟨rfl, hpassed⟩⟩

theorem stamp?_eq_some {p : PickupSensor} {e : Int} :
    p.stamp? = some e ↔ p.registered = true ∧ p.entryTimestamp = e := by
  unfold stamp?
  split <;> simp_all

/-- A task leaves the timestamp as it is, takes it from the clock or ends the registration. -/
theorem stamp?_runTask {p : PickupSensor} {t e : Int} (h : (p.runTask t).stamp? = some e) :
    p.stamp? = some e ∨ e = t := by
  unfold runTask at h
  split at h
  · exact .inl h
  · next task rest _ =>
    cases task with
    | enable => exact .inr (stamp?_eq_some.1 h).2.symm
    | disable => cases (stamp?_eq_some.1 h).1

end PickupSensor

@[simp] theorem DozeService.stamp?_onReceive (d : DozeService) (context : UserId) (w : Settings)
    (intent : ScreenIntent) :
    (d.onReceive context w intent).pickupSensor.stamp? = d.pickupSensor.stamp? := by
  unfold DozeService.onReceive DozeService.onDisplayOn DozeService.onDisplayOff
  cases intent <;> simp only <;> split <;> simp

theorem DozeService.stamp?_receiveNext (d : DozeService) (context : UserId) (w : Settings) :
    (d.receiveNext context w).pickupSensor.stamp? = d.pickupSensor.stamp? := by
  unfold DozeService.receiveNext
  split
  · rfl
  · rw [DozeService.stamp?_onReceive]

/-- Some registered listener has the timestamp `e`. -/
def State.Stamp (s : State) (e : Int) : Prop :=
  ∃ d ∈ s.instances, d.pickupSensor.stamp? = some e

theorem State.mem_instances {s : State} {d : DozeService} :
    d ∈ s.instances ↔ s.live = some d ∨ d ∈ s.destroyed := by
  simp [State.instances]

section Stamp

variable {device : Device} {s s' : State} {a : Action} {e : Int}

/-- The live instance is replaced by one whose listener has the same timestamp, if any. -/
theorem State.Stamp.of_live {d' : DozeService}
    (hstamp : d'.pickupSensor.stamp? = some e → s.Stamp e ∨ e ∈ a.reading)
    (h : State.Stamp { s with live := some d' } e) : s.Stamp e ∨ e ∈ a.reading := by
  obtain ⟨d₁, hmem, he⟩ := h
  rcases State.mem_instances.1 hmem with hlive | hdestroyed
  · cases hlive
    exact hstamp he
  · exact .inl ⟨d₁, State.mem_instances.2 (.inr hdestroyed), he⟩

theorem stamp_runServiceCall {call : ServiceCall} {rest : List ServiceCall}
    (h : (s.runServiceCall device call rest).Stamp e) : s.Stamp e := by
  obtain ⟨d, hmem, he⟩ := h
  cases call with
  | onCreate =>
    rcases State.mem_instances.1 hmem with hlive | hdestroyed
    · cases hlive
      cases he
    · exact ⟨d, State.mem_instances.2 (.inr hdestroyed), he⟩
  | onDestroy =>
    rcases State.mem_instances.1 hmem with hlive | hdestroyed
    · cases hlive
    · rcases List.mem_append.1 hdestroyed with hold | hnew
      · exact ⟨d, State.mem_instances.2 (.inr hold), he⟩
      · obtain ⟨d₀, hd₀, rfl⟩ := List.mem_map.1 hnew
        refine ⟨d₀, State.mem_instances.2 (.inl (Option.mem_toList.1 hd₀)), ?_⟩
        rwa [DozeService.onDestroy, PickupSensor.stamp?_disable] at he

/-- **A step takes no timestamp but from the clock.** -/
theorem stamp_step (hs : Doze.step device s a = .ok s') (h : s'.Stamp e) :
    s.Stamp e ∨ e ∈ a.reading := by
  cases stepped_of_step hs with
  | runServiceCall _ => exact .inl (stamp_runServiceCall h)
  | toggleDisplay =>
    obtain ⟨d, hmem, he⟩ := h
    rcases State.mem_instances.1 hmem with hlive | hdestroyed
    · obtain ⟨d₀, hd₀, rfl⟩ := Option.map_eq_some_iff.1 hlive
      exact .inl ⟨d₀, State.mem_instances.2 (.inl hd₀), he⟩
    · exact .inl ⟨d, State.mem_instances.2 (.inr hdestroyed), he⟩
  | deliverBroadcast hd =>
    refine h.of_live fun he => .inl ⟨_, State.mem_instances.2 (.inl hd), ?_⟩
    rwa [DozeService.stamp?_receiveNext] at he
  | runTask t hd =>
    refine h.of_live fun he => ?_
    rcases PickupSensor.stamp?_runTask he with hold | hnew
    · exact .inl ⟨_, State.mem_instances.2 (.inl hd), hold⟩
    · exact .inr (congrArg some hnew.symm)
  | runDestroyedTask index t =>
    obtain ⟨d, hmem, he⟩ := h
    rcases State.mem_instances.1 hmem with hlive | hdestroyed
    · exact .inl ⟨d, State.mem_instances.2 (.inl hlive), he⟩
    · obtain ⟨j, hj⟩ := List.mem_iff_getElem?.1 hdestroyed
      rw [List.getElem?_modify] at hj
      obtain ⟨d₀, hd₀, rfl⟩ := Option.map_eq_some_iff.1 hj
      have hmem₀ := State.mem_instances.2 (.inr (List.mem_of_getElem? hd₀))
      split at he
      · rcases PickupSensor.stamp?_runTask he with hold | hnew
        · exact .inl ⟨d₀, hmem₀, hold⟩
        · exact .inr (congrArg some hnew.symm)
      · exact .inl ⟨d₀, hmem₀, he⟩
  | killProcess =>
    obtain ⟨d, hmem, he⟩ := h
    rcases State.mem_instances.1 hmem with hlive | hdestroyed
    · cases hlive
    · cases hdestroyed
  | _ => exact .inl h

end Stamp

/-! ## The device's rate -/

namespace Watched

/-- An event moves no listener in or out, and leaves what the package decides alone. -/
theorem sound_sensorChanged {s : Watched} {sensorValue value : V} {l : Listener} {d : DozeService}
    {t t' : Int} (hs : Sound s.system) (hd : s.system.listener l = some d) :
    Sound (s.sensorChanged sensorValue l d value t t').system := by
  obtain ⟨e, action, hres, -⟩ := d.pickupSensor.onSensorChanged_moves sensorValue s.system.user
    s.system.android.settings value t t'
  simp only [sensorChanged, hres]
  cases l with
  | live => exact hs.of_live hd (fun _ hi => hi) (hs.listens d hd) fun hlisten _ => hlisten
  | destroyed index =>
    refine ⟨hs.knows, hs.listens, hs.lifecycle, hs.doze, fun d' hd' => ?_, hs.stale⟩
    rcases List.mem_or_eq_of_mem_set hd' with hold | rfl
    · exact hs.destroyed d' hold
    · exact hs.destroyed d (List.mem_of_getElem? hd)

/-- When an event is delivered, no destroyed instance has a task to run. -/
def Settled (s : Watched) : WatchedAction V → Prop
  | .sensorChanged .. => ∀ d ∈ s.system.destroyed, d.pickupSensor.executorService = []
  | .system _ => True

instance (s : Watched) : ∀ a : WatchedAction V, Decidable (Settled s a)
  | .sensorChanged .. => inferInstanceAs (Decidable (∀ d ∈ s.system.destroyed, _))
  | .system _ => inferInstanceAs (Decidable True)

/-- Two actions are an interval apart. -/
def Apart (x y : Int × PickupAction) : Prop := MIN_PULSE_INTERVAL_MS ≤ y.1 - x.1

/-- The actions so far are an interval apart, and no listener's timestamp is before them. -/
structure Paced (s : Watched) : Prop where
  sound : Sound s.system
  clock : ∀ x ∈ s.log, x.1 ≤ s.clock
  stamps : ∀ e, s.system.Stamp e → ∀ x ∈ s.log, x.1 ≤ e
  apart : s.log.Pairwise Apart

/-- A destroyed instance without tasks has let go of its listener. -/
theorem registered_of_destroyed {s : State} (hs : Sound s) {d : DozeService} (hd : d ∈ s.destroyed)
    (hidle : d.pickupSensor.executorService = []) : d.pickupSensor.registered = false :=
  (PickupSensor.willBeRegistered_of_idle hidle).symm.trans (hs.destroyed d hd)

namespace Paced

variable {device : Device} {sensorValue : V} {s s' : Watched}

theorem boot (settings : Settings) (displayOn : Bool) : Paced (.boot settings displayOn) := by
  refine ⟨.boot settings displayOn, ?_, ?_, List.Pairwise.nil⟩
  · intro x hx
    cases hx
  · intro e _ x hx
    cases hx

theorem system {a : Action} (hp : Paced s)
    (h : step device sensorValue s (.system a) = .ok s') : Paced s' := by
  obtain ⟨hclock, system, hs, rfl⟩ := system_of_step h
  have hlater : s.clock ≤ a.reading.getD s.clock := by
    cases hr : a.reading with
    | none => exact Int.le_refl _
    | some t => exact hclock t hr
  refine ⟨hp.sound.step hs, fun x hx => ?_, fun e he x hx => ?_, hp.apart⟩
  · exact Int.le_trans (hp.clock x hx) hlater
  · rcases stamp_step hs he with hold | hnew
    · exact hp.stamps e hold x hx
    · exact Int.le_trans (hp.clock x hx) (hclock e hnew)

/-- An event that finds no other listener but the live instance's. -/
theorem sensorChanged_live {d : DozeService} {value : V} {t t' : Int} (hp : Paced s)
    (hd : s.system.live = some d) (hregistered : d.pickupSensor.registered = true)
    (hclock : s.clock ≤ t) (htt' : t ≤ t')
    (halone : ∀ d' ∈ s.system.destroyed, d'.pickupSensor.registered = false) :
    Paced (s.sensorChanged sensorValue .live d value t t') := by
  obtain ⟨e, action, hres, hmoves⟩ := d.pickupSensor.onSensorChanged_moves sensorValue
    s.system.user s.system.android.settings value t t'
  have hbefore := hp.stamps d.pickupSensor.entryTimestamp
    ⟨d, State.mem_instances.2 (.inl hd), PickupSensor.stamp?_eq_some.2 ⟨hregistered, rfl⟩⟩
  have hlog : ∀ x ∈ s.log, x.1 ≤ t' := fun x hx => by
    have hx' := hp.clock x hx
    omega
  -- the live listener's timestamp is the only one left
  have honly : ∀ e', (s.sensorChanged sensorValue .live d value t t').system.Stamp e' → e' = e := by
    rintro e' ⟨d', hmem, he'⟩
    simp only [sensorChanged, hres] at hmem
    rcases State.mem_instances.1 hmem with hlive | hdestroyed
    · cases hlive
      exact (PickupSensor.stamp?_eq_some.1 he').2.symm
    · have hoff := halone d' hdestroyed
      rw [(PickupSensor.stamp?_eq_some.1 he').1] at hoff
      cases hoff
  have hsound : Sound (s.sensorChanged sensorValue .live d value t t').system :=
    sound_sensorChanged hp.sound hd
  rcases hmoves with ⟨rfl, rfl⟩ | ⟨rfl, hpassed⟩
  · have hsame : (s.sensorChanged sensorValue .live d value t t').log = s.log := by
      simp [sensorChanged, hres]
    refine ⟨hsound, ?_, fun e' he' => ?_, ?_⟩
    · rw [hsame]
      exact hlog
    · rw [honly e' he', hsame]
      exact hbefore
    · rw [hsame]
      exact hp.apart
  · have hnew : ∀ x ∈ (s.sensorChanged sensorValue .live d value t e).log, x.1 ≤ e := by
      simp only [sensorChanged, hres]
      intro x hx
      rcases List.mem_append.1 hx with hx | hx
      · exact hlog x hx
      · obtain ⟨_, -, rfl⟩ := List.mem_map.1 hx
        exact Int.le_refl e
    refine ⟨hsound, hnew, fun e' he' => ?_, ?_⟩
    · rw [honly e' he']
      exact hnew
    · simp only [sensorChanged, hres]
      refine List.pairwise_append.2 ⟨hp.apart, ?_, fun x hx y hy => ?_⟩
      · cases action <;> simp
      · obtain ⟨_, -, rfl⟩ := List.mem_map.1 hy
        have hx' := hbefore x hx
        unfold Apart
        simp only
        omega

theorem step {a : WatchedAction V} (hp : Paced s) (hsettled : Settled s a)
    (h : Watched.step device sensorValue s a = .ok s') : Paced s' := by
  cases a with
  | system a => exact hp.system h
  | sensorChanged l value t t' =>
    obtain ⟨d, hd, ⟨hregistered, hclock, htt'⟩, rfl⟩ := step_sensorChanged_eq_ok.1 h
    have halone : ∀ d' ∈ s.system.destroyed, d'.pickupSensor.registered = false :=
      fun d' hd' => registered_of_destroyed hp.sound hd' (hsettled d' hd')
    cases l with
    | live => exact hp.sensorChanged_live hd hregistered hclock htt' halone
    | destroyed index =>
      rw [halone d (List.mem_of_getElem? hd)] at hregistered
      cases hregistered

end Paced

/-- **The device keeps the interval**: whatever restarts, broadcasts and preference changes fall
between them, any two actions of any instances are an interval apart, if no event is delivered while
a destroyed instance has yet to run a task. -/
theorem device_rate_limited {device : Device} {sensorValue : V} {settings : Settings}
    {displayOn : Bool} {acts : List (WatchedAction V)} {s : Watched}
    (hrun : run (step device sensorValue) (.boot settings displayOn) acts = .ok s)
    (hsettled : Guarded (step device sensorValue) Settled (.boot settings displayOn) acts) :
    s.log.Pairwise Apart :=
  (run_guarded (fun _ _ _ hp hC hs => hp.step hC hs) hrun hsettled
    (Paced.boot settings displayOn)).apart

/-- A device that acts at 3000, has its service restarted, and hears of an event at 6000; `before`
comes between. -/
def restarted (before : List (WatchedAction Int)) : List (WatchedAction Int) :=
  [.system .bootCompleted, .system .runServiceCall, .system .toggleDisplay,
    .system .deliverBroadcast, .system (.runTask 0), .sensorChanged .live 0 3000 3000,
    .system .openSettings, .system (.changePickUp "0"), .system .runPosted,
    .system .runServiceCall, .system (.changePickUp "1"), .system .runPosted,
    .system .runServiceCall, .system .toggleDisplay, .system .toggleDisplay,
    .system .deliverBroadcast, .system .deliverBroadcast, .system (.runTask 3100),
    .system (.runTask 3100)] ++ before ++ [.sensorChanged .live 0 6000 6000]

theorem device_rate_limited_restarted :
    (final (step pickUpDevice 0) (.boot (storedPickUp "1") true)
      (restarted [.system (.runDestroyedTask 0 3100)])).log.Pairwise Apart :=
  device_rate_limited (run_eq_ok_final (by decide)) (by decide)

/-- Before its task runs, the listener of the destroyed instance acts too. -/
example : (final (step pickUpDevice 0) (.boot (storedPickUp "1") true)
    (restarted [.sensorChanged (.destroyed 0) 0 6000 6000])).log =
      [(3000, .launchDozePulse), (6000, .launchDozePulse), (6000, .launchDozePulse)] := by
  decide

/-! ## Who acts -/

/-- The package is sound and follows the settings. -/
structure Follows (s : Watched) : Prop where
  sound : Sound s.system
  consistent : Consistent s.system

/-- The process does not die while a check is waiting. -/
def Spared (s : Watched) : WatchedAction V → Prop
  | .system a => a = .killProcess → s.system.posted = 0
  | .sensorChanged .. => True

instance (s : Watched) : ∀ a : WatchedAction V, Decidable (Spared s a)
  | .system a => inferInstanceAs (Decidable (a = .killProcess → s.system.posted = 0))
  | .sensorChanged .. => inferInstanceAs (Decidable True)

theorem Follows.step {device : Device} {sensorValue : V} {s s' : Watched} {a : WatchedAction V}
    (hf : Follows s) (hspared : Spared s a) (h : Watched.step device sensorValue s a = .ok s') :
    Follows s' := by
  cases a with
  | system a =>
    obtain ⟨-, system, hs, rfl⟩ := system_of_step h
    refine ⟨hf.sound.step hs, ?_⟩
    by_cases ha : a = .killProcess
    · subst ha
      cases hs
      exact hf.consistent.killProcess (hspared rfl)
    · exact hf.consistent.step ha hs
  | sensorChanged l value t t' =>
    obtain ⟨d, hd, -, rfl⟩ := step_sensorChanged_eq_ok.1 h
    refine ⟨sound_sensorChanged hf.sound hd, ?_⟩
    cases l <;> exact hf.consistent.of_same rfl rfl rfl rfl

/-- What an event has a listener do, if anything. -/
theorem log_sensorChanged {s : Watched} {sensorValue value : V} {l : Listener} {d : DozeService}
    {t t' : Int} (hacts : (s.sensorChanged sensorValue l d value t t').log ≠ s.log) :
    (s.sensorChanged sensorValue l d value t t').log = s.log ++
      [(t', if s.system.pickUpType = "2" then .wakeUp else .launchDozePulse)] := by
  have hwake : isPickUpSetToWake s.system.user s.system.android.settings =
    (s.system.pickUpType == "2") := rfl
  simp only [sensorChanged, PickupSensor.onSensorChanged, hwake] at hacts ⊢
  split
  · next hearly => simp [hearly] at hacts
  · next hpassed =>
    cases hvalue : value == sensorValue with
    | false => simp [hpassed, hvalue] at hacts
    | true => by_cases htype : s.system.pickUpType = "2" <;> simp [htype]

/-- **With nothing under way, the device acts only as the settings ask**: the listener is the live
instance's, doze is enabled, always-on display is off, a pick-up type is chosen, and the device
wakes up or pulses as it says. The process may have died, but not while a check was waiting. -/
theorem acts_when_wanted {device : Device} {sensorValue : V} {settings : Settings}
    {displayOn : Bool} {acts : List (WatchedAction V)} {s s' : Watched} {l : Listener} {value : V}
    {t t' : Int} (hrun : run (step device sensorValue) (.boot settings displayOn)
      (.system .bootCompleted :: acts) = .ok s)
    (hspared : Guarded (step device sensorValue) Spared (.boot settings displayOn)
      (.system .bootCompleted :: acts))
    (hstep : step device sensorValue s (.sensorChanged l value t t') = .ok s')
    (hacts : s'.log ≠ s.log) (hdrained : s.system.Drained) :
    l = .live ∧ isDozeEnabled s.system.user s.system.android.settings ∧
      ¬ isAlwaysOnEnabled s.system.android.settings ∧ s.system.pickUpType ≠ "0" ∧
      s'.log = s.log ++
        [(t', if s.system.pickUpType = "2" then .wakeUp else .launchDozePulse)] := by
  have hfirst : step device sensorValue (.boot settings displayOn)
      (.system .bootCompleted : WatchedAction V) =
    .ok { system := (State.boot settings displayOn).check } := rfl
  rw [run_cons_ok hfirst] at hrun
  obtain ⟨-, hrest⟩ := hspared
  rw [hfirst] at hrest
  have hf : Follows s := by
    refine run_guarded (fun _ _ _ hf hC hs => hf.step hC hs) hrun hrest ⟨?_, ?_⟩
    · exact (Sound.boot settings displayOn).check rfl rfl rfl rfl
    · exact Consistent.of_check (fun f hf => by cases hf) rfl rfl
  obtain ⟨d, hd, ⟨hregistered, -, -⟩, rfl⟩ := step_sensorChanged_eq_ok.1 hstep
  cases l with
  | destroyed index =>
    have hmem := List.mem_of_getElem? hd
    rw [registered_of_destroyed hf.sound hmem (hdrained.destroyed d hmem)] at hregistered
    cases hregistered
  | live =>
    have hstarted := hf.sound.started_of_live hd hdrained.pending
    have hwanted := hf.consistent.due hdrained.posted
    rw [hstarted, eq_comm, wanted_iff] at hwanted
    obtain ⟨hdoze, haod, htype⟩ := hwanted
    exact ⟨rfl, hdoze, by simp [haod], htype, log_sensorChanged hacts⟩

/-- The process dies, the service is created anew, and the display goes on and off. -/
def recreated : List (WatchedAction Int) :=
  [.system .runServiceCall, .system .toggleDisplay, .system .deliverBroadcast,
    .system (.runTask 0), .system .killProcess, .system .runServiceCall, .system .toggleDisplay,
    .system .toggleDisplay, .system .deliverBroadcast, .system .deliverBroadcast,
    .system (.runTask 0), .system (.runTask 0)]

theorem acts_when_wanted_recreated :
    let s := final (step pickUpDevice 0) (.boot (storedPickUp "1") true)
      (.system .bootCompleted :: recreated)
    let s' := final (step pickUpDevice (0 : Int)) s [.sensorChanged .live 0 3000 3000]
    Listener.live = .live ∧ isDozeEnabled s.system.user s.system.android.settings ∧
      ¬ isAlwaysOnEnabled s.system.android.settings ∧ s.system.pickUpType ≠ "0" ∧
      s'.log = s.log ++
        [(3000, if s.system.pickUpType = "2" then .wakeUp else .launchDozePulse)] := by
  intro s s'
  have hstep : step pickUpDevice (0 : Int) s (.sensorChanged .live 0 3000 3000) = .ok s' := by rfl
  exact acts_when_wanted (run_eq_ok_final (by decide)) (by decide) hstep (by decide) (by decide)

/-- A check that is lost with the process: the device acts while always-on display is on. -/
example :
    let s := final (step pickUpDevice (0 : Int)) (.boot (storedPickUp "1") true)
      [.system .bootCompleted, .system .runServiceCall, .system .openSettings,
        .system (.changeAlwaysOn true), .system .killProcess, .system .runServiceCall,
        .system .toggleDisplay, .system .deliverBroadcast, .system (.runTask 0),
        .sensorChanged .live 0 3000 3000]
    isAlwaysOnEnabled s.system.android.settings ∧ s.log = [(3000, .launchDozePulse)] := by
  decide

end Watched

end RMX2020.Doze

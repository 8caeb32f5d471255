import RMX2020.Machine.Run
import RMX2020.Machine.Log
import RMX2020.Doze.PickupSensor
import RMX2020.Doze.Utils

/-!
# What the pick-up sensor does

`onSensorChanged` acts on the events that carry `sensorValue`, by waking the device up or by a doze
pulse, at most once in `MIN_PULSE_INTERVAL_MS`. The interval runs from `entryTimestamp`, which
`enable` moves as well, and so does an event with another value. `actions_rate_limited`: no action
comes too soon after another or after an `enable`. `pickup_answered_iff`: every pick-up that is due
is acted on in exactly the runs where no event with another value has moved the timestamp too
shortly before it.

The values of the events are of any type with a Boolean equality, as `==` on `Float` is no more
than that.
-/

namespace RMX2020.Doze

open Machine

/-- What a pick-up makes the sensor do. -/
inductive PickupAction where
  /-- `wakeLock.acquire` and `powerManager.wakeUp`. -/
  | wakeUp
  /-- `Utils.launchDozePulse`. -/
  | launchDozePulse
  deriving DecidableEq

variable {V : Type} [BEq V]

namespace PickupSensor

def MIN_PULSE_INTERVAL_MS : Int := 2500

/-- The clock is read once for `delta` and again for `entryTimestamp`. -/
def onSensorChanged (p : PickupSensor) (sensorValue : V) (context : UserId) (w : Settings)
    (value : V) (elapsedRealtime elapsedRealtime' : Int) : PickupSensor × Option PickupAction :=
  let delta := elapsedRealtime - p.entryTimestamp
  if delta < MIN_PULSE_INTERVAL_MS then
    (p, none)
  else
    let p := { p with entryTimestamp := elapsedRealtime' }
    if value == sensorValue then
      if Utils.isPickUpSetToWake context w then (p, some .wakeUp) else (p, some .launchDozePulse)
    else
      (p, none)

end PickupSensor

/-! ## Runs -/

/-- An event of the sensor, with the settings stored at the time and the two readings of the clock,
or a task of the executor. -/
inductive SensorAction (V : Type) where
  | sensorChanged (value : V) (w : Settings) (elapsedRealtime elapsedRealtime' : Int)
  | enable (elapsedRealtime : Int)
  | disable

/-- What has moved the timestamp. -/
inductive Mark (V : Type) where
  | enabled
  /-- An event that was acted on. -/
  | acted (value : V) (action : PickupAction)
  /-- An event with another value. -/
  | passed (value : V)
  deriving DecidableEq

namespace Mark

/-- Acting on an event and enabling the sensor start an interval without actions. -/
def starts : Mark V → Bool
  | .passed _ => false
  | _ => true

def isAction : Mark V → Bool
  | .acted .. => true
  | _ => false

end Mark

/-- A sensor, the latest reading of the clock, and everything that has moved the timestamp, with the
time it moved it to. -/
structure Observed (V : Type) where
  sensor : PickupSensor
  clock : Int := 0
  log : List (Int × Mark V) := []
  deriving DecidableEq

open PickupSensor (MIN_PULSE_INTERVAL_MS)

namespace Observed

/-- A new sensor. -/
def create (V : Type) (device : Device) : Observed V := { sensor := .create device }

def sensorChanged (s : Observed V) (sensorValue : V) (context : UserId) (w : Settings) (value : V)
    (elapsedRealtime elapsedRealtime' : Int) : Observed V :=
  let (sensor, action) :=
    s.sensor.onSensorChanged sensorValue context w value elapsedRealtime elapsedRealtime'
  { sensor := sensor
    clock := elapsedRealtime'
    log := match action with
      | some action => s.log ++ [(elapsedRealtime', .acted value action)]
      | none =>
        if sensor.entryTimestamp = s.sensor.entryTimestamp then s.log
        else s.log ++ [(elapsedRealtime', .passed value)] }

def enable (s : Observed V) (elapsedRealtime : Int) : Observed V :=
  { sensor := s.sensor.perform elapsedRealtime .enable
    clock := elapsedRealtime
    log := s.log ++ [(elapsedRealtime, .enabled)] }

def disable (s : Observed V) : Observed V := { s with sensor := s.sensor.perform s.clock .disable }

/-- The clock does not go back, but may go on between the two readings of one event. -/
def step (sensorValue : V) (context : UserId) (s : Observed V) :
    SensorAction V → Except (Stop Empty) (Observed V)
  | .sensorChanged value w elapsedRealtime elapsedRealtime' =>
    if s.clock ≤ elapsedRealtime ∧ elapsedRealtime ≤ elapsedRealtime' then
      .ok (s.sensorChanged sensorValue context w value elapsedRealtime elapsedRealtime')
    else .error .disabled
  | .enable elapsedRealtime =>
    if s.clock ≤ elapsedRealtime then .ok (s.enable elapsedRealtime) else .error .disabled
  | .disable => .ok s.disable

end Observed

/-! ## What has moved the timestamp -/

namespace PickupSensor

/-- What an event does, by whether the interval has passed and by its value. -/
theorem onSensorChanged_cases (p : PickupSensor) (sensorValue : V) (context : UserId) (w : Settings)
    (value : V) (t t' : Int) :
    (t - p.entryTimestamp < MIN_PULSE_INTERVAL_MS ∧
        p.onSensorChanged sensorValue context w value t t' = (p, none)) ∨
      (MIN_PULSE_INTERVAL_MS ≤ t - p.entryTimestamp ∧ (value == sensorValue) = true ∧
        ∃ action, p.onSensorChanged sensorValue context w value t t' =
          ({ p with entryTimestamp := t' }, some action)) ∨
      (MIN_PULSE_INTERVAL_MS ≤ t - p.entryTimestamp ∧ (value == sensorValue) = false ∧
        p.onSensorChanged sensorValue context w value t t' =
          ({ p with entryTimestamp := t' }, none)) := by
  unfold onSensorChanged
  by_cases hearly : t - p.entryTimestamp < MIN_PULSE_INTERVAL_MS
  · exact .inl ⟨hearly, by simp only [hearly, ↓reduceIte]⟩
  · have hpassed := Int.not_lt.1 hearly
    cases hvalue : value == sensorValue with
    | false =>
      refine .inr (.inr ⟨hpassed, rfl, ?_⟩)
      simp only [hearly, ↓reduceIte, Bool.false_eq_true]
    | true =>
      refine .inr (.inl ⟨hpassed, rfl, ?_⟩)
      cases hwake : Utils.isPickUpSetToWake context w with
      | false => exact ⟨.launchDozePulse, by simp only [hearly, ↓reduceIte, Bool.false_eq_true]⟩
      | true => exact ⟨.wakeUp, by simp only [hearly, ↓reduceIte]⟩

/-- An event with the trigger value is acted on exactly if the interval has passed. -/
theorem onSensorChanged_acts_iff {p : PickupSensor} {sensorValue value : V} {context : UserId}
    {w : Settings} {t t' : Int} (hvalue : (value == sensorValue) = true) :
    (p.onSensorChanged sensorValue context w value t t').2.isSome ↔
      MIN_PULSE_INTERVAL_MS ≤ t - p.entryTimestamp := by
  obtain ⟨hearly, h⟩ | ⟨hpassed, -, action, h⟩ | ⟨hpassed, hother, h⟩ :=
    p.onSensorChanged_cases sensorValue context w value t t'
  · rw [h]
    simp [hearly]
  · rw [h]
    simp [hpassed]
  · rw [hvalue] at hother
    cases hother

end PickupSensor

namespace Observed

/-- What has come of an event: nothing, or a mark after an interval without any. -/
inductive HowHeard (s : Observed V) (sensorValue value : V) (t t' : Int) : Observed V → Prop where
  | ignored : HowHeard s sensorValue value t t' { s with clock := t' }
  | acted (action : PickupAction) : MIN_PULSE_INTERVAL_MS ≤ t - s.sensor.entryTimestamp →
      (value == sensorValue) = true → HowHeard s sensorValue value t t'
        { sensor := { s.sensor with entryTimestamp := t' }
          clock := t'
          log := s.log ++ [(t', .acted value action)] }
  | passed : MIN_PULSE_INTERVAL_MS ≤ t - s.sensor.entryTimestamp →
      (value == sensorValue) = false → HowHeard s sensorValue value t t'
        { sensor := { s.sensor with entryTimestamp := t' }
          clock := t'
          log := s.log ++ [(t', .passed value)] }

theorem sensorChanged_howHeard (s : Observed V) (sensorValue : V) (context : UserId)
    (w : Settings) (value : V) {t t' : Int} (ht : t ≤ t') :
    HowHeard s sensorValue value t t' (s.sensorChanged sensorValue context w value t t') := by
  unfold sensorChanged
  obtain ⟨-, h⟩ | ⟨hpassed, hvalue, action, h⟩ | ⟨hpassed, hvalue, h⟩ :=
    s.sensor.onSensorChanged_cases sensorValue context w value t t'
  · simp only [h, ↓reduceIte]
    exact .ignored
  · simp only [h]
    exact .acted action hpassed hvalue
  · have hmoved : t' ≠ s.sensor.entryTimestamp := by
      unfold PickupSensor.MIN_PULSE_INTERVAL_MS at hpassed
      omega
    simp only [h, if_neg hmoved]
    exact .passed hpassed hvalue

/-- The timestamp is the time of the latest mark, and the clock has not gone back since. -/
structure Dated (s : Observed V) : Prop where
  stamped : Stamped Prod.fst s.sensor.entryTimestamp s.log
  clock : s.sensor.entryTimestamp ≤ s.clock

namespace Dated

variable {s s' : Observed V} {sensorValue value : V} {context : UserId} {t t' : Int}

omit [BEq V] in
theorem create (device : Device) : Dated (.create V device) := ⟨.nil, Int.le_refl 0⟩

omit [BEq V] in
theorem mark (hi : Dated s) (m : Mark V) (ht : s.clock ≤ t) :
    Stamped Prod.fst t (s.log ++ [(t, m)]) :=
  hi.stamped.push (t, m) (Int.le_trans hi.clock ht)

theorem heard (hi : Dated s) (hclock : s.clock ≤ t) (ht : t ≤ t')
    (h : HowHeard s sensorValue value t t' s') : Dated s' := by
  have ht' : s.clock ≤ t' := Int.le_trans hclock ht
  cases h with
  | ignored => exact ⟨hi.stamped, Int.le_trans hi.clock ht'⟩
  | acted action _ _ => exact ⟨hi.mark _ ht', Int.le_refl t'⟩
  | passed _ _ => exact ⟨hi.mark _ ht', Int.le_refl t'⟩

theorem step {a : SensorAction V} (hi : Dated s)
    (h : Observed.step sensorValue context s a = .ok s') : Dated s' := by
  cases a with
  | sensorChanged value w t t' =>
    obtain ⟨⟨hclock, ht⟩, rfl⟩ := ite_ok_eq_ok.1 h
    exact hi.heard hclock ht (s.sensorChanged_howHeard sensorValue context w value ht)
  | enable t =>
    obtain ⟨hclock, rfl⟩ := ite_ok_eq_ok.1 h
    exact ⟨hi.mark _ hclock, Int.le_refl t⟩
  | disable =>
    cases h
    exact ⟨hi.stamped, hi.clock⟩

end Dated

/-! ## Actions are rate limited -/

/-- No action comes too soon after the mark `x`, if that starts an interval. -/
def Spaced (x y : Int × Mark V) : Prop :=
  y.2.isAction → x.2.starts → MIN_PULSE_INTERVAL_MS ≤ y.1 - x.1

/-- The events acted on carry the trigger value. -/
def Triggered (sensorValue : V) (log : List (Int × Mark V)) : Prop :=
  ∀ m ∈ log, ∀ value action, m.2 = .acted value action → (value == sensorValue) = true

/-- What a run keeps of the actions it has logged. -/
structure Limited (sensorValue : V) (s : Observed V) : Prop where
  dated : Dated s
  spaced : s.log.Pairwise Spaced
  triggered : Triggered sensorValue s.log

omit [BEq V] in
theorem spaced_push {log : List (Int × Mark V)} {m : Int × Mark V} (h : log.Pairwise Spaced)
    (hm : ∀ x ∈ log, Spaced x m) : (log ++ [m]).Pairwise Spaced := by
  refine List.pairwise_append.2 ⟨h, List.pairwise_singleton _ _, fun x hx y hy => ?_⟩
  rw [List.mem_singleton.1 hy]
  exact hm x hx

theorem triggered_push {sensorValue : V} {log : List (Int × Mark V)} {m : Int × Mark V}
    (h : Triggered sensorValue log)
    (hm : ∀ value action, m.2 = .acted value action → (value == sensorValue) = true) :
    Triggered sensorValue (log ++ [m]) := by
  intro m' hm'
  rcases List.mem_append.1 hm' with hold | hnew
  · exact h m' hold
  · rw [List.mem_singleton.1 hnew]
    exact hm

namespace Limited

variable {s s' : Observed V} {sensorValue value : V} {context : UserId} {t t' : Int}

theorem create (device : Device) : Limited sensorValue (.create V device) := by
  refine ⟨.create device, List.Pairwise.nil, fun m hm => ?_⟩
  cases hm

theorem heard (hi : Limited sensorValue s) (hclock : s.clock ≤ t) (ht : t ≤ t')
    (h : HowHeard s sensorValue value t t' s') : Limited sensorValue s' := by
  have hdated := hi.dated.heard hclock ht h
  cases h with
  | ignored => exact ⟨hdated, hi.spaced, hi.triggered⟩
  | acted action hpassed hvalue =>
    refine ⟨hdated, spaced_push hi.spaced fun x hx _ _ => ?_,
      triggered_push hi.triggered fun value' action' hm => ?_⟩
    · have hsince := (hi.dated.stamped.elapsed_iff.1 hpassed).2 x hx
      simp only at hsince ⊢
      omega
    · cases hm
      exact hvalue
  | passed _ _ =>
    refine ⟨hdated, spaced_push hi.spaced fun x hx haction => ?_,
      triggered_push hi.triggered fun value' action' hm => ?_⟩
    · cases haction
    · cases hm

theorem step {a : SensorAction V} (hi : Limited sensorValue s)
    (h : Observed.step sensorValue context s a = .ok s') : Limited sensorValue s' := by
  cases a with
  | sensorChanged value w t t' =>
    obtain ⟨⟨hclock, ht⟩, rfl⟩ := ite_ok_eq_ok.1 h
    exact hi.heard hclock ht (s.sensorChanged_howHeard sensorValue context w value ht)
  | enable t =>
    have hdated := hi.dated.step h
    obtain ⟨hclock, rfl⟩ := ite_ok_eq_ok.1 h
    refine ⟨hdated, spaced_push hi.spaced fun x hx haction => ?_,
      triggered_push hi.triggered fun value action hm => ?_⟩
    · cases haction
    · cases hm
  | disable =>
    have hdated := hi.dated.step h
    cases h
    exact ⟨hdated, hi.spaced, hi.triggered⟩

end Limited

/-- **Pick-up actions are rate limited**: in every run, any two actions are an interval apart, an
action comes an interval after any `enable`, and only events with the trigger value are acted on. -/
theorem actions_rate_limited {device : Device} {sensorValue : V} {context : UserId}
    {acts : List (SensorAction V)} {s : Observed V}
    (hrun : run (step sensorValue context) (.create V device) acts = .ok s) :
    s.log.Pairwise Spaced ∧ Triggered sensorValue s.log := by
  have hlimited : Limited sensorValue s :=
    run_keeps (fun _ _ _ hi h => hi.step h) hrun (.create device)
  exact ⟨hlimited.spaced, hlimited.triggered⟩

/-- A sensor that is enabled at time 0 and then given the events, with the trigger value 0. -/
def enabledThen (events : List (Int × Int)) : List (SensorAction Int) :=
  .enable 0 :: events.map fun e => .sensorChanged e.2 (storedPickUp "2") e.1 e.1

theorem actions_rate_limited_wakeUp :
    let s := final (step 0 0) (.create Int pickUpDevice) (enabledThen [(3000, 0), (4000, 0)])
    s.log.Pairwise Spaced ∧ Triggered 0 s.log :=
  @actions_rate_limited Int _ pickUpDevice 0 0 (enabledThen [(3000, 0), (4000, 0)]) _ (by decide)

/-! ## Which pick-ups are answered -/

/-- An interval has passed since the last action and since the last `enable`. -/
def Due (log : List (Int × Mark V)) (t : Int) : Prop :=
  ∀ m ∈ log, m.2.starts → MIN_PULSE_INTERVAL_MS ≤ t - m.1

/-- A pick-up that is due is acted on. -/
def Answers (sensorValue : V) (context : UserId) (s : Observed V) : SensorAction V → Prop
  | .sensorChanged value w t t' => (value == sensorValue) = true → Due s.log t →
      (s.sensor.onSensorChanged sensorValue context w value t t').2.isSome
  | _ => True

/-- Where a pick-up is due, an interval has passed since the clock started and since the last event
with another value that moved the timestamp. -/
def Undisturbed (sensorValue : V) (s : Observed V) : SensorAction V → Prop
  | .sensorChanged value _ t _ => (value == sensorValue) = true → Due s.log t →
      MIN_PULSE_INTERVAL_MS ≤ t ∧ ∀ m ∈ s.log, ¬ m.2.starts → MIN_PULSE_INTERVAL_MS ≤ t - m.1
  | _ => True

instance (log : List (Int × Mark V)) (t : Int) : Decidable (Due log t) :=
  inferInstanceAs (Decidable (∀ m ∈ log, m.2.starts → _))

instance (sensorValue : V) (context : UserId) (s : Observed V) :
    ∀ a, Decidable (Answers sensorValue context s a)
  | .sensorChanged value _ t _ =>
    inferInstanceAs (Decidable ((value == sensorValue) = true → Due s.log t → _))
  | .enable _ | .disable => inferInstanceAs (Decidable True)

/-- **Every pick-up that is due is acted on** in exactly the runs where no event with another value
has moved the timestamp less than an interval before it. -/
theorem pickup_answered_iff {device : Device} {sensorValue : V} {context : UserId}
    {acts : List (SensorAction V)} {s : Observed V}
    (hrun : run (step sensorValue context) (.create V device) acts = .ok s) :
    Guarded (step sensorValue context) (Answers sensorValue context) (.create V device) acts ↔
      Guarded (step sensorValue context) (Undisturbed sensorValue) (.create V device) acts := by
  refine guarded_iff (I := Dated) (fun _ _ _ hi h => hi.step h) ?_ hrun (.create device)
  intro s a s' hi _
  cases a with
  | sensorChanged value w t t' =>
    refine forall_congr' fun hvalue => forall_congr' fun hdue => ?_
    rw [PickupSensor.onSensorChanged_acts_iff hvalue, hi.stamped.elapsed_iff]
    refine and_congr_right fun _ => ⟨fun hall m hm _ => hall m hm, fun hother m hm => ?_⟩
    by_cases hstarts : m.2.starts = true
    · exact hdue m hm hstarts
    · exact hother m hm hstarts
  | enable _ => exact Iff.rfl
  | disable => exact Iff.rfl

theorem pickup_answered_iff_wakeUp :
    let acts := enabledThen [(3000, 0), (4000, 5), (5500, 0)]
    Guarded (step 0 0) (Answers 0 0) (.create Int pickUpDevice) acts ↔
      Guarded (step 0 0) (Undisturbed 0) (.create Int pickUpDevice) acts :=
  @pickup_answered_iff Int _ pickUpDevice 0 0 (enabledThen [(3000, 0), (4000, 5), (5500, 0)])
    (final (step 0 0) (.create Int pickUpDevice) (enabledThen [(3000, 0), (4000, 5), (5500, 0)]))
    (by decide)

/-- An action at 3000 and an event with another value at 6000: the pick-up at 7000 is dropped. -/
theorem pickup_dropped :
    let acts := enabledThen [(3000, 0), (6000, 5), (7000, 0)]
    (∃ s, run (step 0 0) (.create Int pickUpDevice) acts = .ok s) ∧
      ¬ Guarded (step 0 0) (Answers 0 0) (.create Int pickUpDevice) acts :=
  ⟨⟨_, rfl⟩, by decide⟩

end Observed

end RMX2020.Doze

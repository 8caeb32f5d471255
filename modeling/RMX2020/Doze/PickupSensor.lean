import RMX2020.Machine.Writes

/-!
# The pick-up sensor

`PickupSensor` registers itself with the sensor manager and unregisters itself, each time by a task
on an executor of one thread. `willBeRegistered` is the registration once that executor has run dry:
`enable` and `disable` decide it when they are called, and running a task leaves it as it is.
-/

namespace RMX2020.Doze

open Machine

structure Sensor where
  stringType : String
  deriving DecidableEq

/-- What is built into the device. -/
structure Device where
  /-- `R.string.pickup_sensor_type`. -/
  pickupSensorType : String
  /-- What the sensor manager lists. -/
  sensors : List Sensor
  /-- `AmbientDisplayConfiguration.alwaysOnAvailable`. -/
  alwaysOnAvailable : Bool

/-- A device with a pick-up sensor. -/
def pickUpDevice : Device :=
  { pickupSensorType := "android.sensor.pickup_detect"
    sensors := [⟨"android.sensor.pickup_detect"⟩]
    alwaysOnAvailable := true }

def Utils.getSensor (device : Device) (type : String) : Option Sensor :=
  device.sensors.find? fun it => it.stringType == type

/-- A task submitted to `executorService`. -/
inductive SensorTask where
  | enable
  | disable
  deriving DecidableEq

structure PickupSensor where
  sensor : Option Sensor
  /-- The listener is registered with the sensor manager. -/
  registered : Bool := false
  entryTimestamp : Int := 0
  /-- What `executorService` has yet to run. -/
  executorService : List SensorTask := []
  deriving DecidableEq

namespace PickupSensor

def create (device : Device) : PickupSensor :=
  { sensor := Utils.getSensor device device.pickupSensorType }

def submit (p : PickupSensor) (task : SensorTask) : PickupSensor :=
  { p with executorService := p.executorService ++ [task] }

def enable (p : PickupSensor) : PickupSensor := if p.sensor.isSome then p.submit .enable else p

def disable (p : PickupSensor) : PickupSensor := if p.sensor.isSome then p.submit .disable else p

/-- What a task does when the executor gets to it, at the given reading of the clock. -/
def perform (p : PickupSensor) (elapsedRealtime : Int) : SensorTask → PickupSensor
  | .enable => { p with entryTimestamp := elapsedRealtime, registered := true }
  | .disable => { p with registered := false }

/-- The executor runs its oldest task, if it has one. -/
def runTask (p : PickupSensor) (elapsedRealtime : Int) : PickupSensor :=
  match p.executorService with
  | [] => p
  | task :: rest => { p with executorService := rest }.perform elapsedRealtime task

/-- The registration a task leaves. -/
def registers : SensorTask → Bool
  | .enable => true
  | .disable => false

/-- Whether the listener is registered once the executor has run dry. -/
def willBeRegistered (p : PickupSensor) : Bool := drained registers p.registered p.executorService

variable (p : PickupSensor) (device : Device) (elapsedRealtime : Int)

@[simp] theorem willBeRegistered_submit (task : SensorTask) :
    (p.submit task).willBeRegistered = registers task := drained_push

theorem willBeRegistered_of_idle {p : PickupSensor} (h : p.executorService = []) :
    p.willBeRegistered = p.registered := by
  unfold willBeRegistered
  rw [h]
  rfl

@[simp] theorem willBeRegistered_runTask :
    (p.runTask elapsedRealtime).willBeRegistered = p.willBeRegistered := by
  unfold runTask willBeRegistered
  cases h : p.executorService with
  | nil => simp only [h]
  | cons task rest => cases task <;> rfl

theorem willBeRegistered_enable :
    p.enable.willBeRegistered = (p.sensor.isSome || p.willBeRegistered) := by
  unfold enable
  cases hs : p.sensor.isSome <;> simp [registers]

theorem willBeRegistered_disable :
    p.disable.willBeRegistered = (!p.sensor.isSome && p.willBeRegistered) := by
  unfold disable
  cases hs : p.sensor.isSome <;> simp [registers]

@[simp] theorem sensor_enable : p.enable.sensor = p.sensor := by
  unfold enable
  split <;> rfl

@[simp] theorem sensor_disable : p.disable.sensor = p.sensor := by
  unfold disable
  split <;> rfl

@[simp] theorem sensor_runTask : (p.runTask elapsedRealtime).sensor = p.sensor := by
  unfold runTask
  cases p.executorService with
  | nil => rfl
  | cons task rest => cases task <;> rfl

theorem executorService_runTask :
    (p.runTask elapsedRealtime).executorService = p.executorService.tail := by
  unfold runTask
  cases h : p.executorService with
  | nil => exact h
  | cons task rest => cases task <;> rfl

end PickupSensor

end RMX2020.Doze
